import GestureTimeline.Proofs.Batches
import GestureTimeline.Wire

/-! # The order inside a tick

    A tick puts its actions down one after another, and one of them may give its device a
    timeline before the next one looks for its own.  Still the order of a batch decides nothing
    but the order of the timelines that are new: what a tick comes to can be said of all
    timelines at once (`Timelines.grown`), and the batch enters there only through what it gives
    each device to do and through its newcomers.

    The timelines that this is said of are those to which ticks lead, the refused ones among
    them included (`Timelines.tickAll`). -/

namespace GestureTimeline

namespace Timelines

/-! ## Timelines to which ticks lead -/

/-- The timelines after ticks in order; a tick that is refused leaves them as they were. -/
def tickAll (t : Timelines) (bs : List (List DeviceAction)) : Timelines :=
  bs.foldl (fun t b => match t.tick b with
    | .ok next => next
    | .error _ => t) t

/-- Of ticks in order, those that name no device twice are taken. -/
theorem tickAll_eq_foldl_advance (t : Timelines) (bs : List (List DeviceAction)) :
    t.tickAll bs = (bs.filter fun b => (batchIds b).Nodup).foldl advance t := by
  induction bs generalizing t with
  | nil => rfl
  | cons b bs ih =>
      by_cases hb : (batchIds b).Nodup
      · have hkept : (b :: bs).filter (fun b => (batchIds b).Nodup)
            = b :: bs.filter fun b => (batchIds b).Nodup :=
          List.filter_cons_of_pos (decide_eq_true hb)
        rw [hkept, List.foldl_cons, ← ih, tickAll, List.foldl_cons, t.tick_of_nodup hb]
        rfl
      · have hdropped : (b :: bs).filter (fun b => (batchIds b).Nodup)
            = bs.filter fun b => (batchIds b).Nodup :=
          List.filter_cons_of_neg (by simpa using hb)
        rw [hdropped, ← ih, tickAll, List.foldl_cons, t.tick_of_not_nodup hb]
        rfl

/-- Ticks lead to the timelines that the taken ones among them describe. -/
theorem tickAll_empty (bs : List (List DeviceAction)) :
    empty.tickAll bs = ofBatches (counted (bs.filter fun b => (batchIds b).Nodup)) := by
  rw [tickAll_eq_foldl_advance]
  refine foldl_advance_eq_ofBatches ?_
  intro b hb
  exact of_decide_eq_true (List.mem_filter.mp hb).2

/-! ## A tick at once -/

/-- The actions of a batch whose devices have no timeline, in the order of the batch. -/
def newcomers (t : Timelines) (batch : List DeviceAction) : List DeviceAction :=
  batch.filter fun a => (t.line? a.device).isNone

/-- The timeline with which a device joins. -/
def joining (t : Timelines) (a : DeviceAction) : Timeline :=
  (Timeline.padded a.device t.ticks).push a.interaction

/-- What a tick is to make of timelines: each takes what the batch gives its device to do, and
    those of the newcomers come behind. -/
def grown (t : Timelines) (batch : List DeviceAction) : Timelines :=
  let lines := (t.lines.map fun l => l.push (stepIn batch l.device))
    ++ (t.newcomers batch).map t.joining
  { lines
    slots := (lines.map (·.device.id)).zipIdx
    ticks := t.ticks + 1 }

variable {bs : List (List DeviceAction)} {b c : List DeviceAction} {t u v : Timelines}

theorem isNone_line?_ofBatches_iff {d : Device} :
    ((ofBatches bs).line? d).isNone = true ↔ d.id ∉ (devicesOf bs).map Device.id := by
  rw [← isSome_line?_ofBatches_iff, Option.isNone_iff_eq_none, Option.not_isSome_iff_eq_none]

/-- One more batch brings the devices of its newcomers. -/
theorem devicesOf_append_newcomers (hnd : (batchIds b).Nodup) :
    devicesOf (bs ++ [b])
      = devicesOf bs ++ ((ofBatches bs).newcomers b).map (·.device) := by
  induction b using List.reverseRecOn with
  | nil => simp [devicesOf, newcomers]
  | append_singleton b a ih =>
      rw [batchIds, List.map_append, List.map_singleton, List.nodup_append] at hnd
      obtain ⟨hnd, -, hne⟩ := hnd
      have hfresh : a.device.id ∉ batchIds b := by
        intro hmem
        exact hne _ hmem _ (List.mem_singleton.mpr rfl) rfl
      -- the devices of the batch before are other ones, so only the old timelines matter
      have hmem : a.device.id ∈ (devicesOf (bs ++ [b])).map Device.id
          ↔ a.device.id ∈ (devicesOf bs).map Device.id := by
        rw [mem_map_id_devicesOf, mem_map_id_devicesOf]
        constructor
        · rintro ⟨x, hx, hin⟩
          rcases List.mem_append.mp hx with hx | hx
          · exact ⟨x, hx, hin⟩
          · rw [List.mem_singleton.mp hx] at hin
            exact absurd hin hfresh
        · rintro ⟨x, hx, hin⟩
          exact ⟨x, List.mem_append_left _ hx, hin⟩
      have hsplit : (ofBatches bs).newcomers (b ++ [a])
          = (ofBatches bs).newcomers b
            ++ [a].filter fun x => ((ofBatches bs).line? x.device).isNone :=
        List.filter_append ..
      rw [devicesOf_append_singleton, hsplit, List.map_append, ← List.append_assoc, ← ih hnd]
      by_cases ha : a.device.id ∈ (devicesOf bs).map Device.id
      · have hold : [a].filter (fun x => ((ofBatches bs).line? x.device).isNone) = [] :=
          List.filter_cons_of_neg fun h => isNone_line?_ofBatches_iff.mp h ha
        rw [if_pos (hmem.mpr ha), hold, List.map_nil, List.append_nil]
      · have hnew : [a].filter (fun x => ((ofBatches bs).line? x.device).isNone) = [a] :=
          List.filter_cons_of_pos (isNone_line?_ofBatches_iff.mpr ha)
        rw [if_neg (fun h => ha (hmem.mp h)), hnew]
        rfl

/-- A tick makes of timelines what it is to. -/
theorem advance_ofBatches_eq_grown (hnd : (batchIds b).Nodup)
    (hdevices : devicesOf (bs ++ [b]) ≠ []) :
    (ofBatches bs).advance b = (ofBatches bs).grown b := by
  have hjoin : ∀ a ∈ (ofBatches bs).newcomers b,
      (⟨a.device, (bs ++ [b]).map fun x => stepIn x a.device⟩ : Timeline)
        = (ofBatches bs).joining a := by
    intro a ha
    obtain ⟨hab, hnew⟩ := List.mem_filter.mp ha
    have hnone : ∀ x ∈ bs, a.device.id ∉ batchIds x :=
      line?_ofBatches_eq_none_iff.mp (Option.isNone_iff_eq_none.mp hnew)
    have hact : stepIn b a.device = a.interaction :=
      stepIn_of_mem hnd hab (Device.isSame_iff.mpr rfl)
    rw [List.map_append, map_stepIn_of_notMem hnone, List.map_singleton, hact]
    rfl
  have hlines : (ofBatches (bs ++ [b])).lines = ((ofBatches bs).grown b).lines := by
    show (devicesOf (bs ++ [b])).map _ = _
    rw [devicesOf_append_newcomers hnd, List.map_append, List.map_map]
    show _ = (List.map _ (List.map _ (devicesOf bs))) ++ _
    rw [List.map_map]
    congr 1
    · refine List.map_congr_left fun d _ => ?_
      show (⟨d, _⟩ : Timeline) = ⟨d, _⟩
      rw [List.map_append]
      rfl
    · exact List.map_congr_left hjoin
  rw [advance_ofBatches hnd hdevices]
  refine Timelines.mk.injEq .. ▸ ⟨hlines, ?_, ?_⟩
  · have hslots := (indexed_ofBatches (bs ++ [b])).slots_eq
    rw [ids, hlines] at hslots
    exact hslots
  · exact List.length_append

/-! ## Batches that differ in order -/

theorem stepIn_perm (hnd : (batchIds b).Nodup) (hperm : b.Perm c) (d : Device) :
    stepIn b d = stepIn c d := by
  have hids : (batchIds b).Perm (batchIds c) := hperm.map _
  by_cases hd : d.id ∈ batchIds b
  · obtain ⟨a, ha, had⟩ := List.mem_map.mp hd
    have hsame : a.device.isSame d = true := Device.isSame_iff.mpr had
    rw [stepIn_of_mem hnd ha hsame,
      stepIn_of_mem (hids.nodup_iff.mp hnd) (hperm.mem_iff.mp ha) hsame]
  · rw [stepIn_of_notMem hd, stepIn_of_notMem fun h => hd (hids.mem_iff.mpr h)]

theorem newcomers_perm (t : Timelines) (hperm : b.Perm c) :
    (t.newcomers b).Perm (t.newcomers c) :=
  hperm.filter _

theorem newcomers_eq_nil (h : ∀ a ∈ b, (t.line? a.device).isSome = true) :
    t.newcomers b = [] := by
  refine List.filter_eq_nil_iff.mpr ?_
  intro a ha
  rw [← Option.not_isSome, h a ha]
  exact Bool.false_ne_true

theorem joining_injective (t : Timelines) : Function.Injective t.joining := by
  rintro ⟨d, i⟩ ⟨e, j⟩ h
  have hdevice : d = e := congrArg Timeline.device h
  subst hdevice
  have hsteps : List.replicate t.ticks .idle ++ [i] = List.replicate t.ticks .idle ++ [j] :=
    congrArg Timeline.steps h
  rw [List.singleton_inj.mp (List.append_cancel_left hsteps)]

/-- How the outcomes of a tick are to differ when its batch comes in two orders: they have the
    timelines of the known devices in common, and behind them those of the newcomers, each in the
    order of its batch. -/
structure DifferInOrder (t : Timelines) (b c : List DeviceAction) (u v : Timelines) : Prop where
  ticks_eq : u.ticks = v.ticks
  line?_eq : ∀ d, u.line? d = v.line? d
  lines_eq : ∃ known, known.map Timeline.device = t.lines.map Timeline.device
    ∧ u.lines = known ++ (t.newcomers b).map t.joining
    ∧ v.lines = known ++ (t.newcomers c).map t.joining
  slots_eq : u.slots = u.ids.zipIdx ∧ v.slots = v.ids.zipIdx
  newcomers_perm : (t.newcomers b).Perm (t.newcomers c)
  eq_iff : u = v ↔ t.newcomers b = t.newcomers c
  eq_of_known : (∀ a ∈ b, (t.line? a.device).isSome = true) → u = v
  payload_eq : (∀ a ∈ b, (t.line? a.device).isSome = true) → ∀ composite,
    Plan.toValue ⟨u.lines, composite⟩ = Plan.toValue ⟨v.lines, composite⟩
      ∧ Plan.toText ⟨u.lines, composite⟩ = Plan.toText ⟨v.lines, composite⟩

/-- Outcomes that have all but their newcomers in common differ in order at most. -/
theorem differInOrder_of_lines (hperm : b.Perm c) (hu : u.Indexed) (hv : v.Indexed)
    (hticks : u.ticks = v.ticks) {known : List Timeline}
    (hdevices : known.map Timeline.device = t.lines.map Timeline.device)
    (hul : u.lines = known ++ (t.newcomers b).map t.joining)
    (hvl : v.lines = known ++ (t.newcomers c).map t.joining) :
    DifferInOrder t b c u v := by
  have hlines : u.lines.Perm v.lines := by
    rw [hul, hvl]
    exact ((newcomers_perm t hperm).map _).append_left known
  have heq : u = v ↔ t.newcomers b = t.newcomers c := by
    constructor
    · rintro rfl
      have hsame := List.append_cancel_left (hul.symm.trans hvl)
      exact List.map_injective_iff.mpr t.joining_injective hsame
    · intro h
      refine hu.ext hv ?_ hticks
      rw [hul, hvl, h]
  have hknown : (∀ a ∈ b, (t.line? a.device).isSome = true) → u = v := by
    intro h
    have hnone : t.newcomers c = [] := by
      refine newcomers_eq_nil ?_
      intro a ha
      exact h a (hperm.mem_iff.mpr ha)
    rw [heq, newcomers_eq_nil h, hnone]
  refine ⟨hticks, hu.line?_perm hv hlines, ⟨known, hdevices, hul, hvl⟩,
    ⟨hu.slots_eq, hv.slots_eq⟩, newcomers_perm t hperm, heq, hknown, ?_⟩
  intro h composite
  rw [hknown h]
  exact ⟨rfl, rfl⟩

/-- Without a device, an empty batch is no tick. -/
theorem advance_nil_of_no_device (h : devicesOf bs = []) :
    (ofBatches bs).advance [] = ofBatches bs := by
  have hlines : (ofBatches bs).lines = [] := List.map_eq_nil_iff.mpr h
  rw [advance, List.foldl_nil, hlines]
  rfl

theorem devicesOf_append_eq_nil_iff :
    devicesOf (bs ++ [b]) = [] ↔ devicesOf bs = [] ∧ b = [] := by
  simp only [devicesOf_eq_nil_iff, List.forall_mem_append, List.forall_mem_singleton]

/-- In timelines of batches, the order of a batch decides only that of the newcomers. -/
theorem differInOrder_advance (hnd : (batchIds b).Nodup) (hperm : b.Perm c) :
    DifferInOrder (ofBatches bs) b c ((ofBatches bs).advance b) ((ofBatches bs).advance c) := by
  have hnd' : (batchIds c).Nodup := (hperm.map _).nodup_iff.mp hnd
  by_cases hdevices : devicesOf (bs ++ [b]) = []
  · -- nothing has acted and nothing acts now
    obtain ⟨hbs, rfl⟩ := devicesOf_append_eq_nil_iff.mp hdevices
    obtain rfl := hperm.nil_eq
    rw [advance_nil_of_no_device hbs]
    exact differInOrder_of_lines hperm (indexed_ofBatches bs) (indexed_ofBatches bs) rfl rfl
      (List.append_nil _).symm (List.append_nil _).symm
  · have hdevices' : devicesOf (bs ++ [c]) ≠ [] := by
      intro hnil
      obtain ⟨hbs, rfl⟩ := devicesOf_append_eq_nil_iff.mp hnil
      exact hdevices (devicesOf_append_eq_nil_iff.mpr ⟨hbs, hperm.eq_nil⟩)
    have hu := indexed_ofBatches (bs ++ [b])
    have hv := indexed_ofBatches (bs ++ [c])
    rw [← advance_ofBatches hnd hdevices, advance_ofBatches_eq_grown hnd hdevices] at hu
    rw [← advance_ofBatches hnd' hdevices', advance_ofBatches_eq_grown hnd' hdevices'] at hv
    rw [advance_ofBatches_eq_grown hnd hdevices, advance_ofBatches_eq_grown hnd' hdevices']
    -- what the known devices do does not depend on the order
    have hknown : ((ofBatches bs).lines.map fun l => l.push (stepIn c l.device))
        = (ofBatches bs).lines.map fun l => l.push (stepIn b l.device) := by
      refine List.map_congr_left fun l _ => ?_
      rw [stepIn_perm hnd hperm]
    refine differInOrder_of_lines hperm hu hv rfl ?_ rfl (congrArg (· ++ _) hknown)
    rw [List.map_map]
    rfl

/-- **The order inside a tick is irrelevant.** -/
theorem tick_order_irrelevant (bs : List (List DeviceAction)) (b c : List DeviceAction)
    (hnd : (batchIds b).Nodup) (hperm : b.Perm c) :
    ∃ u v, (empty.tickAll bs).tick b = .ok u ∧ (empty.tickAll bs).tick c = .ok v
      ∧ DifferInOrder (empty.tickAll bs) b c u v := by
  have hnd' : (batchIds c).Nodup := (hperm.map _).nodup_iff.mp hnd
  refine ⟨_, _, if_pos hnd, if_pos hnd', ?_⟩
  rw [tickAll_empty]
  exact differInOrder_advance hnd hperm

/-- A pen and a finger come in beside a mouse that is known, behind a tick that is refused. -/
theorem tick_order_irrelevant_newcomers :
    let mouse : Pointer := ⟨.nth 0, some "mouse", .mouse, true⟩
    let pen : Pointer := ⟨.nth 2, some "pen", .pen, false⟩
    let finger : Pointer := ⟨.nth 3, none, .touch, false⟩
    let bs := [[mouse.down 0], [pen.down 0, pen.up 0]]
    let b := [pen.down 0, mouse.up 0, finger.down 0]
    let c := [finger.down 0, mouse.up 0, pen.down 0]
    ((batchIds b).Nodup ∧ b.Perm c)
      ∧ ∃ u v, (empty.tickAll bs).tick b = .ok u ∧ (empty.tickAll bs).tick c = .ok v
        ∧ DifferInOrder (empty.tickAll bs) b c u v := by
  intro mouse pen finger bs b c
  have hnd : (batchIds b).Nodup := by decide
  have hperm : b.Perm c := (List.reverse_perm b).symm
  exact ⟨⟨hnd, hperm⟩, tick_order_irrelevant bs b c hnd hperm⟩

end Timelines

end GestureTimeline
