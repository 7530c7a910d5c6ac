import GestureTimeline.Proofs.Dispatch
import GestureTimeline.Proofs.Histories

/-! # Plans only grow

    A session never takes back what it holds: whatever happens between two builds, the later plan
    has the earlier one as its beginning.  The timelines are those of a list of batches, so it is
    enough to see what more batches do to them (`Plan.growsInto_ofBatches`).  They bring further
    devices behind the known ones and further steps behind the known ones, and a device that is
    new idles up to them.

    Growth without more ticks is no growth of the timelines, so two plans of a session that agree
    in their numbers of ticks and of gestures are one plan. -/

namespace GestureTimeline

/-- What stands at a position of a list stands there in every longer one. -/
theorem getElem?_of_prefix {α : Type} {xs ys : List α} (h : xs <+: ys) {i : Nat} {a : α}
    (ha : xs[i]? = some a) : ys[i]? = some a := by
  obtain ⟨hlt, rfl⟩ := List.getElem?_eq_some_iff.mp ha
  exact List.prefix_iff_getElem?.mp h i hlt

/-! ## More batches -/

namespace Device

/-- The first occurrences in a longer list begin with those in a shorter one. -/
theorem firsts_prefix_append (ds es : List Device) : firsts ds <+: firsts (ds ++ es) := by
  induction es using List.reverseRecOn with
  | nil => simp only [List.append_nil, List.prefix_rfl]
  | append_singleton es e ih =>
      rw [← List.append_assoc, firsts_append_singleton]
      by_cases he : e.id ∈ (ds ++ es).map id
      · rw [if_pos he]
        exact ih
      · rw [if_neg he]
        exact ih.trans (List.prefix_append _ _)

end Device

namespace Timelines

theorem devicesOf_prefix_append (bs cs : List (List DeviceAction)) :
    devicesOf bs <+: devicesOf (bs ++ cs) := by
  rw [devicesOf, devicesOf, List.flatten_append, List.map_append]
  exact Device.firsts_prefix_append _ _

/-- The batches that count go on counting. -/
theorem counted_prefix_append (bs cs : List (List DeviceAction)) :
    counted bs <+: counted (bs ++ cs) := by
  rw [counted, counted, List.dropWhile_append]
  by_cases h : (bs.dropWhile List.isEmpty).isEmpty = true
  · rw [List.isEmpty_iff.mp h]
    exact List.nil_prefix
  · rw [if_neg h]
    exact List.prefix_append _ _

/-- A timeline that batches describe, at its position. -/
theorem getElem?_lines_ofBatches {bs : List (List DeviceAction)} {i : Nat} {l : Timeline}
    (h : (ofBatches bs).lines[i]? = some l) :
    (devicesOf bs)[i]? = some l.device ∧ l.steps = bs.map fun b => stepIn b l.device := by
  rw [ofBatches, List.getElem?_map, Option.map_eq_some_iff] at h
  obtain ⟨d, hd, rfl⟩ := h
  exact ⟨hd, rfl⟩

end Timelines

namespace Plan

/-- What it is for a plan to have grown into a later one: nothing in it has changed, and what is
    new comes behind it. -/
structure GrowsInto (p q : Plan) : Prop where
  devices_grow : p.timelines.map Timeline.device <+: q.timelines.map Timeline.device
  steps_grow : ∀ (i : Nat) l m, p.timelines[i]? = some l → q.timelines[i]? = some m →
    l.steps <+: m.steps
  late_idle : ∀ m ∈ q.timelines, (∀ l ∈ p.timelines, l.device.isSame m.device = false) →
    List.replicate p.tickCount .idle <+: m.steps
  composite_grows : p.composite <+: q.composite

/-- The timelines of a plan that has grown are at their places in the later plan. -/
theorem GrowsInto.exists_timeline {p q : Plan} (h : p.GrowsInto q) {i : Nat} {l : Timeline}
    (hl : p.timelines[i]? = some l) :
    ∃ m, q.timelines[i]? = some m ∧ m.device = l.device ∧ l.steps <+: m.steps := by
  have hdevice : (q.timelines.map Timeline.device)[i]? = some l.device := by
    refine getElem?_of_prefix h.devices_grow ?_
    rw [List.getElem?_map, hl]
    rfl
  rw [List.getElem?_map, Option.map_eq_some_iff] at hdevice
  obtain ⟨m, hm, hml⟩ := hdevice
  exact ⟨m, hm, hml, h.steps_grow i l m hl hm⟩

/-- The timelines of batches grow into those of more batches. -/
theorem growsInto_ofBatches {bs cs : List (List DeviceAction)} {gs hs : List Gesture}
    (hticks : tickCount ⟨(Timelines.ofBatches bs).lines, gs⟩ = bs.length)
    (hbatches : bs <+: cs) (hgestures : gs <+: hs) :
    GrowsInto ⟨(Timelines.ofBatches bs).lines, gs⟩ ⟨(Timelines.ofBatches cs).lines, hs⟩ := by
  obtain ⟨more, rfl⟩ := hbatches
  have hdevices := Timelines.devicesOf_prefix_append bs more
  refine ⟨?_, ?_, ?_, hgestures⟩
  · rw [Timelines.map_device_ofBatches, Timelines.map_device_ofBatches]
    exact hdevices
  · intro i l m hl hm
    obtain ⟨hld, hls⟩ := Timelines.getElem?_lines_ofBatches hl
    obtain ⟨hmd, hms⟩ := Timelines.getElem?_lines_ofBatches hm
    -- both timelines belong to the device at this position
    have hsame := getElem?_of_prefix hdevices hld
    rw [hmd, Option.some.injEq] at hsame
    rw [hls, hms, hsame, List.map_append]
    exact List.prefix_append _ _
  · intro m hm hnew
    obtain ⟨d, -, rfl⟩ := List.mem_map.mp hm
    have hnone : ∀ b ∈ bs, d.id ∉ Timelines.batchIds b := by
      intro b hb hin
      obtain ⟨e, he, hed⟩ := List.mem_map.mp (Timelines.mem_map_id_devicesOf.mpr ⟨b, hb, hin⟩)
      exact Device.isSame_eq_false_iff.mp (hnew _ (List.mem_map_of_mem he)) hed
    rw [hticks, ← Timelines.map_stepIn_of_notMem hnone]
    show bs.map _ <+: (bs ++ more).map _
    rw [List.map_append]
    exact List.prefix_append _ _

/-! ## Plans that are the same -/

theorem isSame_iff {p q : Plan} :
    p.isSame q = true
      ↔ List.Forall₂ (fun a b => a.isSame b = true) p.timelines q.timelines
        ∧ p.composite = q.composite := by
  rw [isSame, Bool.and_eq_true, Bool.and_eq_true, beq_iff_eq, beq_iff_eq, List.all_eq_true,
    List.forall₂_iff_zip]
  simp only [Prod.forall]

theorem isSame_self (p : Plan) : p.isSame p = true := by
  refine isSame_iff.mpr ⟨List.forall₂_same.mpr fun t _ => ?_, rfl⟩
  rw [Timeline.isSame, Device.isSame_iff.mpr rfl, beq_self_eq_true]
  rfl

/-- Plans that are the same have the same number of ticks. -/
theorem tickCount_eq_of_isSame {p q : Plan} (h : p.isSame q = true) :
    p.tickCount = q.tickCount := by
  obtain ⟨ps, gs⟩ := p
  obtain ⟨qs, hs⟩ := q
  obtain ⟨hlines, -⟩ := isSame_iff.mp h
  show tickCount ⟨ps, gs⟩ = tickCount ⟨qs, hs⟩
  cases hlines with
  | nil => rfl
  | cons hab _ =>
      obtain ⟨-, hsteps⟩ := Bool.and_eq_true_iff.mp hab
      exact congrArg List.length (beq_iff_eq.mp hsteps)

end Plan

/-! ## More calls -/

namespace Session

theorem events_append (s : Session) (cs ds : List Call) :
    s.events (cs ++ ds) = s.events cs ++ (s.run cs).events ds := by
  induction cs generalizing s with
  | nil => rfl
  | cons c cs ih =>
      rw [List.cons_append, events_cons, events_cons, ih, List.append_assoc]
      rfl

/-- More calls bring more batches that count. -/
theorem counted_batches_prefix_append (s : Session) (cs ds : List Call) :
    Timelines.counted (s.batches cs) <+: Timelines.counted (s.batches (cs ++ ds)) := by
  rw [batches, batches, events_append, List.flatMap_append]
  exact Timelines.counted_prefix_append _ _

/-- The composite list is only added to. -/
theorem composite_prefix_receiveAll (s : Session) (es : List Event) :
    s.composite <+: (s.receiveAll es).composite := by
  induction es generalizing s with
  | nil => exact List.prefix_refl _
  | cons e es ih =>
      refine List.IsPrefix.trans ?_ (ih (s.receive e))
      cases e with
      | gesture p g =>
          show s.composite <+: if s.isRecording then s.composite ++ [g] else s.composite
          cases s.isRecording with
          | true => exact List.prefix_append _ _
          | false => exact List.prefix_refl _
      | tick _ | fault _ | policy _ | device => exact List.prefix_refl _

/-- A plan built after further calls has grown from the one before. -/
theorem growsInto_of_build {o : Opening} {cs ds : List Call} {p q : Plan}
    (hp : (o.session.run cs).build = .ok p) (hq : (o.session.run (cs ++ ds)).build = .ok q) :
    p.GrowsInto q := by
  have hticks := tickCount_of_build hp
  obtain ⟨-, rfl⟩ := build_eq_ok_iff.mp hp
  obtain ⟨-, rfl⟩ := build_eq_ok_iff.mp hq
  have hbatches := o.session.counted_batches_prefix_append cs ds
  have hgestures : (o.session.run cs).composite <+: (o.session.run (cs ++ ds)).composite := by
    rw [run_append, run_eq_receiveAll (o.session.run cs)]
    exact composite_prefix_receiveAll _ _
  rw [run_timelines] at hticks
  rw [run_timelines, run_timelines]
  exact Plan.growsInto_ofBatches hticks hbatches hgestures

/-- Without more ticks and gestures, a later plan is the earlier one. -/
theorem eq_of_build_of_counts {o : Opening} {cs ds : List Call} {p q : Plan}
    (hp : (o.session.run cs).build = .ok p) (hq : (o.session.run (cs ++ ds)).build = .ok q)
    (hticks : p.tickCount = q.tickCount)
    (hgestures : p.composite.length = q.composite.length) : p = q := by
  have hcomposite := (growsInto_of_build hp hq).composite_grows.eq_of_length hgestures
  -- batches that are as many are the same ones, and the timelines follow from them
  have hbatches : Timelines.counted (o.session.batches cs)
      = Timelines.counted (o.session.batches (cs ++ ds)) := by
    rw [tickCount_of_build hp, tickCount_of_build hq] at hticks
    exact (o.session.counted_batches_prefix_append cs ds).eq_of_length hticks
  obtain ⟨-, rfl⟩ := build_eq_ok_iff.mp hp
  obtain ⟨-, rfl⟩ := build_eq_ok_iff.mp hq
  rw [Plan.mk.injEq, run_timelines, run_timelines, hbatches]
  exact ⟨rfl, hcomposite⟩

end Session

namespace Scene

/-- **Plans of a session only grow, and equal numbers of ticks and of gestures mean that nothing
    was added.** -/
theorem later_build_grows (o : Opening) (hs more : List Happening) (p q : Plan)
    (hp : ((opened o).happenAll hs).session.build = .ok p)
    (hq : ((opened o).happenAll (hs ++ more)).session.build = .ok q) :
    p.GrowsInto q
      ∧ (p.isSame q = true
        ↔ p.tickCount = q.tickCount ∧ p.composite.length = q.composite.length)
      ∧ (p.isSame q = true ↔ p = q) := by
  rw [happenAll_session] at hp
  rw [happenAll_session, List.filterMap_append] at hq
  have heq : p.isSame q = true → p.tickCount = q.tickCount
      ∧ p.composite.length = q.composite.length := fun h =>
    ⟨Plan.tickCount_eq_of_isSame h, congrArg List.length (Plan.isSame_iff.mp h).2⟩
  have hcounts : p.tickCount = q.tickCount ∧ p.composite.length = q.composite.length → p = q :=
    fun h => Session.eq_of_build_of_counts hp hq h.1 h.2
  refine ⟨Session.growsInto_of_build hp hq, ⟨heq, ?_⟩, ⟨hcounts ∘ heq, ?_⟩⟩
  · intro h
    rw [hcounts h]
    exact q.isSame_self
  · rintro rfl
    exact p.isSame_self

/-- A pen that comes in after a click and a build. -/
theorem later_build_grows_pen :
    let o := Opening.onEndpoint ⟨true, none⟩
    let answers : Answers := ⟨some (.command "session deleted"), fun _ => none⟩
    let pen : Pointer := ⟨.nth 2, some "pen", .pen, false⟩
    let hs : List Happening := [.call .click, .build]
    let more : List Happening :=
      [.perform answers, .call (.newPointer .pen (some "pen")),
        .call (.tick [pen.down 0, pen.up 0]), .call (.tick [pen.down 0]), .offer ⟨false, none⟩,
        .call .release]
    let p : Plan := ⟨((opened o).happenAll hs).session.timelines.lines, []⟩
    let q : Plan := ⟨((opened o).happenAll (hs ++ more)).session.timelines.lines, []⟩
    (((opened o).happenAll hs).session.build = .ok p
        ∧ ((opened o).happenAll (hs ++ more)).session.build = .ok q)
      ∧ p.GrowsInto q
      ∧ (p.isSame q = true
        ↔ p.tickCount = q.tickCount ∧ p.composite.length = q.composite.length)
      ∧ (p.isSame q = true ↔ p = q) := by
  intro o answers pen hs more p q
  have hp : ((opened o).happenAll hs).session.build = .ok p := rfl
  have hq : ((opened o).happenAll (hs ++ more)).session.build = .ok q := rfl
  exact ⟨⟨hp, hq⟩, later_build_grows o hs more p q hp hq⟩

end Scene

end GestureTimeline
