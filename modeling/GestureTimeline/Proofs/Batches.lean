import GestureTimeline.Timelines
import Mathlib.Data.List.Nodup
import Mathlib.Data.List.Induction

/-! # Timelines of batches

    Timelines grow by one batch at a time, through slots that are looked up and filled up
    while the batch is placed.  They can also be written down at once: a list of batches has its
    devices in the order in which they first occur, and each of these does in every tick what
    the batch of that tick says, or idles (`ofBatches`).

    The main statement is that growing leads there (`foldl_advance_eq_ofBatches`).  Its core is
    the state in the middle of a tick (`midTick`), which `place` keeps action by action. -/

namespace GestureTimeline

/-! ## The devices of a list, each where it first occurs -/

namespace Device

/-- The devices of a list, each at its first occurrence. -/
def firsts (ds : List Device) : List Device := ds.eraseDupsBy isSame

theorem isSame_iff {a b : Device} : a.isSame b = true ↔ a.id = b.id := beq_iff_eq

theorem isSame_eq_false_iff {a b : Device} : a.isSame b = false ↔ a.id ≠ b.id :=
  beq_eq_false_iff_ne

theorem isSame_comm (a b : Device) : a.isSame b = b.isSame a := BEq.comm

theorem firsts_cons (d : Device) (ds : List Device) :
    firsts (d :: ds) = d :: firsts (ds.filter fun e => e.isSame d = false) := by
  rw [firsts, List.eraseDupsBy_cons]
  rfl

/-- A further device is new unless its identity occurred before. -/
theorem firsts_append_singleton (ds : List Device) (d : Device) :
    firsts (ds ++ [d]) = if d.id ∈ ds.map id then firsts ds else firsts ds ++ [d] := by
  -- the devices behind the first are filtered, so the induction is on their number
  induction h : ds.length using Nat.strongRecOn generalizing ds with
  | ind n ih =>
      cases ds with
      | nil => rfl
      | cons e es =>
          rw [List.cons_append, firsts_cons, firsts_cons, List.filter_append]
          have hlen : (es.filter fun x => x.isSame e = false).length < n := by
            have := List.length_filter_le (fun x => x.isSame e = false) es
            rw [← h, List.length_cons]
            omega
          by_cases hde : d.id = e.id
          · have hout : [d].filter (fun x => x.isSame e = false) = [] := by
              simp [isSame, hde]
            rw [hout, List.append_nil, if_pos (by simp [hde])]
          · have hin : [d].filter (fun x => x.isSame e = false) = [d] := by
              simp [isSame, hde]
            rw [hin, ih _ hlen _ rfl]
            have hmem : d.id ∈ (es.filter fun x => x.isSame e = false).map id
                ↔ d.id ∈ (e :: es).map id := by
              simp only [List.mem_map, List.mem_filter, List.mem_cons, decide_eq_true_eq]
              constructor
              · rintro ⟨x, ⟨hx, -⟩, hxd⟩
                exact ⟨x, Or.inr hx, hxd⟩
              · rintro ⟨x, rfl | hx, hxd⟩
                · exact absurd hxd.symm hde
                · refine ⟨x, ⟨hx, isSame_eq_false_iff.mpr ?_⟩, hxd⟩
                  rw [hxd]
                  exact hde
            by_cases hd : d.id ∈ (e :: es).map id
            · rw [if_pos (hmem.mpr hd), if_pos hd]
            · rw [if_neg (fun hf => hd (hmem.mp hf)), if_neg hd, List.cons_append]

theorem mem_map_id_firsts (ds : List Device) (i : DeviceId) :
    i ∈ (firsts ds).map id ↔ i ∈ ds.map id := by
  induction ds using List.reverseRecOn with
  | nil => rfl
  | append_singleton ds d ih =>
      rw [firsts_append_singleton]
      by_cases hd : d.id ∈ ds.map id
      · rw [if_pos hd, ih]
        simp only [List.map_append, List.map_singleton, List.mem_append, List.mem_singleton]
        constructor
        · exact Or.inl
        · rintro (hi | rfl)
          · exact hi
          · exact hd
      · rw [if_neg hd]
        simp only [List.map_append, List.map_singleton, List.mem_append, ih]

theorem nodup_map_id_firsts (ds : List Device) : ((firsts ds).map id).Nodup := by
  induction ds using List.reverseRecOn with
  | nil => exact List.nodup_nil
  | append_singleton ds d ih =>
      rw [firsts_append_singleton]
      by_cases hd : d.id ∈ ds.map id
      · rw [if_pos hd]
        exact ih
      · rw [if_neg hd, List.map_append, List.map_singleton]
        refine List.nodup_append.mpr ⟨ih, List.nodup_singleton _, ?_⟩
        intro i hi j hj hij
        rw [List.mem_singleton] at hj
        rw [hij, hj, mem_map_id_firsts] at hi
        exact hd hi

end Device

/-! ## Slots -/

/-- A list of elements with their positions looks an element up at its first position. -/
theorem lookup_zipIdx {α : Type} [BEq α] [LawfulBEq α] (l : List α) (a : α) (k : Nat) :
    (l.zipIdx k).lookup a = (l.idxOf? a).map (· + k) := by
  induction l generalizing k with
  | nil => rfl
  | cons b l ih =>
      rw [List.zipIdx_cons, List.lookup_cons, List.idxOf?_cons, ih]
      by_cases hab : a = b
      · subst hab
        simp
      · have hab' : (a == b) = false := beq_false_of_ne hab
        have hba' : (b == a) = false := beq_false_of_ne fun h => hab h.symm
        rw [hab', hba']
        cases l.idxOf? a with
        | none => rfl
        | some i => exact congrArg some (Nat.add_right_comm i k 1)

/-- Changing the element at the position of a key is changing the elements of that key. -/
theorem modify_eq_map_of_nodup {α β : Type} [DecidableEq β] (key : α → β) (f : α → α)
    {l : List α} {b : β} {i : Nat} (hnd : (l.map key).Nodup) (hi : (l.map key)[i]? = some b) :
    l.modify i f = l.map fun a => if key a = b then f a else a := by
  refine List.ext_getElem? fun j => ?_
  rw [List.getElem?_modify, List.getElem?_map]
  cases hj : l[j]? with
  | none => rfl
  | some a =>
      have hkey : (l.map key)[j]? = some (key a) := by rw [List.getElem?_map, hj]; rfl
      by_cases hij : i = j
      · subst hij
        have hab : key a = b := Option.some.inj (hkey.symm.trans hi)
        simp [hab]
      · have hab : key a ≠ b := by
          intro hab
          rw [hab] at hkey
          have hlt : i < (l.map key).length := (List.getElem?_eq_some_iff.mp hi).1
          exact hij ((List.getElem?_inj hlt hnd).mp (hi.trans hkey.symm))
        simp [hij, hab]

namespace Timelines

/-- The identities of the devices that have a timeline, in the order of the timelines. -/
def ids (t : Timelines) : List DeviceId := t.lines.map (·.device.id)

/-- The slots are exact: each device that has a timeline has one only, and its slot is the
    position of that timeline. -/
structure Indexed (t : Timelines) : Prop where
  slots_eq : t.slots = t.ids.zipIdx
  nodup : t.ids.Nodup

variable {t : Timelines} {a : DeviceAction}

theorem Indexed.slot?_eq (h : t.Indexed) (i : DeviceId) : t.slot? i = t.ids.idxOf? i := by
  rw [slot?, h.slots_eq, lookup_zipIdx]
  cases t.ids.idxOf? i <;> rfl

/-- A slot is where the identity stands, which stands in one place only. -/
theorem Indexed.slot?_eq_some_iff (h : t.Indexed) {i : DeviceId} {n : Nat} :
    t.slot? i = some n ↔ t.ids[n]? = some i := by
  rw [h.slot?_eq]
  constructor
  · intro hn
    obtain ⟨hlt, hi, -⟩ := List.idxOf?_eq_some_iff.mp hn
    rw [List.getElem?_eq_getElem hlt, hi]
  · intro hn
    cases hm : t.ids.idxOf? i with
    | none => exact absurd (List.mem_of_getElem? hn) (List.idxOf?_eq_none_iff.mp hm)
    | some m =>
        obtain ⟨hlt, hi, -⟩ := List.idxOf?_eq_some_iff.mp hm
        have hmn : t.ids[m]? = t.ids[n]? := by rw [hn, List.getElem?_eq_getElem hlt, hi]
        rw [(List.getElem?_inj hlt h.nodup).mp hmn]

theorem Indexed.slot?_eq_none_iff (h : t.Indexed) {i : DeviceId} :
    t.slot? i = none ↔ i ∉ t.ids := by
  rw [h.slot?_eq, List.idxOf?_eq_none_iff]

theorem getElem?_ids_eq_some_iff {i : DeviceId} {n : Nat} :
    t.ids[n]? = some i ↔ ∃ l, t.lines[n]? = some l ∧ l.device.id = i := by
  rw [ids, List.getElem?_map, Option.map_eq_some_iff]

/-- A device with a timeline has its action put at the end of that timeline. -/
theorem Indexed.place_of_mem (h : t.Indexed) (ha : a.device.id ∈ t.ids) :
    t.place a
      = { t with
          lines := t.lines.map fun l =>
            if l.device.id = a.device.id then l.push a.interaction else l } := by
  cases hslot : t.slot? a.device.id with
  | none => exact absurd ha (h.slot?_eq_none_iff.mp hslot)
  | some i =>
      have hget := h.slot?_eq_some_iff.mp hslot
      simp only [place, hslot]
      rw [modify_eq_map_of_nodup (fun l : Timeline => l.device.id) _ h.nodup hget]

/-- A device without a timeline gets the next slot, and a timeline that idles up to its action. -/
theorem Indexed.place_of_notMem (h : t.Indexed) (ha : a.device.id ∉ t.ids) :
    t.place a
      = { t with
          lines := t.lines ++ [(Timeline.padded a.device t.ticks).push a.interaction]
          slots := t.slots ++ [(a.device.id, t.lines.length)] } := by
  simp only [place, h.slot?_eq_none_iff.mpr ha]

/-! ## The timelines that batches describe -/

/-- What a device does in the tick of a batch: its action, or nothing if it has none. -/
def stepIn (batch : List DeviceAction) (d : Device) : Interaction :=
  ((batch.find? fun a => a.device.isSame d).map (·.interaction)).getD .idle

/-- The devices of batches, in the order in which they first occur. -/
def devicesOf (bs : List (List DeviceAction)) : List Device :=
  Device.firsts (bs.flatten.map (·.device))

/-- The timelines that batches describe, one tick for each batch. -/
def ofBatches (bs : List (List DeviceAction)) : Timelines where
  lines := (devicesOf bs).map fun d => ⟨d, bs.map fun b => stepIn b d⟩
  slots := ((devicesOf bs).map Device.id).zipIdx
  ticks := bs.length

/-- The interactions of a device among actions, in order. -/
def placedFor (placed : List DeviceAction) (d : Device) : List Interaction :=
  (placed.filter fun a => a.device.isSame d).map (·.interaction)

/-- The timelines in the middle of a tick: the ticks of `bs` are complete, and of the next one
    the actions `placed` have been placed while no other device idles yet. -/
def midTick (bs : List (List DeviceAction)) (placed : List DeviceAction) : Timelines where
  lines := (devicesOf (bs ++ [placed])).map fun d =>
    ⟨d, (bs.map fun b => stepIn b d) ++ placedFor placed d⟩
  slots := ((devicesOf (bs ++ [placed])).map Device.id).zipIdx
  ticks := bs.length

theorem devicesOf_append_singleton (bs : List (List DeviceAction)) (placed : List DeviceAction)
    (a : DeviceAction) :
    devicesOf (bs ++ [placed ++ [a]])
      = if a.device.id ∈ (devicesOf (bs ++ [placed])).map Device.id then
          devicesOf (bs ++ [placed])
        else devicesOf (bs ++ [placed]) ++ [a.device] := by
  have hflat : (bs ++ [placed ++ [a]]).flatten.map (·.device)
      = (bs ++ [placed]).flatten.map (·.device) ++ [a.device] := by
    simp
  rw [devicesOf, hflat, Device.firsts_append_singleton]
  simp only [devicesOf, Device.mem_map_id_firsts]

/-- A device occurs in batches when one of their actions is bound to its identity. -/
theorem mem_map_id_devicesOf {bs : List (List DeviceAction)} {i : DeviceId} :
    i ∈ (devicesOf bs).map Device.id ↔ ∃ b ∈ bs, i ∈ batchIds b := by
  rw [devicesOf, Device.mem_map_id_firsts]
  simp only [batchIds, List.mem_map, List.mem_flatten]
  constructor
  · rintro ⟨d, ⟨a, ⟨b, hb, ha⟩, rfl⟩, rfl⟩
    exact ⟨b, hb, a, ha, rfl⟩
  · rintro ⟨b, hb, a, ha, rfl⟩
    exact ⟨a.device, ⟨a, ⟨b, hb, ha⟩, rfl⟩, rfl⟩

theorem stepIn_singleton (a : DeviceAction) (d : Device) :
    stepIn [a] d = if a.device.isSame d then a.interaction else .idle := by
  rw [stepIn, List.find?_singleton]
  cases a.device.isSame d <;> rfl

theorem notMem_batchIds_iff {batch : List DeviceAction} {d : Device} :
    d.id ∉ batchIds batch ↔ ∀ a ∈ batch, a.device.isSame d = false := by
  simp only [batchIds, List.mem_map, not_exists, not_and, Device.isSame_eq_false_iff, ne_eq]

theorem stepIn_of_notMem {batch : List DeviceAction} {d : Device} (h : d.id ∉ batchIds batch) :
    stepIn batch d = .idle := by
  have hfind : (batch.find? fun a => a.device.isSame d) = none := by
    rw [List.find?_eq_none]
    intro a ha
    rw [notMem_batchIds_iff.mp h a ha]
    exact Bool.false_ne_true
  rw [stepIn, hfind]
  rfl

theorem placedFor_of_notMem {placed : List DeviceAction} {d : Device}
    (h : d.id ∉ batchIds placed) : placedFor placed d = [] := by
  have hfilter : (placed.filter fun a => a.device.isSame d) = [] := by
    rw [List.filter_eq_nil_iff]
    intro a ha
    rw [notMem_batchIds_iff.mp h a ha]
    exact Bool.false_ne_true
  rw [placedFor, hfilter]
  rfl

theorem placedFor_append_singleton (placed : List DeviceAction) (a : DeviceAction) (d : Device) :
    placedFor (placed ++ [a]) d
      = placedFor placed d ++ if d.id = a.device.id then [a.interaction] else [] := by
  rw [placedFor, List.filter_append, List.map_append]
  by_cases h : d.id = a.device.id
  · have hin : [a].filter (fun x => x.device.isSame d) = [a] := by
      simp [Device.isSame_iff.mpr h.symm]
    rw [if_pos h, hin]
    rfl
  · have hout : [a].filter (fun x => x.device.isSame d) = [] := by
      simp [Device.isSame_eq_false_iff.mpr fun hs => h hs.symm]
    rw [if_neg h, hout]
    rfl

theorem ids_midTick (bs : List (List DeviceAction)) (placed : List DeviceAction) :
    (midTick bs placed).ids = (devicesOf (bs ++ [placed])).map Device.id := by
  rw [ids, midTick, List.map_map]
  rfl

theorem indexed_midTick (bs : List (List DeviceAction)) (placed : List DeviceAction) :
    (midTick bs placed).Indexed := by
  constructor
  · rw [ids_midTick]
    rfl
  · rw [ids_midTick]
    exact Device.nodup_map_id_firsts _

/-- Before anything is placed, the middle of a tick is its start. -/
theorem midTick_nil (bs : List (List DeviceAction)) : midTick bs [] = ofBatches bs := by
  have hdevices : devicesOf (bs ++ [[]]) = devicesOf bs := by
    simp [devicesOf]
  simp [midTick, ofBatches, hdevices, placedFor]

/-- A device that occurs in none of the batches idles through all of them. -/
theorem map_stepIn_of_notMem {bs : List (List DeviceAction)} {d : Device}
    (h : ∀ b ∈ bs, d.id ∉ batchIds b) :
    (bs.map fun b => stepIn b d) = List.replicate bs.length .idle := by
  refine List.eq_replicate_iff.mpr ⟨List.length_map _, ?_⟩
  intro i hi
  obtain ⟨b, hb, rfl⟩ := List.mem_map.mp hi
  exact stepIn_of_notMem (h b hb)

/-- Placing an action leads to the middle of the tick where it is placed too. -/
theorem place_midTick (bs : List (List DeviceAction)) (placed : List DeviceAction)
    (a : DeviceAction) : (midTick bs placed).place a = midTick bs (placed ++ [a]) := by
  have hdevices := devicesOf_append_singleton bs placed a
  by_cases ha : a.device.id ∈ (devicesOf (bs ++ [placed])).map Device.id
  · rw [if_pos ha] at hdevices
    rw [(indexed_midTick bs placed).place_of_mem (ids_midTick bs placed ▸ ha), midTick, midTick,
      hdevices]
    simp only [List.map_map, mk.injEq, and_true]
    refine List.map_congr_left fun d _ => ?_
    by_cases hd : d.id = a.device.id <;>
      simp [placedFor_append_singleton, hd, Timeline.push]
  · rw [if_neg ha] at hdevices
    rw [(indexed_midTick bs placed).place_of_notMem (ids_midTick bs placed ▸ ha), midTick,
      midTick, hdevices]
    have hnone : ∀ b ∈ bs ++ [placed], a.device.id ∉ batchIds b := by
      intro b hb hin
      exact ha (mem_map_id_devicesOf.mpr ⟨b, hb, hin⟩)
    -- the timelines that were there are as they were
    have hold : ∀ d ∈ devicesOf (bs ++ [placed]),
        placedFor (placed ++ [a]) d = placedFor placed d := by
      intro d hd
      have hne : d.id ≠ a.device.id := fun h => ha (h ▸ List.mem_map_of_mem hd)
      rw [placedFor_append_singleton, if_neg hne, List.append_nil]
    -- and the new one is the padded one with its first action
    have hnew : (bs.map fun b => stepIn b a.device) ++ placedFor (placed ++ [a]) a.device
        = List.replicate bs.length .idle ++ [a.interaction] := by
      rw [map_stepIn_of_notMem fun b hb => hnone b (List.mem_append_left _ hb),
        placedFor_append_singleton, if_pos rfl,
        placedFor_of_notMem (hnone placed (List.mem_append_right _ (List.mem_singleton.mpr rfl)))]
      rfl
    simp only [List.map_append, List.map_singleton, List.zipIdx_append, List.length_map, hnew,
      mk.injEq, and_true]
    refine ⟨?_, ?_⟩
    · congr 1
      exact List.map_congr_left fun d hd => by rw [hold d hd]
    · simp

theorem foldl_place_ofBatches (bs : List (List DeviceAction)) (batch : List DeviceAction) :
    batch.foldl place (ofBatches bs) = midTick bs batch := by
  induction batch using List.reverseRecOn with
  | nil => exact (midTick_nil bs).symm
  | append_singleton batch a ih =>
      rw [List.foldl_append, ih]
      exact place_midTick bs batch a

/-- A batch that names no device twice has one interaction for each of its devices. -/
theorem placedFor_of_nodup {batch : List DeviceAction} (h : (batchIds batch).Nodup)
    (d : Device) :
    placedFor batch d = if d.id ∈ batchIds batch then [stepIn batch d] else [] := by
  induction batch with
  | nil => rfl
  | cons a batch ih =>
      obtain ⟨hnew, hnd⟩ := List.nodup_cons.mp h
      -- the first action is the device's only one, or not the device's
      by_cases hd : a.device.id = d.id
      · have hsame : a.device.isSame d = true := Device.isSame_iff.mpr hd
        have hstep : stepIn (a :: batch) d = a.interaction := by
          simp [stepIn, hsame]
        have hrest : placedFor batch d = [] := placedFor_of_notMem (hd ▸ hnew)
        have hin : d.id ∈ batchIds (a :: batch) := hd ▸ List.mem_cons_self
        rw [if_pos hin, hstep]
        simpa [placedFor, hsame] using hrest
      · have hsame : a.device.isSame d = false := Device.isSame_eq_false_iff.mpr hd
        have hstep : stepIn (a :: batch) d = stepIn batch d := by
          simp [stepIn, hsame]
        have hrest : placedFor (a :: batch) d = placedFor batch d := by
          simp [placedFor, hsame]
        have hin : d.id ∈ batchIds (a :: batch) ↔ d.id ∈ batchIds batch := by
          simp [batchIds, Ne.symm hd]
        rw [hrest, hstep, ih hnd]
        simp only [hin]

theorem devicesOf_eq_nil_iff {bs : List (List DeviceAction)} :
    devicesOf bs = [] ↔ ∀ b ∈ bs, b = [] := by
  constructor
  · intro h b hb
    refine List.eq_nil_iff_forall_not_mem.mpr fun a ha => ?_
    have hin : a.device.id ∈ (devicesOf bs).map Device.id :=
      mem_map_id_devicesOf.mpr ⟨b, hb, List.mem_map_of_mem ha⟩
    rw [h] at hin
    exact nomatch hin
  · intro h
    have hflat : bs.flatten = [] := List.flatten_eq_nil_iff.mpr h
    rw [devicesOf, hflat]
    rfl

/-- A tick that is one adds its batch. -/
theorem advance_ofBatches {bs : List (List DeviceAction)} {batch : List DeviceAction}
    (h : (batchIds batch).Nodup) (hdevices : devicesOf (bs ++ [batch]) ≠ []) :
    (ofBatches bs).advance batch = ofBatches (bs ++ [batch]) := by
  have hlines : (midTick bs batch).lines.isEmpty = false := by
    rw [midTick, List.isEmpty_eq_false_iff]
    exact fun hnil => hdevices (List.map_eq_nil_iff.mp hnil)
  rw [advance, foldl_place_ofBatches, hlines]
  simp only [Bool.false_eq_true, if_false, midTick, ofBatches, List.map_map, mk.injEq,
    List.length_append, List.length_singleton, and_true]
  refine List.map_congr_left fun d _ => ?_
  -- a device of the batch has acted in this tick, and any other idles now
  by_cases hd : d.id ∈ batchIds batch
  · simp [hd, placedFor_of_nodup h]
  · simp [hd, placedFor_of_nodup h, stepIn_of_notMem hd, Timeline.push]

/-- The batches that count as ticks: all from the first that is not empty. -/
def counted (bs : List (List DeviceAction)) : List (List DeviceAction) := bs.dropWhile List.isEmpty

theorem counted_append_singleton (bs : List (List DeviceAction)) (batch : List DeviceAction) :
    counted (bs ++ [batch])
      = if counted bs = [] then counted [batch] else counted bs ++ [batch] := by
  by_cases h : counted bs = []
  · rw [if_pos h]
    exact List.dropWhile_append.trans (if_pos (List.isEmpty_iff.mpr h))
  · rw [if_neg h]
    exact List.dropWhile_append.trans (if_neg (h ∘ List.isEmpty_iff.mp))

theorem counted_singletons (actions : List DeviceAction) :
    counted (actions.map ([·])) = actions.map ([·]) := by
  cases actions with
  | nil => rfl
  | cons _ _ => rfl

/-- The first batch that counts is not empty. -/
theorem devicesOf_counted_ne_nil {bs : List (List DeviceAction)} (h : counted bs ≠ []) :
    devicesOf (counted bs) ≠ [] := by
  intro hnil
  have hhead : ((counted bs).head h).isEmpty = false := List.head_dropWhile_not List.isEmpty h
  rw [devicesOf_eq_nil_iff.mp hnil _ (List.head_mem h)] at hhead
  exact nomatch hhead

/-- **Timelines are what their batches describe.**  The batches of one tick each lead to the
    timelines that those from the first non-empty one describe. -/
theorem foldl_advance_eq_ofBatches {bs : List (List DeviceAction)}
    (h : ∀ b ∈ bs, (batchIds b).Nodup) :
    bs.foldl advance empty = ofBatches (counted bs) := by
  induction bs using List.reverseRecOn with
  | nil => rfl
  | append_singleton bs batch ih =>
      have hnd := h batch (List.mem_append_right _ (List.mem_singleton.mpr rfl))
      rw [List.foldl_append, ih fun b hb => h b (List.mem_append_left _ hb),
        counted_append_singleton]
      show (ofBatches (counted bs)).advance batch = _
      -- before the first tick, an empty batch is none
      by_cases hbs : counted bs = []
      · rw [if_pos hbs, hbs]
        by_cases hbatch : batch = []
        · subst hbatch
          rfl
        · have hcounted : counted [batch] = [batch] := by simp [counted, hbatch]
          rw [hcounted]
          exact advance_ofBatches hnd fun hnil => hbatch
            (devicesOf_eq_nil_iff.mp hnil batch (List.mem_singleton.mpr rfl))
      · rw [if_neg hbs]
        refine advance_ofBatches hnd fun hnil => devicesOf_counted_ne_nil hbs ?_
        exact devicesOf_eq_nil_iff.mpr fun b hb =>
          devicesOf_eq_nil_iff.mp hnil b (List.mem_append_left _ hb)

/-! ## Looking a device up -/

/-- A device has a timeline when one stands for its identity. -/
theorem Indexed.line?_eq_none_iff (h : t.Indexed) {d : Device} :
    t.line? d = none ↔ d.id ∉ t.ids := by
  rw [← h.slot?_eq_none_iff, line?]
  cases hslot : t.slot? d.id with
  | none => exact iff_of_true rfl rfl
  | some n =>
      obtain ⟨l, hl, -⟩ := getElem?_ids_eq_some_iff.mp (h.slot?_eq_some_iff.mp hslot)
      rw [Option.bind_some, hl]
      exact iff_of_false (Option.some_ne_none l) (Option.some_ne_none n)

/-- The timeline that is found is the device's. -/
theorem Indexed.of_line?_eq_some (h : t.Indexed) {d : Device} {l : Timeline}
    (hl : t.line? d = some l) : l ∈ t.lines ∧ l.device.id = d.id := by
  obtain ⟨n, hslot, hget⟩ := Option.bind_eq_some_iff.mp hl
  obtain ⟨m, hm, hid⟩ := getElem?_ids_eq_some_iff.mp (h.slot?_eq_some_iff.mp hslot)
  have hml : m = l := Option.some.inj (hm.symm.trans hget)
  exact ⟨List.mem_of_getElem? hget, hml ▸ hid⟩

/-- A device's timeline is the one that stands for its identity. -/
theorem Indexed.line?_eq_some_iff (h : t.Indexed) {d : Device} {l : Timeline} :
    t.line? d = some l ↔ l ∈ t.lines ∧ l.device.id = d.id := by
  refine ⟨h.of_line?_eq_some, ?_⟩
  rintro ⟨hl, hid⟩
  cases hm : t.line? d with
  | none =>
      have hmem : d.id ∈ t.ids := hid ▸ List.mem_map_of_mem hl
      exact absurd hmem (h.line?_eq_none_iff.mp hm)
  | some m =>
      obtain ⟨hmt, hmid⟩ := h.of_line?_eq_some hm
      rw [List.inj_on_of_nodup_map h.nodup hmt hl (hmid.trans hid.symm)]

/-- Where the timelines stand does not matter to what is found. -/
theorem Indexed.line?_perm {u : Timelines} (ht : t.Indexed) (hu : u.Indexed)
    (hperm : t.lines.Perm u.lines) (d : Device) : t.line? d = u.line? d := by
  ext l
  rw [ht.line?_eq_some_iff, hu.line?_eq_some_iff, hperm.mem_iff]

/-- The slots follow from the timelines. -/
theorem Indexed.ext {u : Timelines} (ht : t.Indexed) (hu : u.Indexed) (hlines : t.lines = u.lines)
    (hticks : t.ticks = u.ticks) : t = u := by
  have hslots : t.slots = u.slots := by
    rw [ht.slots_eq, hu.slots_eq, ids, ids, hlines]
  obtain ⟨tl, ts, tn⟩ := t
  obtain ⟨ul, us, un⟩ := u
  rw [mk.injEq]
  exact ⟨hlines, hslots, hticks⟩

theorem stepIn_congr {d e : Device} (h : d.id = e.id) (batch : List DeviceAction) :
    stepIn batch d = stepIn batch e := by
  simp only [stepIn, Device.isSame, h]

theorem indexed_ofBatches (bs : List (List DeviceAction)) : (ofBatches bs).Indexed := by
  rw [← midTick_nil]
  exact indexed_midTick bs []

theorem ids_ofBatches (bs : List (List DeviceAction)) :
    (ofBatches bs).ids = (devicesOf bs).map Device.id := by
  rw [ids, ofBatches, List.map_map]
  rfl

/-- A device that acts in a batch does there what its action says. -/
theorem stepIn_of_mem {batch : List DeviceAction} (h : (batchIds batch).Nodup)
    (ha : a ∈ batch) {d : Device} (hd : a.device.isSame d = true) :
    stepIn batch d = a.interaction := by
  have hmem : a.interaction ∈ placedFor batch d :=
    List.mem_map_of_mem (List.mem_filter.mpr ⟨ha, hd⟩)
  have hin : d.id ∈ batchIds batch :=
    Device.isSame_iff.mp hd ▸ List.mem_map_of_mem ha
  rw [placedFor_of_nodup h, if_pos hin, List.mem_singleton] at hmem
  exact hmem.symm

theorem line?_ofBatches_eq_none_iff {bs : List (List DeviceAction)} {d : Device} :
    (ofBatches bs).line? d = none ↔ ∀ b ∈ bs, d.id ∉ batchIds b := by
  rw [(indexed_ofBatches bs).line?_eq_none_iff, ids_ofBatches, mem_map_id_devicesOf]
  simp only [not_exists, not_and]

theorem isSome_line?_ofBatches_iff {bs : List (List DeviceAction)} {d : Device} :
    ((ofBatches bs).line? d).isSome = true ↔ d.id ∈ (devicesOf bs).map Device.id := by
  rw [Option.isSome_iff_ne_none, Ne, (indexed_ofBatches bs).line?_eq_none_iff, not_not,
    ids_ofBatches]

theorem steps_of_line?_ofBatches {bs : List (List DeviceAction)} {d : Device} {l : Timeline}
    (hl : (ofBatches bs).line? d = some l) : l.steps = bs.map fun b => stepIn b d := by
  obtain ⟨hmem, hid⟩ := (indexed_ofBatches bs).of_line?_eq_some hl
  obtain ⟨e, -, rfl⟩ := List.mem_map.mp hmem
  exact List.map_congr_left fun b _ => stepIn_congr hid b

/-- What timelines are to be after batches, one tick for each: they have the devices of the
    batches in the order in which these first occur, and each does in every tick what the batch
    of that tick gives it to do, and idles if it gives it nothing. -/
structure Follow (t : Timelines) (bs : List (List DeviceAction)) : Prop where
  ticks_eq : t.ticks = bs.length
  devices_eq : t.lines.map Timeline.device = Device.firsts (bs.flatten.map (·.device))
  length_eq : ∀ l ∈ t.lines, l.steps.length = t.ticks
  absent_iff : ∀ d, t.line? d = none ↔ ∀ b ∈ bs, ∀ a ∈ b, a.device.isSame d = false
  device_isSame : ∀ d l, t.line? d = some l → l.device.isSame d = true
  acts : ∀ d l, t.line? d = some l → ∀ (i : Nat) b, bs[i]? = some b →
    ∀ a ∈ b, a.device.isSame d = true → l.steps[i]? = some a.interaction
  idles : ∀ d l, t.line? d = some l → ∀ (i : Nat) b, bs[i]? = some b →
    (∀ a ∈ b, a.device.isSame d = false) → l.steps[i]? = some .idle

theorem getElem?_of_line?_ofBatches {bs : List (List DeviceAction)} {d : Device} {l : Timeline}
    (hl : (ofBatches bs).line? d = some l) {i : Nat} {b : List DeviceAction}
    (hb : bs[i]? = some b) : l.steps[i]? = some (stepIn b d) := by
  rw [steps_of_line?_ofBatches hl, List.getElem?_map, hb, Option.map_some]

theorem map_device_ofBatches (bs : List (List DeviceAction)) :
    (ofBatches bs).lines.map Timeline.device = devicesOf bs := by
  rw [ofBatches, List.map_map]
  exact List.map_id _

/-- The timelines that batches describe follow them. -/
theorem follow_ofBatches {bs : List (List DeviceAction)} (h : ∀ b ∈ bs, (batchIds b).Nodup) :
    (ofBatches bs).Follow bs where
  ticks_eq := rfl
  devices_eq := map_device_ofBatches bs
  length_eq := by
    intro l hl
    obtain ⟨d, -, rfl⟩ := List.mem_map.mp hl
    exact List.length_map _
  absent_iff := by
    intro d
    rw [line?_ofBatches_eq_none_iff]
    simp only [notMem_batchIds_iff]
  device_isSame := by
    intro d l hl
    exact Device.isSame_iff.mpr ((indexed_ofBatches bs).of_line?_eq_some hl).2
  acts := by
    intro d l hl i b hb a ha hsame
    rw [getElem?_of_line?_ofBatches hl hb,
      stepIn_of_mem (h b (List.mem_of_getElem? hb)) ha hsame]
  idles := by
    intro d l hl i b hb hnone
    rw [getElem?_of_line?_ofBatches hl hb, stepIn_of_notMem (notMem_batchIds_iff.mpr hnone)]

end Timelines

end GestureTimeline
