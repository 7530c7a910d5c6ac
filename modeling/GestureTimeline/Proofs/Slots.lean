import GestureTimeline.Proofs.Histories
import GestureTimeline.Proofs.TickOrder

/-! # Slots stay exact

    The timeline of a device is found by the slot that was noted when the device joined.  Were
    the slots to fall behind the timelines, a slot would lead past the last of them or to that of
    another device, and what one device is told to do another would do.

    `Timelines.line?` and `Timelines.place` take whatever stands at a slot, so neither mistake
    would show in them.  They are told here a second time, with a check of what stands there
    (`Timelines.lineChecked?`, `Timelines.placeChecked`).  In all timelines to which ticks lead,
    the checks find nothing wrong and both tellings come to the same.  This is so in the middle
    of a tick as well, where some of its devices have joined and others are still to join. -/

namespace GestureTimeline

/-- What can be wrong with a slot that is taken for a device's: no timeline stands there, or that
    of another device does. -/
inductive SlotFault where
  | vacant (slot : Nat)
  | foreign (slot : Nat) (owner : Device)
  deriving DecidableEq, Inhabited

namespace Timelines

/-! ## Lookups that are checked -/

/-- The timeline at a slot that is taken for a device's, or what is wrong with that slot. -/
def timelineAt (t : Timelines) (slot : Nat) (d : Device) : Except SlotFault Timeline :=
  match t.lines[slot]? with
  | none => .error (.vacant slot)
  | some l => if l.device.isSame d then .ok l else .error (.foreign slot l.device)

/-- The slot of a device.  A device without one joins, with a timeline that idles up to now. -/
def slotFor (t : Timelines) (d : Device) : Nat × Timelines :=
  match t.slot? d.id with
  | some slot => (slot, t)
  | none =>
      (t.lines.length,
        { t with
          lines := t.lines ++ [.padded d t.ticks]
          slots := t.slots ++ [(d.id, t.lines.length)] })

/-- The timeline of a device, if it has acted; its slot is checked. -/
def lineChecked? (t : Timelines) (d : Device) : Except SlotFault (Option Timeline) :=
  match t.slot? d.id with
  | none => .ok none
  | some slot => (t.timelineAt slot d).map some

/-- Puts an action at the end of its device's timeline; the slot of the device is checked. -/
def placeChecked (t : Timelines) (a : DeviceAction) : Except SlotFault Timelines := do
  let (slot, joined) := t.slotFor a.device
  let line ← joined.timelineAt slot a.device
  return { joined with lines := joined.lines.set slot (line.push a.interaction) }

/-- The end of a tick whose batch is placed: all other devices idle. -/
def fillUp (placed : Timelines) (batch : List DeviceAction) : Timelines :=
  if placed.lines.isEmpty then placed
  else
    { placed with
      lines := placed.lines.map fun l =>
        if l.device.id ∈ batchIds batch then l else l.push .idle
      ticks := placed.ticks + 1 }

/-- One tick; the slots of all devices that act are checked. -/
def tickChecked (t : Timelines) (batch : List DeviceAction) :
    Except SlotFault (Except ActionError Timelines) :=
  if (batchIds batch).Nodup then do
    let placed ← batch.foldlM placeChecked t
    return .ok (placed.fillUp batch)
  else return .error (.duplicateDevice batch)

/-- What is to hold of timelines, their slots and their count of ticks beside each other. -/
structure Consistent (t : Timelines) : Prop where
  ids_nodup : t.ids.Nodup
  /-- The devices that have a slot are those that have a timeline, each once. -/
  slots_ids : t.slots.map Prod.fst = t.ids
  /-- The slot of a device is the position of the timeline of that very device. -/
  slot?_iff : ∀ i n, t.slot? i = some n ↔ ∃ l, t.lines[n]? = some l ∧ l.device.id = i
  /-- When a device is looked up, no slot is found wrong. -/
  lineChecked?_eq : ∀ d, t.lineChecked? d = .ok (t.line? d)
  /-- In a tick, taken or refused, no slot is found wrong. -/
  tickChecked_eq : ∀ batch, t.tickChecked batch = .ok (t.tick batch)
  ticks_eq_zero_iff : t.ticks = 0 ↔ t.lines = []
  /-- The first timeline tells a plan the count of ticks. -/
  tickCount_eq : ∀ composite, Plan.tickCount ⟨t.lines, composite⟩ = t.ticks

variable {t : Timelines} {d : Device}

/-! ## Exact slots pass the checks -/

theorem timelineAt_of_id_eq {n : Nat} {l : Timeline} (hl : t.lines[n]? = some l)
    (hid : l.device.id = d.id) : t.timelineAt n d = .ok l := by
  simp only [timelineAt, hl, Device.isSame_iff.mpr hid, if_true]

/-- The slot that a device has leads to its timeline. -/
theorem Indexed.exists_line_of_slot? (h : t.Indexed) {n : Nat} (hslot : t.slot? d.id = some n) :
    ∃ l, t.lines[n]? = some l ∧ l.device.id = d.id :=
  getElem?_ids_eq_some_iff.mp (h.slot?_eq_some_iff.mp hslot)

theorem Indexed.lineChecked?_eq (h : t.Indexed) (d : Device) :
    t.lineChecked? d = .ok (t.line? d) := by
  cases hslot : t.slot? d.id with
  | none => simp only [lineChecked?, line?, hslot, Option.bind_none]
  | some n =>
      obtain ⟨l, hl, hid⟩ := h.exists_line_of_slot? hslot
      simp only [lineChecked?, line?, hslot, timelineAt_of_id_eq hl hid, Option.bind_some, hl]
      rfl

/-- The slot that a device has or gets leads to its timeline. -/
theorem Indexed.exists_line_slotFor (h : t.Indexed) (d : Device) :
    ∃ l, (t.slotFor d).2.lines[(t.slotFor d).1]? = some l ∧ l.device.id = d.id := by
  cases hslot : t.slot? d.id with
  | some n =>
      have hfor : t.slotFor d = (n, t) := by simp only [slotFor, hslot]
      rw [hfor]
      exact h.exists_line_of_slot? hslot
  | none =>
      -- the device joins behind the others, and its slot is the position it gets there
      simp only [slotFor, hslot]
      exact ⟨_, List.getElem?_concat_length, rfl⟩

/-- Placing an action is finding the slot of its device and pushing the action there. -/
theorem place_eq_modify (t : Timelines) (a : DeviceAction) :
    t.place a
      = { (t.slotFor a.device).2 with
          lines := (t.slotFor a.device).2.lines.modify (t.slotFor a.device).1
            (·.push a.interaction) } := by
  cases hslot : t.slot? a.device.id with
  | some n => simp only [place, slotFor, hslot]
  | none =>
      have hlast : (t.lines ++ [Timeline.padded a.device t.ticks]).modify t.lines.length
            (·.push a.interaction)
          = t.lines ++ [(Timeline.padded a.device t.ticks).push a.interaction] := by
        rw [List.modify_eq_set_getElem?, List.getElem?_concat_length]
        show (t.lines ++ [_]).set t.lines.length _ = _
        rw [List.set_append_right _ _ (Nat.le_refl _), Nat.sub_self]
        rfl
      simp only [place, slotFor, hslot, hlast]

theorem Indexed.placeChecked_eq (h : t.Indexed) (a : DeviceAction) :
    t.placeChecked a = .ok (t.place a) := by
  obtain ⟨l, hl, hid⟩ := h.exists_line_slotFor a.device
  rw [place_eq_modify, List.modify_eq_set_getElem?, hl, placeChecked]
  show ((t.slotFor a.device).2.timelineAt (t.slotFor a.device).1 a.device >>= _) = _
  rw [timelineAt_of_id_eq hl hid]
  rfl

/-! ## Ticks -/

/-- A batch is placed without a fault. -/
theorem foldlM_placeChecked_ofBatches (bs : List (List DeviceAction))
    (batch : List DeviceAction) :
    batch.foldlM placeChecked (ofBatches bs) = .ok (batch.foldl place (ofBatches bs)) := by
  induction batch using List.reverseRecOn with
  | nil => rfl
  | append_singleton batch a ih =>
      -- what is placed so far leads to the middle of a tick, and there the slots are exact too
      rw [List.foldlM_append, ih, List.foldl_append, foldl_place_ofBatches]
      show (midTick bs batch).placeChecked a >>= pure = .ok ((midTick bs batch).place a)
      rw [bind_pure]
      exact (indexed_midTick bs batch).placeChecked_eq a

theorem tickChecked_ofBatches (bs : List (List DeviceAction)) (batch : List DeviceAction) :
    (ofBatches bs).tickChecked batch = .ok ((ofBatches bs).tick batch) := by
  by_cases hnd : (batchIds batch).Nodup
  · rw [tickChecked, if_pos hnd, foldlM_placeChecked_ofBatches, tick_of_nodup _ hnd]
    rfl
  · rw [tickChecked, if_neg hnd, tick_of_not_nodup _ hnd]
    rfl

/-- The first batch that counts gives a device a timeline, so there is no tick without one. -/
theorem ticks_ofBatches_counted_eq_zero_iff (bs : List (List DeviceAction)) :
    (ofBatches (counted bs)).ticks = 0 ↔ (ofBatches (counted bs)).lines = [] := by
  show (counted bs).length = 0 ↔ (devicesOf (counted bs)).map _ = []
  rw [List.length_eq_zero_iff, List.map_eq_nil_iff]
  constructor
  · intro hnone
    rw [hnone]
    rfl
  · intro hdevices
    by_contra hsome
    exact devicesOf_counted_ne_nil hsome hdevices

/-- **Slots stay exact**, whatever ticks there are and whichever of them are refused. -/
theorem slots_stay_exact (bs : List (List DeviceAction)) : (empty.tickAll bs).Consistent := by
  rw [tickAll_empty]
  generalize bs.filter (fun b => (batchIds b).Nodup) = taken
  have hindexed := indexed_ofBatches (counted taken)
  constructor
  case ids_nodup => exact hindexed.nodup
  case slots_ids => rw [hindexed.slots_eq, List.zipIdx_map_fst]
  case slot?_iff => exact fun _ _ => hindexed.slot?_eq_some_iff.trans getElem?_ids_eq_some_iff
  case lineChecked?_eq => exact hindexed.lineChecked?_eq
  case tickChecked_eq => exact tickChecked_ofBatches (counted taken)
  case ticks_eq_zero_iff => exact ticks_ofBatches_counted_eq_zero_iff taken
  case tickCount_eq => exact Plan.tickCount_ofBatches_counted taken

/-- Slots that are one too high are found wrong: the mouse's leads to the keyboard, and the
    keyboard's past the end. -/
example :
    let mouse := Session.defaultPointer
    let keys := Session.defaultKeyboard
    let t := empty.tickAll [[mouse.down 0, keys.down 'a']]
    let stale := { t with slots := t.slots.map fun (i, n) => (i, n + 1) }
    stale.lineChecked? (.pointer mouse) = .error (.foreign 1 (.keyboard keys))
      ∧ stale.placeChecked (keys.up 'a') = .error (.vacant 2) :=
  ⟨rfl, rfl⟩

end Timelines

end GestureTimeline
