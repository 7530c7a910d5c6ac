import GestureTimeline.Error

/-! # Timelines

    Each device has a timeline with one interaction a tick.  The timelines of a session stand
    in the order in which their devices first acted and are kept equally long: a device that a
    tick leaves out is idle in it, and a device that appears late starts with idle ticks. -/

namespace GestureTimeline

/-- The interactions of one device, one a tick. -/
structure Timeline where
  device : Device
  steps : List Interaction
  deriving DecidableEq, Inhabited

namespace Timeline

/-- A timeline that idles through the ticks before it. -/
def padded (device : Device) (ticks : Nat) : Timeline :=
  ⟨device, List.replicate ticks .idle⟩

/-- A timeline with one more tick. -/
def push (t : Timeline) (i : Interaction) : Timeline :=
  { t with steps := t.steps ++ [i] }

/-- Whether two timelines belong to the same device and hold the same interactions. -/
def isSame (a b : Timeline) : Bool := a.device.isSame b.device && a.steps == b.steps

end Timeline

/-- The timelines of a session, the slot of each device among them, and the ticks they span. -/
structure Timelines where
  lines : List Timeline
  slots : List (DeviceId × Nat)
  ticks : Nat
  deriving DecidableEq, Inhabited

namespace Timelines

/-- No timeline and no tick. -/
def empty : Timelines := ⟨[], [], 0⟩

/-- The position of a device's timeline. -/
def slot? (t : Timelines) (id : DeviceId) : Option Nat := t.slots.lookup id

/-- The timeline of a device, if it has acted. -/
def line? (t : Timelines) (device : Device) : Option Timeline :=
  (t.slot? device.id).bind fun i => t.lines[i]?

/-- Puts an action at the end of its device's timeline.  A device that has not acted before
    gets the next slot, and a timeline that idles up to this tick. -/
def place (t : Timelines) (a : DeviceAction) : Timelines :=
  match t.slot? a.device.id with
  | some i => { t with lines := t.lines.modify i (·.push a.interaction) }
  | none =>
      { t with
        lines := t.lines ++ [(Timeline.padded a.device t.ticks).push a.interaction]
        slots := t.slots ++ [(a.device.id, t.lines.length)] }

/-- The identities named by a batch of actions. -/
def batchIds (batch : List DeviceAction) : List DeviceId := batch.map (·.device.id)

/-- One tick: the devices of the batch act and all others idle.  An empty batch before the
    first timeline is no tick. -/
def advance (t : Timelines) (batch : List DeviceAction) : Timelines :=
  let placed := batch.foldl place t
  if placed.lines.isEmpty then placed
  else
    { placed with
      lines := placed.lines.map fun l =>
        if l.device.id ∈ batchIds batch then l else l.push .idle
      ticks := placed.ticks + 1 }

/-- One tick, refused when the batch names a device twice; a refused tick changes nothing. -/
def tick (t : Timelines) (batch : List DeviceAction) : Except ActionError Timelines :=
  if (batchIds batch).Nodup then .ok (t.advance batch) else .error (.duplicateDevice batch)

theorem tick_of_nodup (t : Timelines) {batch : List DeviceAction} (h : (batchIds batch).Nodup) :
    t.tick batch = .ok (t.advance batch) :=
  if_pos h

theorem tick_of_not_nodup (t : Timelines) {batch : List DeviceAction}
    (h : ¬ (batchIds batch).Nodup) : t.tick batch = .error (.duplicateDevice batch) :=
  if_neg h

/-- A tick of one action is never refused. -/
theorem tick_singleton (t : Timelines) (a : DeviceAction) : t.tick [a] = .ok (t.advance [a]) := by
  have hnodup : (batchIds [a]).Nodup := by simp [batchIds]
  exact t.tick_of_nodup hnodup

/-- The ticks of a list of actions, each in a tick of its own. -/
def advanceEach (t : Timelines) (actions : List DeviceAction) : Timelines :=
  actions.foldl (fun t a => t.advance [a]) t

end Timelines

end GestureTimeline
