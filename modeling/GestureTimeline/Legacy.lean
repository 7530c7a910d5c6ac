import GestureTimeline.Gesture

/-! # The legacy protocol

    The legacy protocol has one keyboard and one mouse, either of which may be missing, and
    takes one command at a time.  A recorded list of gestures is replayed in order, each as one
    command or, for a pause, as a wait; the first failure ends the replay. -/

namespace GestureTimeline

/-- The legacy handles that an endpoint exposes. -/
structure Handles where
  keyboard : Bool
  mouse : Bool
  deriving DecidableEq, Inhabited

namespace Handles

/-- No handle at all. -/
def isEmpty (h : Handles) : Bool := !h.keyboard && !h.mouse

/-- The form of handles in messages. -/
def describe (h : Handles) : String :=
  Interaction.record "LegacyDevices"
    [("keyboard", toString h.keyboard), ("mouse", toString h.mouse)]

end Handles

/-- A command of the legacy mouse; without a target it acts where the pointer is. -/
inductive MouseCommand where
  | click
  | contextClick
  | down
  | up
  | move (target : Option ElementRef) (x y : Int32)
  deriving DecidableEq, Inhabited

/-- A command of the legacy keyboard. -/
inductive KeyboardCommand where
  | sendKeys (keys : List KeyInput)
  | press (key : KeyInput)
  | release (key : KeyInput)
  deriving DecidableEq, Inhabited

/-- A command of the legacy protocol. -/
inductive LegacyCommand where
  | mouse (command : MouseCommand)
  | keyboard (command : KeyboardCommand)
  deriving DecidableEq, Inhabited

/-- What is missing for a command, if its handle is. -/
def LegacyCommand.missing? (h : Handles) : LegacyCommand → Option MissingProtocol
  | mouse _ => if h.mouse then none else some .mouseHandle
  | keyboard _ => if h.keyboard then none else some .keyboardHandle

/-- What the replay of one gesture does. -/
inductive LegacyStep where
  | command (command : LegacyCommand)
  | wait (duration : Span)
  deriving DecidableEq, Inhabited

/-- The one step that replays a gesture. -/
def Gesture.legacyStep : Gesture → LegacyStep
  | click => .command (.mouse .click)
  | contextClick => .command (.mouse .contextClick)
  | clickAndHold => .command (.mouse .down)
  | release => .command (.mouse .up)
  | moveToElement target x y => .command (.mouse (.move (some target) x y))
  | moveByOffset x y => .command (.mouse (.move none x y))
  | keyDown key => .command (.keyboard (.press key))
  | keyUp key => .command (.keyboard (.release key))
  | sendKeys keys => .command (.keyboard (.sendKeys keys))
  | pause duration => .wait duration

/-- What a replay did, in order, and how it ended. -/
structure Replay where
  steps : List LegacyStep
  result : Except ActionError Unit

namespace Replay

/-- A replay with nothing left to do. -/
def done : Replay := ⟨[], .ok ()⟩

/-- A replay that does one step before another replay. -/
def after (step : LegacyStep) (r : Replay) : Replay := { r with steps := step :: r.steps }

end Replay

/-- Replays gestures through the handles.  `answer n` is the failure that the remote end answers
    to the command number `n` of the replay, if it answers one; `made` commands were made
    before. -/
def replayFrom (handles : Handles) (answer : Nat → Option TargetError) :
    Nat → List Gesture → Replay
  | _, [] => .done
  | made, g :: gs =>
      match g.legacyStep with
      | .wait d => .after (.wait d) (replayFrom handles answer made gs)
      | .command c =>
          match c.missing? handles with
          | some missing => ⟨[], .error (.noProtocol missing)⟩
          | none =>
              match answer made with
              | some e => ⟨[.command c], .error (.target e)⟩
              | none => .after (.command c) (replayFrom handles answer (made + 1) gs)

/-- Replays a whole list of gestures. -/
def replay (handles : Handles) (answer : Nat → Option TargetError) (gestures : List Gesture) :
    Replay :=
  replayFrom handles answer 0 gestures

end GestureTimeline
