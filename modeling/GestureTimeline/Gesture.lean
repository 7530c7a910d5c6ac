import GestureTimeline.Error
import GestureTimeline.Policy

/-! # Gestures

    A gesture is the single event from which both histories of a session are derived: it
    expands into interactions of the default devices, one a tick, for the synchronized
    protocol, and it is recorded as it stands for the legacy protocol. -/

namespace GestureTimeline

/-- One gesture of the user. -/
inductive Gesture where
  | click
  | contextClick
  | clickAndHold
  | release
  | moveToElement (target : ElementRef) (x y : Int32)
  | moveByOffset (x y : Int32)
  | keyDown (key : KeyInput)
  | keyUp (key : KeyInput)
  | sendKeys (keys : List KeyInput)
  | pause (duration : Span)
  deriving DecidableEq, Inhabited

namespace Gesture

/-- Why a key may not be held by itself, if it may not.  The legacy keyboard holds only
    modifiers; otherwise any single code point may be held. -/
def keyFault? (recording : Bool) (key : KeyInput) : Option ActionError :=
  if recording && key.modifier?.isNone then some (.invalidModifier key)
  else if key.codePoints.length ≠ 1 then some (.multipleCodePoints key)
  else none

/-- Why neither history may take a gesture, if neither may; `recording` says whether the legacy
    protocol is recorded. -/
def fault? (recording : Bool) : Gesture → Option ActionError
  | keyDown key | keyUp key => keyFault? recording key
  | _ => none

/-- Press and release a button. -/
def clickWith (pointer : Pointer) (button : MouseButton) : List DeviceAction :=
  [pointer.down button.number, pointer.up button.number]

/-- Press and release the key of a code point. -/
def stroke (keyboard : Keyboard) (value : Char) : List DeviceAction :=
  [keyboard.down value, keyboard.up value]

/-- The expansion of a gesture: actions of single devices, one for each tick. -/
def expand (pointer : Pointer) (keyboard : Keyboard) (policy : Policy) :
    Gesture → List DeviceAction
  | click => clickWith pointer .left
  | contextClick => clickWith pointer .right
  | clickAndHold => [pointer.down MouseButton.left.number]
  | release => [pointer.up MouseButton.left.number]
  | moveToElement target x y => [pointer.move policy.elementMove (.element target) x y]
  | moveByOffset x y => [pointer.move policy.offsetMove .pointer x y]
  | keyDown key => key.codePoints.map keyboard.down
  | keyUp key => key.codePoints.map keyboard.up
  | sendKeys keys => (keys.flatMap KeyInput.codePoints).flatMap (stroke keyboard)
  | pause duration => [pointer.pause duration]

/-- The name of a gesture. -/
def name : Gesture → String
  | click => "click"
  | contextClick => "context_click"
  | clickAndHold => "click_and_hold"
  | release => "release"
  | moveToElement .. => "move_to_element"
  | moveByOffset .. => "move_by_offset"
  | keyDown _ => "key_down"
  | keyUp _ => "key_up"
  | sendKeys _ => "send_keys"
  | pause _ => "pause"

/-- The arguments of a gesture as text; absent for a gesture that takes none. -/
def arguments? : Gesture → Option (List String)
  | moveToElement target x y => some [target.display, toString x.toInt, toString y.toInt]
  | moveByOffset x y => some [toString x.toInt, toString y.toInt]
  | keyDown key | keyUp key => some [key.display]
  | sendKeys keys => some (keys.map KeyInput.display)
  | pause duration => some [toString duration.millis ++ "ms"]
  | _ => none

/-- The form of a gesture in messages. -/
def display (g : Gesture) : String :=
  match g.arguments? with
  | some arguments => g.name ++ "(" ++ ", ".intercalate arguments ++ ")"
  | none => g.name

end Gesture

end GestureTimeline
