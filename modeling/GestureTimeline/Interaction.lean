import GestureTimeline.Device
import GestureTimeline.Span
import GestureTimeline.Text.Quoted

/-! # Interactions

    What one device does in one tick, and the binding of an interaction to its device.  An idle
    device pauses for no time. -/

namespace GestureTimeline

/-- A handle to a remote element. -/
structure ElementRef where
  id : String
  deriving DecidableEq, Inhabited

/-- The form of an element in messages. -/
def ElementRef.display (e : ElementRef) : String := "element:" ++ e.id

/-- The buttons of a mouse. -/
inductive MouseButton where
  | left | middle | right
  deriving DecidableEq, Inhabited

namespace MouseButton

/-- The number of a button in the protocol. -/
def number : MouseButton → UInt32
  | left => 0
  | middle => 1
  | right => 2

/-- The name of a button. -/
def name : MouseButton → String
  | left => "Left"
  | middle => "Middle"
  | right => "Right"

end MouseButton

/-- What the offsets of a pointer move are relative to. -/
inductive Origin where
  | viewport
  | pointer
  | element (element : ElementRef)
  deriving DecidableEq, Inhabited

/-- The form of an origin in messages. -/
def Origin.describe : Origin → String
  | viewport => "Viewport"
  | pointer => "Pointer"
  | element e => "Element(ElementRef \x7b id: ElementId(" ++ Text.quoted e.id ++ ") \x7d)"

/-- What a device does in one tick. -/
inductive Interaction where
  | pointerDown (button : UInt32)
  | pointerUp (button : UInt32)
  | pointerMove (duration : Span) (origin : Origin) (x y : Int32)
  | keyDown (value : Char)
  | keyUp (value : Char)
  | pause (duration : Span)
  deriving DecidableEq, Inhabited

namespace Interaction

/-- What a device does in a tick that gives it nothing to do. -/
def idle : Interaction := pause .zero

/-- A variant with named fields, as messages show it. -/
def record (name : String) (fields : List (String × String)) : String :=
  name ++ " \x7b " ++ ", ".intercalate (fields.map fun f => f.1 ++ ": " ++ f.2) ++ " \x7d"

/-- The form of an interaction in messages. -/
def describe : Interaction → String
  | pointerDown button => record "PointerDown" [("button", toString button.toNat)]
  | pointerUp button => record "PointerUp" [("button", toString button.toNat)]
  | pointerMove duration origin x y =>
      record "PointerMove"
        [("duration", duration.text), ("origin", origin.describe),
          ("x", toString x.toInt), ("y", toString y.toInt)]
  | keyDown value => record "KeyDown" [("value", Text.quotedChar value)]
  | keyUp value => record "KeyUp" [("value", Text.quotedChar value)]
  | pause duration => record "Pause" [("duration", duration.text)]

end Interaction

/-- An interaction bound to the device that performs it. -/
structure DeviceAction where
  device : Device
  interaction : Interaction
  deriving DecidableEq, Inhabited

/-- The form of a bound interaction in messages. -/
def DeviceAction.describe (a : DeviceAction) : String :=
  a.device.display ++ " -> " ++ a.interaction.describe

namespace Pointer

/-- Press a button of this pointer. -/
def down (p : Pointer) (button : UInt32) : DeviceAction :=
  ⟨.pointer p, .pointerDown button⟩

/-- Release a button of this pointer. -/
def up (p : Pointer) (button : UInt32) : DeviceAction :=
  ⟨.pointer p, .pointerUp button⟩

/-- Move this pointer. -/
def move (p : Pointer) (duration : Span) (origin : Origin) (x y : Int32) : DeviceAction :=
  ⟨.pointer p, .pointerMove duration origin x y⟩

/-- Let this pointer idle for some time. -/
def pause (p : Pointer) (duration : Span) : DeviceAction :=
  ⟨.pointer p, .pause duration⟩

end Pointer

namespace Keyboard

/-- Press the key of a code point. -/
def down (k : Keyboard) (value : Char) : DeviceAction :=
  ⟨.keyboard k, .keyDown value⟩

/-- Release the key of a code point. -/
def up (k : Keyboard) (value : Char) : DeviceAction :=
  ⟨.keyboard k, .keyUp value⟩

/-- Let this keyboard idle for some time. -/
def pause (k : Keyboard) (duration : Span) : DeviceAction :=
  ⟨.keyboard k, .pause duration⟩

end Keyboard

end GestureTimeline
