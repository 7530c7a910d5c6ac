/-! # Input devices

    A device is a pointer or a keyboard.  It is known by a generated identity, and only by it:
    names are optional, may repeat, and may look like another device's identity. -/

namespace GestureTimeline

/-- The generated identity of a device. -/
structure DeviceId where
  text : String
  deriving DecidableEq, Inhabited

/-- The identity of the `n`-th device created in a session. -/
def DeviceId.nth (n : Nat) : DeviceId := ⟨"device#" ++ toString n⟩

/-- The kinds of pointer. -/
inductive PointerKind where
  | mouse | pen | touch
  deriving DecidableEq, Inhabited

/-- The name of a kind of pointer. -/
def PointerKind.name : PointerKind → String
  | mouse => "mouse"
  | pen => "pen"
  | touch => "touch"

/-- A pointer; the primary one is the pointer that a session starts with. -/
structure Pointer where
  id : DeviceId
  name : Option String
  kind : PointerKind
  primary : Bool
  deriving DecidableEq, Inhabited

/-- A keyboard. -/
structure Keyboard where
  id : DeviceId
  name : Option String
  deriving DecidableEq, Inhabited

/-- An input device. -/
inductive Device where
  | pointer (pointer : Pointer)
  | keyboard (keyboard : Keyboard)
  deriving DecidableEq, Inhabited

namespace Device

/-- The identity of a device. -/
def id : Device → DeviceId
  | pointer p => p.id
  | keyboard k => k.id

/-- The name given to a device, if any. -/
def name : Device → Option String
  | pointer p => p.name
  | keyboard k => k.name

/-- The kind of a pointer device; keyboards have none. -/
def pointerKind? : Device → Option PointerKind
  | pointer p => some p.kind
  | keyboard _ => none

/-- The word for a device's kind. -/
def kindName : Device → String
  | pointer p => p.kind.name
  | keyboard _ => "key"

/-- Whether a device is the pointer that its session started with. -/
def isPrimary : Device → Bool
  | pointer p => p.primary
  | keyboard _ => false

/-- Whether two devices are the same one; their identities alone decide it. -/
def isSame (a b : Device) : Bool := a.id == b.id

/-- The name under which a device is exported when no other has taken it: its own name, or its
    identity when it has none. -/
def wireId (d : Device) : String :=
  d.name.getD d.id.text

/-- The form of a device in messages. -/
def display (d : Device) : String :=
  match d.name with
  | some name => name ++ " (" ++ d.id.text ++ ")"
  | none => d.id.text

end Device

end GestureTimeline
