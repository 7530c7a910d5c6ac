import GestureTimeline.Span

/-! # Interaction policy

    The pacing and the default offsets with which gestures are expanded. -/

namespace GestureTimeline

/-- How long moves take, and where on an element a move lands unless it says otherwise. -/
structure Policy where
  /-- Milliseconds of a move onto an element. -/
  elementMoveMs : UInt64 := 250
  /-- Milliseconds of a move relative to the pointer. -/
  offsetMoveMs : UInt64 := 200
  /-- Horizontal distance from the element's top-left corner. -/
  elementOffsetX : Int32 := 1
  /-- Vertical distance from the element's top-left corner. -/
  elementOffsetY : Int32 := 1
  deriving DecidableEq

namespace Policy

instance : Inhabited Policy := ⟨{}⟩

/-- The duration of a move onto an element. -/
def elementMove (p : Policy) : Span := .ofMillis p.elementMoveMs

/-- The duration of a move relative to the pointer. -/
def offsetMove (p : Policy) : Span := .ofMillis p.offsetMoveMs

end Policy

end GestureTimeline
