import GestureTimeline.Script

/-! # Calls

    Everything that a user of a session can ask of it while building, as data: a run of calls
    takes a session from one state to another.  A tick that is refused leaves the session as it
    was. -/

namespace GestureTimeline

/-- One call on a session. -/
inductive Call where
  | keyDown (key : KeyInput)
  | keyUp (key : KeyInput)
  | keyDownOn (target : ElementRef) (key : KeyInput)
  | keyUpOn (target : ElementRef) (key : KeyInput)
  | sendKeys (keys : List KeyInput)
  | sendKeysTo (target : ElementRef) (keys : List KeyInput)
  | click
  | clickOn (target : ElementRef)
  | doubleClick
  | doubleClickOn (target : ElementRef)
  | contextClick
  | contextClickOn (target : ElementRef)
  | clickAndHold
  | clickAndHoldOn (target : ElementRef)
  | release
  | releaseOn (target : ElementRef)
  | moveToElement (target : ElementRef)
  | moveToElementAt (target : ElementRef) (x y : Int32)
  | moveByOffset (x y : Int32)
  | dragAndDrop (source target : ElementRef)
  | dragAndDropBy (source : ElementRef) (x y : Int32)
  | pause (duration : Span)
  | gesture (gesture : Gesture)
  | script (script : Script)
  | tick (batch : List DeviceAction)
  | policy (policy : Policy)
  | newPointer (kind : PointerKind) (name : Option String)
  | newKeyboard (name : Option String)
  deriving DecidableEq, Inhabited

namespace Session

/-- The session after one call. -/
def call (s : Session) : Call → Session
  | .keyDown key => s.keyDown key
  | .keyUp key => s.keyUp key
  | .keyDownOn target key => s.keyDownOn target key
  | .keyUpOn target key => s.keyUpOn target key
  | .sendKeys keys => s.sendKeys keys
  | .sendKeysTo target keys => s.sendKeysTo target keys
  | .click => s.click
  | .clickOn target => s.clickOn target
  | .doubleClick => s.doubleClick
  | .doubleClickOn target => s.doubleClickOn target
  | .contextClick => s.contextClick
  | .contextClickOn target => s.contextClickOn target
  | .clickAndHold => s.clickAndHold
  | .clickAndHoldOn target => s.clickAndHoldOn target
  | .release => s.release
  | .releaseOn target => s.releaseOn target
  | .moveToElement target => s.moveToElement target
  | .moveToElementAt target x y => s.moveToElementAt target x y
  | .moveByOffset x y => s.moveByOffset x y
  | .dragAndDrop source target => s.dragAndDrop source target
  | .dragAndDropBy source x y => s.dragAndDropBy source x y
  | .pause duration => s.pause duration
  | .gesture gesture => s.emit gesture
  | .script script => script.apply s
  | .tick batch =>
      match s.tick batch with
      | .ok next => next
      | .error _ => s
  | .policy policy => s.withPolicy policy
  | .newPointer kind name => (s.newPointer kind name).2
  | .newKeyboard name => (s.newKeyboard name).2

/-- The session after calls in order. -/
def run (s : Session) (calls : List Call) : Session := calls.foldl call s

/-- Calls in two parts are the first part and then the second. -/
theorem run_append (s : Session) (cs ds : List Call) :
    s.run (cs ++ ds) = (s.run cs).run ds :=
  List.foldl_append

end Session

end GestureTimeline
