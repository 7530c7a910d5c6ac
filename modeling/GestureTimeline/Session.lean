import GestureTimeline.Plan

/-! # Sessions

    A session accumulates gestures.  Each accepted gesture goes into both histories, the
    timelines and, while legacy handles are known, the composite list of gestures.  A mistake of
    the caller is kept as the first deferred error, which every build then reports. -/

namespace GestureTimeline

/-- What an endpoint offers when a session is opened on it. -/
structure Endpoint where
  synchronized : Bool
  handles : Option Handles
  deriving DecidableEq, Inhabited

/-- A builder of gesture chains. -/
structure Session where
  /-- Whether the session was opened on an endpoint. -/
  hasTarget : Bool
  /-- Whether that endpoint advertised the synchronized command when the session was opened. -/
  synchronized : Bool
  /-- The legacy handles known when the session was opened, if there was at least one. -/
  handles : Option Handles
  pointer : Pointer
  keyboard : Keyboard
  /-- The number of devices created so far, the default ones included. -/
  created : Nat
  policy : Policy
  timelines : Timelines
  composite : List Gesture
  deferred : Option ActionError
  deriving DecidableEq, Inhabited

namespace Session

/-- The pointer that a session starts with. -/
def defaultPointer : Pointer := ⟨.nth 0, some "default mouse", .mouse, true⟩

/-- The keyboard that a session starts with. -/
def defaultKeyboard : Keyboard := ⟨.nth 1, some "default keyboard"⟩

/-- A session without history. -/
def start (hasTarget synchronized : Bool) (handles : Option Handles) : Session where
  hasTarget := hasTarget
  synchronized := synchronized
  handles := handles.filter (!·.isEmpty)
  pointer := defaultPointer
  keyboard := defaultKeyboard
  created := 2
  policy := {}
  timelines := .empty
  composite := []
  deferred := none

/-- A session on an endpoint, whose offers are read once, here. -/
def onEndpoint (e : Endpoint) : Session := start true e.synchronized e.handles

/-- A session that drives legacy handles directly, without an endpoint. -/
def onHandles (h : Handles) : Session := start false false (some h)

/-- Whether the session records gestures for the legacy protocol. -/
def isRecording (s : Session) : Bool := s.handles.isSome

/-- The session with another policy for what follows. -/
def withPolicy (s : Session) (p : Policy) : Session := { s with policy := p }

/-- Creates a further pointer. -/
def newPointer (s : Session) (kind : PointerKind) (name : Option String) : Pointer × Session :=
  (⟨.nth s.created, name, kind, false⟩, { s with created := s.created + 1 })

/-- Creates a further keyboard. -/
def newKeyboard (s : Session) (name : Option String) : Keyboard × Session :=
  (⟨.nth s.created, name⟩, { s with created := s.created + 1 })

/-- Keeps an error unless an earlier one is kept already. -/
def defer (s : Session) (e : ActionError) : Session :=
  { s with deferred := s.deferred.or (some e) }

/-- The expansion of a gesture on the default devices under the policy in force. -/
def expand (s : Session) (g : Gesture) : List DeviceAction :=
  g.expand s.pointer s.keyboard s.policy

/-- Takes an action in a tick of its own.  A tick that is refused is deferred. -/
def takeAlone (s : Session) (a : DeviceAction) : Session :=
  match s.timelines.tick [a] with
  | .ok timelines => { s with timelines }
  | .error e => s.defer e

/-- Takes a gesture into both histories. -/
def record (s : Session) (g : Gesture) : Session :=
  let ticked := (s.expand g).foldl takeAlone s
  { ticked with
    composite := if ticked.isRecording then ticked.composite ++ [g] else ticked.composite }

/-- A tick of one action never collides. -/
theorem takeAlone_eq (s : Session) (a : DeviceAction) :
    s.takeAlone a = { s with timelines := s.timelines.advance [a] } := by
  rw [takeAlone, Timelines.tick_singleton]

/-- The actions of a gesture go into the timelines, and nothing is deferred. -/
theorem foldl_takeAlone (s : Session) (actions : List DeviceAction) :
    actions.foldl takeAlone s = { s with timelines := s.timelines.advanceEach actions } := by
  induction actions generalizing s with
  | nil => rfl
  | cons a actions ih =>
      rw [List.foldl_cons, ih, takeAlone_eq]
      rfl

/-- What a gesture that is taken adds to either history. -/
theorem record_eq (s : Session) (g : Gesture) :
    s.record g
      = { s with
          timelines := s.timelines.advanceEach (s.expand g)
          composite := if s.isRecording then s.composite ++ [g] else s.composite } := by
  simp only [record, foldl_takeAlone]
  rfl

/-- A gesture: recorded, or refused with its fault deferred. -/
def emit (s : Session) (g : Gesture) : Session :=
  match g.fault? s.isRecording with
  | some e => s.defer e
  | none => s.record g

/-- Gestures one after another. -/
def emitAll (s : Session) (gs : List Gesture) : Session := gs.foldl emit s

/-- The gesture that moves onto an element, to where the policy says. -/
def moveOnto (s : Session) (target : ElementRef) : Gesture :=
  .moveToElement target s.policy.elementOffsetX s.policy.elementOffsetY

/-- A click on an element before a gesture, and neither of them if the gesture is refused. -/
def clickThen (s : Session) (target : ElementRef) (g : Gesture) : Session :=
  match g.fault? s.isRecording with
  | some e => s.defer e
  | none => s.emitAll [s.moveOnto target, .click, g]

/-! ## Gestures of the keyboard -/

/-- Press a key without releasing it. -/
def keyDown (s : Session) (key : KeyInput) : Session := s.emit (.keyDown key)

/-- Release a key. -/
def keyUp (s : Session) (key : KeyInput) : Session := s.emit (.keyUp key)

/-- Click an element, then press a key. -/
def keyDownOn (s : Session) (target : ElementRef) (key : KeyInput) : Session :=
  s.clickThen target (.keyDown key)

/-- Click an element, then release a key. -/
def keyUpOn (s : Session) (target : ElementRef) (key : KeyInput) : Session :=
  s.clickThen target (.keyUp key)

/-- Type the code points of keys one after another. -/
def sendKeys (s : Session) (keys : List KeyInput) : Session := s.emit (.sendKeys keys)

/-- Click an element, then type. -/
def sendKeysTo (s : Session) (target : ElementRef) (keys : List KeyInput) : Session :=
  s.emitAll [s.moveOnto target, .click, .sendKeys keys]

/-! ## Gestures of the pointer -/

/-- Click where the pointer is. -/
def click (s : Session) : Session := s.emit .click

/-- Click an element. -/
def clickOn (s : Session) (target : ElementRef) : Session :=
  s.emitAll [s.moveOnto target, .click]

/-- Click twice. -/
def doubleClick (s : Session) : Session := s.emitAll [.click, .click]

/-- Click an element twice. -/
def doubleClickOn (s : Session) (target : ElementRef) : Session :=
  s.emitAll [s.moveOnto target, .click, .click]

/-- Click with the right button. -/
def contextClick (s : Session) : Session := s.emit .contextClick

/-- Click an element with the right button. -/
def contextClickOn (s : Session) (target : ElementRef) : Session :=
  s.emitAll [s.moveOnto target, .contextClick]

/-- Press the left button without releasing it. -/
def clickAndHold (s : Session) : Session := s.emit .clickAndHold

/-- Press the left button on an element. -/
def clickAndHoldOn (s : Session) (target : ElementRef) : Session :=
  s.emitAll [s.moveOnto target, .clickAndHold]

/-- Release the left button. -/
def release (s : Session) : Session := s.emit .release

/-- Release the left button on an element. -/
def releaseOn (s : Session) (target : ElementRef) : Session :=
  s.emitAll [s.moveOnto target, .release]

/-- Move onto an element, to where the policy says. -/
def moveToElement (s : Session) (target : ElementRef) : Session := s.emit (s.moveOnto target)

/-- Move to a place on an element. -/
def moveToElementAt (s : Session) (target : ElementRef) (x y : Int32) : Session :=
  s.emit (.moveToElement target x y)

/-- Move relative to where the pointer is. -/
def moveByOffset (s : Session) (x y : Int32) : Session := s.emit (.moveByOffset x y)

/-- Drag one element onto another. -/
def dragAndDrop (s : Session) (source target : ElementRef) : Session :=
  s.emitAll [s.moveOnto source, .clickAndHold, s.moveOnto target, .release]

/-- Drag an element by an offset. -/
def dragAndDropBy (s : Session) (source : ElementRef) (x y : Int32) : Session :=
  s.emitAll [s.moveOnto source, .clickAndHold, .moveByOffset x y, .release]

/-- Let the default pointer idle for some time. -/
def pause (s : Session) (duration : Span) : Session := s.emit (.pause duration)

/-! ## Raw ticks, building and performing -/

/-- One tick of explicit actions.  It fails at once when a device is named twice; while the
    legacy protocol is recorded it is taken, and the session can no longer be built. -/
def tick (s : Session) (batch : List DeviceAction) : Except ActionError Session := do
  let timelines ← s.timelines.tick batch
  let s := { s with timelines }
  return if s.isRecording then s.defer .conflictingProtocols else s

/-- Both histories as they stand, or the deferred error. -/
def build (s : Session) : Except ActionError Plan :=
  match s.deferred with
  | some e => .error e
  | none => .ok ⟨s.timelines.lines, s.composite⟩

/-- The ways open for performing what the session holds. -/
def route (s : Session) : Route := ⟨s.hasTarget, s.synchronized, s.handles⟩

/-- Performs all that the session holds; the histories are kept. -/
def perform (s : Session) (answers : Answers) : Performance :=
  match s.build with
  | .error e => .failed e
  | .ok plan => plan.perform s.route answers

/-- The form of a session in messages. -/
def describe (s : Session) : String :=
  let deferred := match s.deferred with
    | some e => "Some(" ++ e.describe ++ ")"
    | none => "None"
  Interaction.record "Actions"
    [("capabilities", Interaction.record "TargetCapabilities"
        [("synchronized_actions", toString s.synchronized)]),
      ("ticks", toString s.timelines.ticks),
      ("devices", toString s.timelines.lines.length),
      ("composite", toString s.composite.length),
      ("deferred", deferred)]

end Session

end GestureTimeline
