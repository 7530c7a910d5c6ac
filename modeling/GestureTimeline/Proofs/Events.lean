import GestureTimeline.Call

/-! # The events of a run

    A call can be one of many, but it comes down to few kinds of events: a gesture or a raw tick
    is taken, a mistake is kept, another policy takes force, a device is created.  Which events
    those are depends on the call, on the policy in force and on whether the session records,
    never on the histories.  The session after a run is therefore the session after the events
    of the run (`Session.run_eq_receiveAll`), and what holds of every run is shown of `receive`
    alone. -/

namespace GestureTimeline

/-! ## Opening a session -/

/-- The ways to open a session. -/
inductive Opening where
  | onEndpoint (endpoint : Endpoint)
  | onHandles (handles : Handles)
  deriving DecidableEq, Inhabited

namespace Opening

/-- The session that is opened. -/
def session : Opening → Session
  | onEndpoint e => .onEndpoint e
  | onHandles h => .onHandles h

/-- The endpoint that the session is opened on, if there is one. -/
def endpoint? : Opening → Option Endpoint
  | onEndpoint e => some e
  | onHandles _ => none

/-- Whether there is an endpoint, and it advertises the synchronized command at the opening. -/
def advertised : Opening → Bool
  | onEndpoint e => e.synchronized
  | onHandles _ => false

/-- The legacy handles that are given at the opening. -/
def offered? : Opening → Option Handles
  | onEndpoint e => e.handles
  | onHandles h => some h

/-- The legacy handles that the session keeps: none unless there is a keyboard or a mouse. -/
def captured? (o : Opening) : Option Handles :=
  o.offered?.filter fun h => h.keyboard || h.mouse

/-- However it is opened, a session starts with the same devices and policy and without history. -/
theorem session_eq_start (o : Opening) :
    o.session = .start o.endpoint?.isSome o.advertised o.offered? := by
  cases o <;> rfl

@[simp] theorem session_pointer (o : Opening) : o.session.pointer = Session.defaultPointer := by
  rw [session_eq_start, Session.start]

@[simp] theorem session_keyboard (o : Opening) : o.session.keyboard = Session.defaultKeyboard := by
  rw [session_eq_start, Session.start]

@[simp] theorem session_policy (o : Opening) : o.session.policy = {} := by
  rw [session_eq_start, Session.start]

@[simp] theorem session_timelines (o : Opening) : o.session.timelines = .empty := by
  rw [session_eq_start, Session.start]

@[simp] theorem session_composite (o : Opening) : o.session.composite = [] := by
  rw [session_eq_start, Session.start]

@[simp] theorem session_deferred (o : Opening) : o.session.deferred = none := by
  rw [session_eq_start, Session.start]

/-- What a session may perform is fixed when it is opened. -/
theorem session_route (o : Opening) :
    o.session.route = ⟨o.endpoint?.isSome, o.advertised, o.captured?⟩ := by
  have hkept : (fun h : Handles => !h.isEmpty) = fun h => h.keyboard || h.mouse := by
    funext h
    rw [Handles.isEmpty, Bool.not_and, Bool.not_not, Bool.not_not]
  cases o with
  | onEndpoint e =>
      show Route.mk true e.synchronized (e.handles.filter fun h => !h.isEmpty) = _
      rw [hkept]
      rfl
  | onHandles h =>
      show Route.mk false false ((some h).filter fun h => !h.isEmpty) = _
      rw [hkept]
      rfl

/-- A session records when it is opened with a legacy handle. -/
theorem session_isRecording (o : Opening) : o.session.isRecording = o.captured?.isSome :=
  congrArg (fun r => r.handles.isSome) o.session_route

end Opening

/-! ## Events -/

/-- One of the things that calls come down to. -/
inductive Event where
  /-- A gesture is taken, under the policy in force at its call. -/
  | gesture (policy : Policy) (gesture : Gesture)
  /-- A raw tick is taken. -/
  | tick (batch : List DeviceAction)
  /-- A mistake of the caller is kept, unless an earlier one is. -/
  | fault (error : ActionError)
  /-- Another policy takes force. -/
  | policy (policy : Policy)
  /-- A device is created. -/
  | device
  deriving DecidableEq, Inhabited

/-- The gesture that moves onto an element, to where the policy says. -/
def Policy.moveOnto (p : Policy) (target : ElementRef) : Gesture :=
  .moveToElement target p.elementOffsetX p.elementOffsetY

/-- The call that a step of a script makes. -/
def Step.asCall (p : Policy) : Step → Call
  | click (some on) => .clickOn on
  | click none => .click
  | doubleClick (some on) => .doubleClickOn on
  | doubleClick none => .doubleClick
  | contextClick (some on) => .contextClickOn on
  | contextClick none => .contextClick
  | clickAndHold (some on) => .clickAndHoldOn on
  | clickAndHold none => .clickAndHold
  | release (some on) => .releaseOn on
  | release none => .release
  | moveToElement element none none => .moveToElement element
  | moveToElement element x y =>
      .moveToElementAt element (x.getD p.elementOffsetX) (y.getD p.elementOffsetY)
  | moveByOffset x y => .moveByOffset x y
  | keyDown value (some on) => .keyDownOn on value
  | keyDown value none => .keyDown value
  | keyUp value (some on) => .keyUpOn on value
  | keyUp value none => .keyUp value
  | sendKeys keys (some target) => .sendKeysTo target keys
  | sendKeys keys none => .sendKeys keys
  | dragAndDrop source target => .dragAndDrop source target
  | dragAndDropBy source x y => .dragAndDropBy source x y
  | pause ms => .pause (.ofMillis ms)

namespace Call

/-- The gestures that a call makes, in order. -/
def gestures (p : Policy) : Call → List Gesture
  | keyDown key => [.keyDown key]
  | keyUp key => [.keyUp key]
  | keyDownOn target key => [p.moveOnto target, .click, .keyDown key]
  | keyUpOn target key => [p.moveOnto target, .click, .keyUp key]
  | sendKeys keys => [.sendKeys keys]
  | sendKeysTo target keys => [p.moveOnto target, .click, .sendKeys keys]
  | click => [.click]
  | clickOn target => [p.moveOnto target, .click]
  | doubleClick => [.click, .click]
  | doubleClickOn target => [p.moveOnto target, .click, .click]
  | contextClick => [.contextClick]
  | contextClickOn target => [p.moveOnto target, .contextClick]
  | clickAndHold => [.clickAndHold]
  | clickAndHoldOn target => [p.moveOnto target, .clickAndHold]
  | release => [.release]
  | releaseOn target => [p.moveOnto target, .release]
  | moveToElement target => [p.moveOnto target]
  | moveToElementAt target x y => [.moveToElement target x y]
  | moveByOffset x y => [.moveByOffset x y]
  | dragAndDrop source target =>
      [p.moveOnto source, .clickAndHold, p.moveOnto target, .release]
  | dragAndDropBy source x y => [p.moveOnto source, .clickAndHold, .moveByOffset x y, .release]
  | pause duration => [.pause duration]
  | gesture g => [g]
  | script _ | tick _ | policy _ | newPointer _ _ | newKeyboard _ => []

/-- The events of gestures that one call makes: all of them are taken, or none is and the first
    fault among them is kept. -/
def allOrNone (recording : Bool) (p : Policy) (gs : List Gesture) : List Event :=
  match gs.findSome? (Gesture.fault? recording) with
  | some e => [.fault e]
  | none => gs.map (.gesture p)

/-- The events of a raw tick: none if it names a device twice, and a mistake besides the tick
    while the legacy protocol is recorded. -/
def tickEvents (recording : Bool) (batch : List DeviceAction) : List Event :=
  if (Timelines.batchIds batch).Nodup then
    .tick batch :: if recording then [.fault .conflictingProtocols] else []
  else []

/-- The events of a call, when the session records or does not and under the policy in force. -/
def events (recording : Bool) (p : Policy) : Call → List Event
  | script s => s.steps.flatMap fun st => allOrNone recording p ((st.asCall p).gestures p)
  | tick batch => tickEvents recording batch
  | policy q => [.policy q]
  | newPointer _ _ | newKeyboard _ => [.device]
  | c => allOrNone recording p (c.gestures p)

theorem events_of_gestures (recording : Bool) {p : Policy} {c : Call} (h : c.gestures p ≠ []) :
    c.events recording p = allOrNone recording p (c.gestures p) := by
  cases c with
  | script _ | tick _ | policy _ | newPointer _ _ | newKeyboard _ => exact absurd rfl h
  | _ => rfl

/-- The kinds of event that a call can have, under a policy. -/
inductive Makes (recording : Bool) (p : Policy) : Call → Event → Prop where
  | gesture (c : Call) (g : Gesture) (hsound : g.fault? recording = none) :
      Makes recording p c (.gesture p g)
  | fault (c : Call) (g : Gesture) (e : ActionError) (hfault : g.fault? recording = some e) :
      Makes recording p c (.fault e)
  | tick (batch : List DeviceAction) (hnodup : (Timelines.batchIds batch).Nodup) :
      Makes recording p (.tick batch) (.tick batch)
  | conflict (batch : List DeviceAction) (hnodup : (Timelines.batchIds batch).Nodup)
      (hrecording : recording = true) :
      Makes recording p (.tick batch) (.fault .conflictingProtocols)
  | policy (q : Policy) : Makes recording p (.policy q) (.policy q)
  | device (c : Call) : Makes recording p c .device

/-- An event of gestures takes one of them, which has no fault, or keeps the fault of one. -/
theorem makes_of_mem_allOrNone {recording : Bool} {p : Policy} (c : Call) {gs : List Gesture}
    {e : Event} (h : e ∈ allOrNone recording p gs) : Makes recording p c e := by
  rw [allOrNone] at h
  cases hfind : gs.findSome? (Gesture.fault? recording) with
  | none =>
      rw [hfind] at h
      obtain ⟨g, hg, rfl⟩ := List.mem_map.mp h
      exact .gesture c g (List.findSome?_eq_none_iff.mp hfind g hg)
  | some f =>
      rw [hfind] at h
      obtain ⟨g, -, hf⟩ := List.exists_of_findSome?_eq_some hfind
      rw [List.mem_singleton.mp h]
      exact .fault c g f hf

theorem policy_notMem_allOrNone (recording : Bool) (p q : Policy) (gs : List Gesture) :
    Event.policy q ∉ allOrNone recording p gs := by
  intro h
  -- whichever call makes the gestures, say a click, it sets no policy
  exact nomatch makes_of_mem_allOrNone .click h

/-- An event of a raw tick is the tick, or the mistake that it is while the session records. -/
theorem makes_of_mem_tickEvents {recording : Bool} {p : Policy} {batch : List DeviceAction}
    {e : Event} (h : e ∈ tickEvents recording batch) : Makes recording p (.tick batch) e := by
  rw [tickEvents] at h
  by_cases hnd : (Timelines.batchIds batch).Nodup
  · rw [if_pos hnd] at h
    rcases List.mem_cons.mp h with rfl | hconflict
    · exact .tick batch hnd
    · cases recording with
      | false => exact nomatch hconflict
      | true =>
          rw [List.mem_singleton.mp hconflict]
          exact .conflict batch hnd rfl
  · rw [if_neg hnd] at h
    exact nomatch h

theorem makes_of_mem_events {recording : Bool} {p : Policy} {c : Call} {e : Event}
    (h : e ∈ c.events recording p) : Makes recording p c e := by
  by_cases hg : c.gestures p = []
  · cases c with
    | script s =>
        obtain ⟨st, -, hst⟩ := List.mem_flatMap.mp h
        exact makes_of_mem_allOrNone _ hst
    | tick batch => exact makes_of_mem_tickEvents h
    | policy q =>
        rw [List.mem_singleton.mp h]
        exact .policy q
    | newPointer _ _ | newKeyboard _ =>
        rw [List.mem_singleton.mp h]
        exact .device _
    | _ => exact absurd hg (List.cons_ne_nil _ _)
  · rw [events_of_gestures recording hg] at h
    exact makes_of_mem_allOrNone c h

theorem eq_policy_of_mem_events {recording : Bool} {p q : Policy} {c : Call}
    (h : Event.policy q ∈ c.events recording p) : c = policy q := by
  cases makes_of_mem_events h with
  | policy => rfl

/-- The policy in force after a call. -/
def policyAfter (p : Policy) : Call → Policy
  | policy q => q
  | _ => p

/-- The events of calls in order, when the first policy is in force before them. -/
def eventsOf (recording : Bool) : Policy → List Call → List Event
  | _, [] => []
  | p, c :: cs => c.events recording p ++ eventsOf recording (c.policyAfter p) cs

theorem exists_call_of_mem_eventsOf {recording : Bool} {p : Policy} {calls : List Call}
    {e : Event} (h : e ∈ eventsOf recording p calls) :
    ∃ c ∈ calls, ∃ q, e ∈ c.events recording q
      ∧ c.events recording q ⊆ eventsOf recording p calls := by
  induction calls generalizing p with
  | nil => exact nomatch h
  | cons c cs ih =>
      rcases List.mem_append.mp h with hc | hcs
      · exact ⟨c, List.mem_cons_self, p, hc, List.subset_append_left _ _⟩
      · obtain ⟨d, hd, q, hq, hsub⟩ := ih hcs
        exact ⟨d, List.mem_cons_of_mem c hd, q, hq,
          List.Subset.trans hsub (List.subset_append_right _ _)⟩

/-- A raw tick that a run takes names no device twice, and is a mistake as well while the
    session records. -/
theorem tick_mem_eventsOf {recording : Bool} {p : Policy} {calls : List Call}
    {batch : List DeviceAction} (h : Event.tick batch ∈ eventsOf recording p calls) :
    (Timelines.batchIds batch).Nodup
      ∧ (recording = true → Event.fault .conflictingProtocols ∈ eventsOf recording p calls) := by
  obtain ⟨c, -, q, hc, hsub⟩ := exists_call_of_mem_eventsOf h
  cases makes_of_mem_events hc with
  | tick _ hnd =>
      refine ⟨hnd, ?_⟩
      rintro rfl
      refine hsub ?_
      rw [events, tickEvents, if_pos hnd]
      exact List.mem_cons_of_mem _ (List.mem_singleton.mpr rfl)

end Call

/-! ## Receiving events -/

namespace Session

/-- The session after one event. -/
def receive (s : Session) : Event → Session
  | .gesture p g =>
      { s with
        timelines := s.timelines.advanceEach (g.expand s.pointer s.keyboard p)
        composite := if s.isRecording then s.composite ++ [g] else s.composite }
  | .tick batch => { s with timelines := s.timelines.advance batch }
  | .fault e => s.defer e
  | .policy p => s.withPolicy p
  | .device => { s with created := s.created + 1 }

/-- The session after events in order. -/
def receiveAll (s : Session) (es : List Event) : Session := es.foldl receive s

@[simp] theorem receiveAll_nil (s : Session) : s.receiveAll [] = s := rfl

@[simp] theorem receiveAll_cons (s : Session) (e : Event) (es : List Event) :
    s.receiveAll (e :: es) = (s.receive e).receiveAll es := rfl

theorem receiveAll_append (s : Session) (es fs : List Event) :
    s.receiveAll (es ++ fs) = (s.receiveAll es).receiveAll fs :=
  List.foldl_append

/-- The events of calls on a session. -/
def events (s : Session) (calls : List Call) : List Event :=
  Call.eventsOf s.isRecording s.policy calls

/-! ## What no event changes

    The protocols that are open to a session and its default devices are fixed when it is
    opened. -/

@[simp] theorem receive_route (s : Session) (e : Event) : (s.receive e).route = s.route := by
  cases e <;> rfl

@[simp] theorem receive_pointer (s : Session) (e : Event) :
    (s.receive e).pointer = s.pointer := by
  cases e <;> rfl

@[simp] theorem receive_keyboard (s : Session) (e : Event) :
    (s.receive e).keyboard = s.keyboard := by
  cases e <;> rfl

@[simp] theorem receiveAll_route (s : Session) (es : List Event) :
    (s.receiveAll es).route = s.route := by
  induction es generalizing s with
  | nil => rfl
  | cons e es ih => rw [receiveAll_cons, ih, receive_route]

@[simp] theorem receiveAll_isRecording (s : Session) (es : List Event) :
    (s.receiveAll es).isRecording = s.isRecording :=
  congrArg (fun r => r.handles.isSome) (s.receiveAll_route es)

@[simp] theorem receiveAll_pointer (s : Session) (es : List Event) :
    (s.receiveAll es).pointer = s.pointer := by
  induction es generalizing s with
  | nil => rfl
  | cons e es ih => rw [receiveAll_cons, ih, receive_pointer]

@[simp] theorem receiveAll_keyboard (s : Session) (es : List Event) :
    (s.receiveAll es).keyboard = s.keyboard := by
  induction es generalizing s with
  | nil => rfl
  | cons e es ih => rw [receiveAll_cons, ih, receive_keyboard]

theorem receiveAll_policy (s : Session) (es : List Event) (h : ∀ p, Event.policy p ∉ es) :
    (s.receiveAll es).policy = s.policy := by
  induction es generalizing s with
  | nil => rfl
  | cons e es ih =>
      have he : (s.receive e).policy = s.policy := by
        cases e with
        | policy p => exact absurd List.mem_cons_self (h p)
        | gesture _ _ | tick _ | fault _ | device => rfl
      rw [receiveAll_cons, ih (s.receive e) (fun p hp => h p (List.mem_cons_of_mem e hp)), he]

/-! ## Calls as events -/

theorem record_eq_receive (s : Session) (g : Gesture) :
    s.record g = s.receive (.gesture s.policy g) :=
  s.record_eq g

theorem emitAll_of_sound (s : Session) (gs : List Gesture)
    (h : ∀ g ∈ gs, g.fault? s.isRecording = none) :
    s.emitAll gs = s.receiveAll (gs.map (.gesture s.policy)) := by
  induction gs generalizing s with
  | nil => rfl
  | cons g gs ih =>
      have hg : s.emit g = s.receive (.gesture s.policy g) := by
        simp only [emit, h g List.mem_cons_self, record_eq_receive]
      show (s.emit g).emitAll gs = _
      rw [hg, ih (s.receive (.gesture s.policy g))
        (fun k hk => h k (List.mem_cons_of_mem g hk))]
      rfl

/-- Gestures that no fault can meet are taken all together. -/
theorem emitAll_eq_receiveAll (s : Session) (gs : List Gesture)
    (h : ∀ recording, gs.findSome? (Gesture.fault? recording) = none) :
    s.emitAll gs = s.receiveAll (Call.allOrNone s.isRecording s.policy gs) := by
  rw [Call.allOrNone, h s.isRecording]
  exact s.emitAll_of_sound gs (List.findSome?_eq_none_iff.mp (h s.isRecording))

/-- One gesture is taken, or its fault is kept. -/
theorem emit_eq_receiveAll (s : Session) (g : Gesture) :
    s.emit g = s.receiveAll (Call.allOrNone s.isRecording s.policy [g]) := by
  cases h : g.fault? s.isRecording with
  | none => simp [emit, Call.allOrNone, h, record_eq_receive]
  | some e => simp [emit, Call.allOrNone, h, receive]

/-- Only the gesture itself can be at fault when it follows a click on an element. -/
theorem findSome?_fault?_clickThen (recording : Bool) (p : Policy) (target : ElementRef)
    (g : Gesture) :
    [p.moveOnto target, .click, g].findSome? (Gesture.fault? recording) = g.fault? recording := by
  have hmove : (p.moveOnto target).fault? recording = none := rfl
  have hclick : Gesture.click.fault? recording = none := rfl
  rw [List.findSome?_cons, hmove, List.findSome?_cons, hclick, List.findSome?_singleton]

/-- A gesture after a click on an element is taken with the click, or neither is. -/
theorem clickThen_eq_receiveAll (s : Session) (target : ElementRef) (g : Gesture) :
    s.clickThen target g
      = s.receiveAll (Call.allOrNone s.isRecording s.policy
          [s.policy.moveOnto target, .click, g]) := by
  have hfind := findSome?_fault?_clickThen s.isRecording s.policy target g
  rw [Call.allOrNone, hfind]
  cases h : g.fault? s.isRecording with
  | none =>
      rw [h] at hfind
      simp only [clickThen, h]
      exact s.emitAll_of_sound _ (List.findSome?_eq_none_iff.mp hfind)
  | some e => simp [clickThen, h, receive]

/-- A call that is neither a script nor a raw tick makes its gestures, all or none of them, or
    changes what is no history. -/
theorem call_eq_receiveAll_gestures (s : Session) (c : Call) (h : c.gestures s.policy ≠ []) :
    s.call c = s.receiveAll (Call.allOrNone s.isRecording s.policy (c.gestures s.policy)) := by
  cases c with
  | script _ | tick _ | policy _ | newPointer _ _ | newKeyboard _ => exact absurd rfl h
  | keyDownOn target key => exact s.clickThen_eq_receiveAll target (.keyDown key)
  | keyUpOn target key => exact s.clickThen_eq_receiveAll target (.keyUp key)
  | keyDown key => exact s.emit_eq_receiveAll (.keyDown key)
  | keyUp key => exact s.emit_eq_receiveAll (.keyUp key)
  | sendKeys keys => exact s.emit_eq_receiveAll (.sendKeys keys)
  | click => exact s.emit_eq_receiveAll .click
  | contextClick => exact s.emit_eq_receiveAll .contextClick
  | clickAndHold => exact s.emit_eq_receiveAll .clickAndHold
  | release => exact s.emit_eq_receiveAll .release
  | moveToElement target => exact s.emit_eq_receiveAll (s.moveOnto target)
  | moveToElementAt target x y => exact s.emit_eq_receiveAll (.moveToElement target x y)
  | moveByOffset x y => exact s.emit_eq_receiveAll (.moveByOffset x y)
  | pause duration => exact s.emit_eq_receiveAll (.pause duration)
  | gesture g => exact s.emit_eq_receiveAll g
  -- the gestures of these calls are never at fault
  | sendKeysTo _ _ | clickOn _ | doubleClick | doubleClickOn _ | contextClickOn _
  | clickAndHoldOn _ | releaseOn _ | dragAndDrop _ _ | dragAndDropBy _ _ _ =>
      exact s.emitAll_eq_receiveAll _ fun _ => rfl

theorem apply_eq_call (s : Session) (st : Step) :
    Step.apply s st = s.call (st.asCall s.policy) := by
  cases st with
  | click on | doubleClick on | contextClick on | clickAndHold on | release on
  | keyDown _ on | keyUp _ on | sendKeys _ on => cases on <;> rfl
  | moveToElement element x y => cases x <;> cases y <;> rfl
  | moveByOffset _ _ | dragAndDrop _ _ | dragAndDropBy _ _ _ | pause _ => rfl

theorem asCall_gestures_ne_nil (p : Policy) (st : Step) : (st.asCall p).gestures p ≠ [] := by
  cases st with
  | click on | doubleClick on | contextClick on | clickAndHold on | release on
  | keyDown _ on | keyUp _ on | sendKeys _ on =>
      cases on <;> exact List.cons_ne_nil _ _
  | moveToElement element x y => cases x <;> cases y <;> exact List.cons_ne_nil _ _
  | moveByOffset _ _ | dragAndDrop _ _ | dragAndDropBy _ _ _ | pause _ =>
      exact List.cons_ne_nil _ _

/-- A script is the events of its steps. -/
theorem foldl_apply_eq_receiveAll (s : Session) (steps : List Step) :
    steps.foldl Step.apply s
      = s.receiveAll (steps.flatMap fun st =>
          Call.allOrNone s.isRecording s.policy ((st.asCall s.policy).gestures s.policy)) := by
  induction steps generalizing s with
  | nil => rfl
  | cons st steps ih =>
      -- the first step acts like a call, and leaves the events of the others as they are
      have hst := s.call_eq_receiveAll_gestures (st.asCall s.policy)
        (asCall_gestures_ne_nil s.policy st)
      rw [List.foldl_cons, apply_eq_call, ih, hst, List.flatMap_cons, receiveAll_append]
      rw [receiveAll_isRecording,
        receiveAll_policy s _ fun q => Call.policy_notMem_allOrNone _ _ q _]

/-- A raw tick that names no device twice is taken as its events. -/
theorem tick_of_nodup (s : Session) {batch : List DeviceAction}
    (h : (Timelines.batchIds batch).Nodup) :
    s.tick batch = .ok (s.receiveAll (Call.tickEvents s.isRecording batch)) := by
  have htaken : s.tick batch
      = .ok (if s.isRecording then (s.receive (.tick batch)).defer .conflictingProtocols
          else s.receive (.tick batch)) := by
    rw [tick, s.timelines.tick_of_nodup h]
    rfl
  rw [htaken, Call.tickEvents, if_pos h]
  cases s.isRecording <;> rfl

theorem tick_of_not_nodup (s : Session) {batch : List DeviceAction}
    (h : ¬ (Timelines.batchIds batch).Nodup) :
    s.tick batch = .error (.duplicateDevice batch) := by
  rw [tick, s.timelines.tick_of_not_nodup h]
  rfl

/-! ## Runs as events -/

/-- A call is its events, one after another. -/
theorem call_eq_receiveAll (s : Session) (c : Call) :
    s.call c = s.receiveAll (c.events s.isRecording s.policy) := by
  by_cases hg : c.gestures s.policy = []
  · cases c with
    | script script => exact s.foldl_apply_eq_receiveAll script.steps
    | tick batch =>
        by_cases h : (Timelines.batchIds batch).Nodup
        · simp only [call, s.tick_of_nodup h, Call.events]
        · simp only [call, s.tick_of_not_nodup h, Call.events, Call.tickEvents, if_neg h,
            receiveAll_nil]
    | policy _ | newPointer _ _ | newKeyboard _ => rfl
    | _ => exact absurd hg (List.cons_ne_nil _ _)
  · rw [Call.events_of_gestures s.isRecording hg]
    exact s.call_eq_receiveAll_gestures c hg

/-- The policy in force after a call does not depend on what the session holds. -/
theorem call_policy (s : Session) (c : Call) : (s.call c).policy = c.policyAfter s.policy := by
  by_cases h : ∃ q, c = .policy q
  · obtain ⟨q, rfl⟩ := h
    rfl
  · -- the events of a call that sets no policy set none
    have hafter : c.policyAfter s.policy = s.policy := by
      cases c with
      | policy q => exact absurd ⟨q, rfl⟩ h
      | _ => rfl
    rw [hafter, call_eq_receiveAll]
    exact s.receiveAll_policy _ fun q hq => h ⟨q, Call.eq_policy_of_mem_events hq⟩

@[simp] theorem call_isRecording (s : Session) (c : Call) :
    (s.call c).isRecording = s.isRecording := by
  rw [call_eq_receiveAll, receiveAll_isRecording]

/-- The events of a run are those of each call, under the policy in force at that call. -/
theorem events_cons (s : Session) (c : Call) (cs : List Call) :
    s.events (c :: cs) = c.events s.isRecording s.policy ++ (s.call c).events cs := by
  rw [events, events, call_isRecording, call_policy]
  rfl

/-- **A run is its events.**  The events depend on the calls, on the first policy and on whether
    the session records. -/
theorem run_eq_receiveAll (s : Session) (calls : List Call) :
    s.run calls = s.receiveAll (s.events calls) := by
  induction calls generalizing s with
  | nil => rfl
  | cons c cs ih =>
      show (s.call c).run cs = _
      rw [ih, events_cons, receiveAll_append, ← call_eq_receiveAll]

end Session

end GestureTimeline
