import GestureTimeline.Proofs.Events
import GestureTimeline.Proofs.Replay

/-! # Performing a session

    While a session is in use, calls are made on it, it is built and performed any number of
    times, and the endpoint beside it may come to offer other things than at the opening.  Only
    the calls change the session, and a performance is decided by the session and by what was
    offered when it was opened (`Decided`). -/

namespace GestureTimeline

/-! ## A session in use -/

/-- One thing that happens while a session is in use. -/
inductive Happening where
  | call (call : Call)
  | build
  | perform (answers : Answers)
  /-- The endpoint offers something else from now on. -/
  | offer (endpoint : Endpoint)

/-- What comes of a build or a performance. -/
inductive Outcome where
  | built (result : Except ActionError Plan)
  | performed (performance : Performance)

/-- A session in use, beside the endpoint that it was opened on. -/
structure Scene where
  session : Session
  endpoint? : Option Endpoint
  /-- What came of the builds and performances so far, in order. -/
  outcomes : List Outcome

/-- The call that a happening is, if it is one. -/
def Happening.call? : Happening → Option Call
  | call c => some c
  | _ => none

namespace Scene

/-- A session just opened. -/
def opened (o : Opening) : Scene where
  session := o.session
  endpoint? := o.endpoint?
  outcomes := []

/-- The scene after one happening. -/
def happen (s : Scene) : Happening → Scene
  | .call c => { s with session := s.session.call c }
  | .build => { s with outcomes := s.outcomes ++ [.built s.session.build] }
  | .perform answers =>
      { s with outcomes := s.outcomes ++ [.performed (s.session.perform answers)] }
  | .offer endpoint => { s with endpoint? := s.endpoint?.map fun _ => endpoint }

/-- The scene after happenings in order. -/
def happenAll (s : Scene) (hs : List Happening) : Scene := hs.foldl happen s

/-- Only calls change the session. -/
theorem happenAll_session (s : Scene) (hs : List Happening) :
    (s.happenAll hs).session = s.session.run (hs.filterMap Happening.call?) := by
  induction hs generalizing s with
  | nil => rfl
  | cons h hs ih =>
      show ((s.happen h).happenAll hs).session = _
      rw [ih]
      cases h <;> rfl

end Scene

/-! ## What a performance is to be -/

/-- What a performance of a session is, when `advertised` says whether it was opened on an
    endpoint that advertised the synchronized command and `captured` holds the legacy handles
    that were kept then. -/
inductive Decided (advertised : Bool) (captured : Option Handles) (answers : Answers)
    (s : Session) : Performance → Prop where
  /-- A deferred error ends the performance before anything is done. -/
  | refused (e : ActionError) (hdeferred : s.deferred = some e) :
      Decided advertised captured answers s ⟨[], .error e⟩
  /-- The synchronized command is accepted, and nothing else is done. -/
  | synchronized (hdeferred : s.deferred = none) (hadvertised : advertised = true)
      (hanswer : answers.sequences = none) :
      Decided advertised captured answers s
        ⟨[.sequences s.timelines.lines], .ok .synchronized⟩
  /-- The synchronized command fails, other than for not being supported. -/
  | failed (e : TargetError) (hdeferred : s.deferred = none) (hadvertised : advertised = true)
      (hanswer : answers.sequences = some e) (hother : e.isUnsupported = false) :
      Decided advertised captured answers s
        ⟨[.sequences s.timelines.lines], .error (.target e)⟩
  /-- The synchronized command is not supported, and there is no handle to fall back on. -/
  | unsupported (e : TargetError) (hdeferred : s.deferred = none)
      (hadvertised : advertised = true) (hanswer : answers.sequences = some e)
      (hunsupported : e.isUnsupported = true) (hcaptured : captured = none) :
      Decided advertised captured answers s
        ⟨[.sequences s.timelines.lines], .error (.target e)⟩
  /-- The synchronized command is not supported, and the gestures are replayed once. -/
  | fellBack (e : TargetError) (handles : Handles) (r : Replay) (hdeferred : s.deferred = none)
      (hadvertised : advertised = true) (hanswer : answers.sequences = some e)
      (hunsupported : e.isUnsupported = true) (hcaptured : captured = some handles)
      (hreplay : Replay.OnePass handles answers.legacy s.composite r) :
      Decided advertised captured answers s
        ⟨.sequences s.timelines.lines :: r.steps.map .legacy,
          r.result.map fun _ => Protocol.legacy⟩
  /-- The synchronized command was not advertised, and the gestures are replayed once. -/
  | replayed (handles : Handles) (r : Replay) (hdeferred : s.deferred = none)
      (hadvertised : advertised = false) (hcaptured : captured = some handles)
      (hreplay : Replay.OnePass handles answers.legacy s.composite r) :
      Decided advertised captured answers s
        ⟨r.steps.map .legacy, r.result.map fun _ => Protocol.legacy⟩
  /-- There is no protocol to perform with. -/
  | noProtocol (hdeferred : s.deferred = none) (hadvertised : advertised = false)
      (hcaptured : captured = none) :
      Decided advertised captured answers s ⟨[], .error (.noProtocol .bothProtocols)⟩

namespace Session

/-- A session that has deferred an error performs nothing and fails with that error. -/
theorem perform_of_deferred {s : Session} {e : ActionError} (h : s.deferred = some e)
    (answers : Answers) : s.perform answers = .failed e := by
  simp only [perform, build, h]

/-- A performance is decided by the route of the session. -/
theorem perform_decided (s : Session) (answers : Answers) :
    Decided (s.route.hasTarget && s.route.synchronized) s.route.handles answers s
      (s.perform answers) := by
  cases hdeferred : s.deferred with
  | some e =>
      rw [perform_of_deferred hdeferred]
      exact .refused e hdeferred
  | none =>
      have hperform : s.perform answers
          = (Plan.mk s.timelines.lines s.composite).perform s.route answers := by
        simp only [perform, build, hdeferred]
      rw [hperform, Plan.perform]
      -- the synchronized command is tried first, and only where it was advertised
      cases hadvertised : s.route.hasTarget && s.route.synchronized with
      | false =>
          rw [if_neg Bool.false_ne_true]
          cases hcaptured : s.route.handles with
          | none => exact .noProtocol hdeferred rfl rfl
          | some handles =>
              exact .replayed handles _ hdeferred rfl rfl
                (Replay.onePass_replay handles answers.legacy s.composite)
      | true =>
          rw [if_pos rfl]
          cases hanswer : answers.sequences with
          | none => exact .synchronized hdeferred rfl hanswer
          | some e =>
              cases hcaptured : s.route.handles with
              | none =>
                  cases hunsupported : e.isUnsupported with
                  | false => exact .failed e hdeferred rfl hanswer hunsupported
                  | true => exact .unsupported e hdeferred rfl hanswer hunsupported rfl
              | some handles =>
                  cases hunsupported : e.isUnsupported with
                  | false =>
                      simp only [hunsupported, Bool.false_eq_true, if_false]
                      exact .failed e hdeferred rfl hanswer hunsupported
                  | true =>
                      simp only [hunsupported, if_true]
                      exact .fellBack e handles _ hdeferred rfl hanswer hunsupported rfl
                        (Replay.onePass_replay handles answers.legacy s.composite)

end Session

/-- The performance of a plan over a route is that of a session that has come to hold the plan
    and has that route, so it is decided in the same way. -/
theorem Plan.exists_decided (p : Plan) (route : Route) (answers : Answers) :
    ∃ s : Session, s.deferred = none ∧ s.composite = p.composite
      ∧ Decided (route.hasTarget && route.synchronized) route.handles answers s
          (p.perform route answers) := by
  let s : Session :=
    { Session.start route.hasTarget route.synchronized none with
      handles := route.handles
      timelines := { Timelines.empty with lines := p.timelines }
      composite := p.composite }
  exact ⟨s, rfl, rfl, s.perform_decided answers⟩

/-! ## Performances in a scene -/

/-- **A performance is decided by what was offered at the opening, and replays at most once.**
    Whatever has happened since, a performance adds its one outcome to the scene. -/
theorem Scene.every_perform_decided (o : Opening) (hs : List Happening) (answers : Answers) :
    ∃ p, ((opened o).happenAll (hs ++ [.perform answers])).outcomes
          = ((opened o).happenAll hs).outcomes ++ [.performed p]
      ∧ Decided o.advertised o.captured? answers ((opened o).happenAll hs).session p := by
  refine ⟨((opened o).happenAll hs).session.perform answers, ?_, ?_⟩
  · rw [happenAll, List.foldl_append]
    rfl
  · -- the offers of the endpoint come to the scene, but not to the session
    have hroute : ((opened o).happenAll hs).session.route = o.session.route := by
      rw [happenAll_session, Session.run_eq_receiveAll, Session.receiveAll_route]
      rfl
    have hdecided := ((opened o).happenAll hs).session.perform_decided answers
    rw [hroute, o.session_route] at hdecided
    cases o with
    | onEndpoint e => exact hdecided
    | onHandles h => exact hdecided

end GestureTimeline
