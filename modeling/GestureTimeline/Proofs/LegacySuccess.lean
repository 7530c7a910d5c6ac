import GestureTimeline.Proofs.Dispatch
import GestureTimeline.Proofs.Histories

/-! # What a legacy success says

    A performance that reports the legacy protocol has replayed the whole composite list of its
    plan, whoever handed it the handles.  That list is what the session recorded, and a session
    records only while it has a handle itself.  So the report means that the plan was run exactly
    if the plan comes from a session with a handle, or has no tick: a plan built without handles
    and performed through some later on is a success that does nothing. -/

namespace GestureTimeline

/-- The step of a legacy replay that an effect is, if it is one. -/
def Effect.replayed? : Effect → Option LegacyStep
  | legacy step => some step
  | sequences _ => none

/-- The steps of legacy replays in a performance: commands and waits. -/
def Performance.replayed (p : Performance) : List LegacyStep := p.effects.filterMap Effect.replayed?

/-! ## From the report to the steps -/

/-- A pass that reports no failure has made the step of every gesture. -/
theorem Replay.OnePass.steps_of_result {handles : Handles} {answer : Nat → Option TargetError}
    {gs : List Gesture} {r : Replay} (hpass : OnePass handles answer gs r)
    (h : (r.result.map fun _ => Protocol.legacy) = .ok .legacy) :
    r.steps = gs.map Gesture.legacyStep := by
  cases hpass with
  | whole _ => rfl
  | stopped _ _ _ _ _ _ _ => exact nomatch h

/-- The steps of a replay are found again among its effects. -/
theorem Effect.filterMap_replayed?_map_legacy (steps : List LegacyStep) :
    (steps.map legacy).filterMap replayed? = steps := by
  rw [List.filterMap_map]
  exact List.filterMap_some

/-- A performance that reports the legacy protocol had handles, and has replayed every gesture of
    the session. -/
theorem Decided.of_legacy {advertised : Bool} {captured : Option Handles} {answers : Answers}
    {s : Session} {p : Performance} (hp : Decided advertised captured answers s p)
    (h : p.result = .ok .legacy) :
    captured.isSome = true ∧ p.replayed = s.composite.map Gesture.legacyStep := by
  cases hp with
  | refused e _ => exact nomatch h
  | synchronized _ _ _ => exact nomatch h
  | failed e _ _ _ _ => exact nomatch h
  | unsupported e _ _ _ _ _ => exact nomatch h
  | fellBack e handles r _ _ _ _ hcaptured hreplay =>
      -- the synchronized command is no step of the replay after it
      exact ⟨hcaptured ▸ rfl,
        (Effect.filterMap_replayed?_map_legacy r.steps).trans (hreplay.steps_of_result h)⟩
  | replayed handles r _ _ hcaptured hreplay =>
      exact ⟨hcaptured ▸ rfl,
        (Effect.filterMap_replayed?_map_legacy r.steps).trans (hreplay.steps_of_result h)⟩
  | noProtocol _ _ _ => exact nomatch h

namespace Plan

/-- A performance that reports the legacy protocol has replayed every gesture of the plan. -/
theorem replayed_of_result {p : Plan} {route : Route} {answers : Answers}
    (h : (p.perform route answers).result = .ok .legacy) :
    (p.perform route answers).replayed = p.composite.map Gesture.legacyStep := by
  obtain ⟨s, -, hcomposite, hdecided⟩ := p.exists_decided route answers
  rw [← hcomposite]
  exact (hdecided.of_legacy h).2

end Plan

/-! ## From the session to the composite list -/

namespace Session

/-- The gestures that a run puts into the composite list, each with the policy in force at its
    call. -/
def recorded (s : Session) (calls : List Call) : List (Policy × Gesture) :=
  if s.isRecording then s.taken calls else []

/-- The actions of gestures on the default devices, each gesture under its policy. -/
def actionsOf (s : Session) (gs : List (Policy × Gesture)) : List DeviceAction :=
  gs.flatMap fun (p, g) => g.expand s.pointer s.keyboard p

/-- While the session does not record, the composite list stays as it is. -/
theorem receiveAll_composite_of_not_recording (s : Session) (es : List Event)
    (h : s.isRecording = false) : (s.receiveAll es).composite = s.composite := by
  induction es generalizing s with
  | nil => rfl
  | cons e es ih =>
      have hrec : (s.receive e).isRecording = false := (s.receiveAll_isRecording [e]).trans h
      have hone : (s.receive e).composite = s.composite := by
        cases e with
        | gesture _ _ => exact if_neg (h ▸ Bool.false_ne_true)
        | tick _ | fault _ | policy _ | device => rfl
      rw [receiveAll_cons, ih _ hrec, hone]

/-- The composite list of a run is what it recorded. -/
theorem run_composite (o : Opening) (calls : List Call) :
    (o.session.run calls).composite = (o.session.recorded calls).map Prod.snd := by
  rw [run_eq_receiveAll, recorded]
  cases hrec : o.session.isRecording with
  | false =>
      rw [receiveAll_composite_of_not_recording _ _ hrec, o.session_composite]
      rfl
  | true =>
      rw [receiveAll_composite _ _ hrec, o.session_composite]
      rfl

/-- While a session records and can be built, its timelines come from its gestures alone. -/
theorem run_timelines_of_recording {o : Opening} {calls : List Call} {plan : Plan}
    (hrec : o.session.isRecording = true) (hbuild : (o.session.run calls).build = .ok plan) :
    (o.session.run calls).timelines = Timelines.empty.advanceEach (o.session.expansion calls) := by
  have hbatches : o.session.batches calls = (o.session.expansion calls).map ([·]) :=
    flatMap_batches_of_no_tick _ _ (tick_notMem_of_build hrec hbuild)
  rw [run_eq_receiveAll, receiveAll_timelines, advanceEach_eq_foldl, o.session_timelines,
    ← hbatches]
  rfl

/-- Without a handle, a session records nothing. -/
theorem recorded_of_not_recording {s : Session} (h : s.isRecording = false)
    (calls : List Call) : s.recorded calls = [] := by
  rw [recorded, h]
  rfl

/-- With a handle, the recorded gestures of a plan expand to its timelines. -/
theorem advanceEach_recorded_of_recording {o : Opening} {calls : List Call} {plan : Plan}
    (hrec : o.session.isRecording = true) (hbuild : (o.session.run calls).build = .ok plan) :
    (Timelines.empty.advanceEach (o.session.actionsOf (o.session.recorded calls))).lines
      = plan.timelines := by
  have htaken : o.session.recorded calls = o.session.taken calls := by
    rw [recorded, hrec]
    rfl
  have htimelines := run_timelines_of_recording hrec hbuild
  obtain ⟨-, rfl⟩ := build_eq_ok_iff.mp hbuild
  rw [htaken, htimelines]
  rfl

/-- A plan without ticks has no timelines. -/
theorem timelines_eq_nil_iff_of_build {o : Opening} {calls : List Call} {plan : Plan}
    (hbuild : (o.session.run calls).build = .ok plan) :
    plan.timelines = [] ↔ plan.tickCount = 0 := by
  constructor
  · intro hnil
    rw [Plan.tickCount, hnil]
  · intro hticks
    rw [tickCount_of_build hbuild, List.length_eq_zero_iff] at hticks
    obtain ⟨-, rfl⟩ := build_eq_ok_iff.mp hbuild
    rw [run_timelines, hticks]
    rfl

/-- **A legacy success has run the plan exactly if the plan was recorded.**  What was replayed is
    what the session had recorded, and it expands to the timelines of the plan if the session
    had a handle, in which case a tick never goes without a command or a wait.  If the session
    had none, nothing was replayed, and only a plan without ticks was run. -/
theorem legacy_success_runs_plan_iff (o : Opening) (calls : List Call) (plan : Plan)
    (route : Route) (answers : Answers) (hbuild : (o.session.run calls).build = .ok plan)
    (hlegacy : (plan.perform route answers).result = .ok .legacy) :
    plan.composite = (o.session.recorded calls).map Prod.snd
      ∧ (plan.perform route answers).replayed = plan.composite.map Gesture.legacyStep
      ∧ ((Timelines.empty.advanceEach (o.session.actionsOf (o.session.recorded calls))).lines
            = plan.timelines
          ↔ o.captured?.isSome = true ∨ plan.tickCount = 0)
      ∧ ((plan.perform route answers).replayed = [] →
          o.captured?.isSome = false ∨ plan.tickCount = 0) := by
  have hcomposite : plan.composite = (o.session.recorded calls).map Prod.snd := by
    rw [(build_eq_ok_iff.mp hbuild).2]
    exact run_composite o calls
  have hreplayed := Plan.replayed_of_result hlegacy
  refine ⟨hcomposite, hreplayed, ?_, ?_⟩
  · rw [← o.session_isRecording]
    cases hrec : o.session.isRecording with
    | true => simp [advanceEach_recorded_of_recording hrec hbuild]
    | false =>
        rw [recorded_of_not_recording hrec, ← timelines_eq_nil_iff_of_build hbuild]
        simp [actionsOf, Timelines.advanceEach, Timelines.empty, eq_comm]
  · intro hnone
    rw [hreplayed, hcomposite, List.map_eq_nil_iff, List.map_eq_nil_iff] at hnone
    rw [← o.session_isRecording]
    cases hrec : o.session.isRecording with
    | false => exact Or.inl rfl
    | true =>
        -- gestures that were not recorded have no ticks
        refine Or.inr ((timelines_eq_nil_iff_of_build hbuild).mp ?_)
        rw [← advanceEach_recorded_of_recording hrec hbuild, hnone]
        rfl

/-- A drag through a lone mouse, sent to an endpoint that lacks the synchronized command. -/
theorem legacy_success_runs_plan_iff_drag :
    let o := Opening.onHandles ⟨false, true⟩
    let calls := [Call.dragAndDropBy ⟨"slider"⟩ 40 0, .pause (.ofMillis 5)]
    let plan : Plan := ⟨(o.session.run calls).timelines.lines, (o.session.run calls).composite⟩
    let route : Route := ⟨true, true, some ⟨true, true⟩⟩
    let answers : Answers := ⟨some (.unsupportedCommand "actions"), fun _ => none⟩
    ((o.session.run calls).build = .ok plan
        ∧ (plan.perform route answers).result = .ok .legacy)
      ∧ plan.composite = (o.session.recorded calls).map Prod.snd
      ∧ (plan.perform route answers).replayed = plan.composite.map Gesture.legacyStep
      ∧ ((Timelines.empty.advanceEach (o.session.actionsOf (o.session.recorded calls))).lines
            = plan.timelines
          ↔ o.captured?.isSome = true ∨ plan.tickCount = 0)
      ∧ ((plan.perform route answers).replayed = [] →
          o.captured?.isSome = false ∨ plan.tickCount = 0) :=
  ⟨⟨rfl, rfl⟩, legacy_success_runs_plan_iff _ _ _ _ _ rfl rfl⟩

/-- A click of a session without handles, performed through handles later on: a success is
    reported, and nothing was done. -/
theorem legacy_success_without_replay :
    ∃ plan, ((Opening.onEndpoint ⟨true, none⟩).session.run [.click]).build = .ok plan
      ∧ (∃ l ∈ plan.timelines, ∃ i ∈ l.steps, i ≠ .idle)
      ∧ (plan.perform ⟨false, false, some ⟨true, true⟩⟩ ⟨none, fun _ => none⟩).result
          = .ok .legacy
      ∧ (plan.perform ⟨false, false, some ⟨true, true⟩⟩ ⟨none, fun _ => none⟩).effects = []
      ∧ plan.composite = []
      ∧ (Timelines.empty.advanceEach []).lines ≠ plan.timelines := by
  refine ⟨_, rfl, ?_, rfl, rfl, rfl, by decide⟩
  decide

end Session

end GestureTimeline
