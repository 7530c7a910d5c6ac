import GestureTimeline.Console
import GestureTimeline.Proofs.Dispatch
import GestureTimeline.Proofs.Histories
import Mathlib.Data.List.Forall2

/-! # What the console shows

    The console answers by its mode alone, fails no legacy command, and has both legacy handles
    or none.  A performance on it can therefore be written down from the plan: it ends in one of
    five ways, with a line for each timeline or a line for each gesture that is no pause
    (`Console.Shows`). -/

namespace GestureTimeline

/-- Whether a gesture is a pause, for which the legacy protocol has no command. -/
def Gesture.isPause : Gesture → Bool
  | pause _ => true
  | _ => false

/-! ## What is to be shown -/

namespace Console

/-- Whether a line tells of a legacy command. -/
def IsDeviceLine (line : String) : Prop :=
  ∃ rest, line = "keyboard: " ++ rest ∨ line = "mouse: " ++ rest

/-- A line shows a timeline of some ticks: its device, and a text for each tick. -/
structure TimelineShown (ticks : Nat) (t : Timeline) (line : String) : Prop where
  length_eq : t.steps.length = ticks
  line_eq : line = "actions: " ++ t.device.wireId ++ " ["
    ++ ", ".intercalate (t.steps.map interactionText) ++ "]"
  not_isDeviceLine : ¬ IsDeviceLine line

/-- A line shows a gesture: it is the line of the gesture's command. -/
structure GestureShown (g : Gesture) (line : String) : Prop where
  line_eq : ∃ command, g.legacyStep = .command command ∧ line = commandLine command
  isDeviceLine : IsDeviceLine line

/-- What performing a plan on a console comes to: how it ends, and the transcript. -/
inductive Shows (plan : Plan) : Console → Except ActionError Protocol → List String → Prop where
  /-- The synchronized command is obeyed, whether there are handles or not. -/
  | obeyed (legacy : Bool) (lines : List String)
      (hlines : List.Forall₂ (TimelineShown plan.tickCount) plan.timelines lines) :
      Shows plan ⟨.synchronized, legacy⟩ (.ok .synchronized) lines
  /-- The synchronized command is rejected, and the gestures are replayed. -/
  | fellBack (lines : List String)
      (hlines : List.Forall₂ GestureShown (plan.composite.filter (!·.isPause)) lines) :
      Shows plan ⟨.rejectActions, true⟩ (.ok .legacy) ("actions: rejected" :: lines)
  /-- The synchronized command is rejected, and there is nothing else. -/
  | unsupported :
      Shows plan ⟨.rejectActions, false⟩
        (.error (.target (.unsupportedCommand "perform actions"))) ["actions: rejected"]
  /-- There is no synchronized command, and the gestures are replayed. -/
  | replayed (lines : List String)
      (hlines : List.Forall₂ GestureShown (plan.composite.filter (!·.isPause)) lines) :
      Shows plan ⟨.legacyOnly, true⟩ (.ok .legacy) lines
  /-- There is neither. -/
  | noProtocol :
      Shows plan ⟨.legacyOnly, false⟩ (.error (.noProtocol .bothProtocols)) []

/-! ## Only one thing can be shown -/

theorem rightUnique_timelineShown (ticks : Nat) : Relator.RightUnique (TimelineShown ticks) :=
  fun _ _ _ h k => h.line_eq.trans k.line_eq.symm

theorem rightUnique_gestureShown : Relator.RightUnique GestureShown := by
  intro g line line' h k
  obtain ⟨command, hstep, rfl⟩ := h.line_eq
  obtain ⟨command', hstep', rfl⟩ := k.line_eq
  have hsame : command = command' := LegacyStep.command.inj (hstep.symm.trans hstep')
  rw [hsame]

/-- The plan and the console leave no choice of how a performance ends and what it shows. -/
theorem Shows.unique {plan : Plan} {c : Console} {result result' : Except ActionError Protocol}
    {lines lines' : List String} (h : c.Shows plan result lines)
    (k : c.Shows plan result' lines') : result = result' ∧ lines = lines' := by
  cases h with
  | obeyed legacy _ hlines =>
      cases k with
      | obeyed _ _ klines =>
          exact ⟨rfl, (rightUnique_timelineShown plan.tickCount).forall₂ hlines klines⟩
  | fellBack _ hlines =>
      cases k with
      | fellBack _ klines =>
          exact ⟨rfl, congrArg _ (rightUnique_gestureShown.forall₂ hlines klines)⟩
  | unsupported =>
      cases k with
      | unsupported => exact ⟨rfl, rfl⟩
  | replayed _ hlines =>
      cases k with
      | replayed _ klines => exact ⟨rfl, rightUnique_gestureShown.forall₂ hlines klines⟩
  | noProtocol =>
      cases k with
      | noProtocol => exact ⟨rfl, rfl⟩

/-! ## Lines -/

theorem IsDeviceLine.append {line : String} (h : IsDeviceLine line) (more : String) :
    IsDeviceLine (line ++ more) := by
  obtain ⟨rest, rfl | rfl⟩ := h
  · exact ⟨rest ++ more, Or.inl String.append_assoc⟩
  · exact ⟨rest ++ more, Or.inr String.append_assoc⟩

/-- The line of a command starts with the name of its device. -/
theorem isDeviceLine_commandLine (command : LegacyCommand) :
    IsDeviceLine (commandLine command) := by
  cases command with
  | mouse m =>
      cases m with
      | click => exact .append ⟨"click ", Or.inr (by decide)⟩ _
      | contextClick => exact .append ⟨"context_click ", Or.inr (by decide)⟩ _
      | down => exact .append ⟨"down ", Or.inr (by decide)⟩ _
      | up => exact .append ⟨"up ", Or.inr (by decide)⟩ _
      | move target x y => exact .append ⟨"move ", Or.inr (by decide)⟩ _
  | keyboard k =>
      cases k with
      | sendKeys keys => exact .append ⟨"send_keys ", Or.inl (by decide)⟩ _
      | press key => exact .append ⟨"press ", Or.inl (by decide)⟩ _
      | release key => exact .append ⟨"release ", Or.inl (by decide)⟩ _

/-- The first letters tell the line of a timeline from that of a legacy command. -/
theorem not_isDeviceLine_timelineLine (t : Timeline) : ¬ IsDeviceLine (timelineLine t) := by
  rintro ⟨rest, h | h⟩
  · have hlist := congrArg String.toList h
    simp [timelineLine] at hlist
  · have hlist := congrArg String.toList h
    simp [timelineLine] at hlist

/-- The timelines of a plan are shown when each has the ticks of the plan. -/
theorem forall₂_timelineShown {ticks : Nat} {ts : List Timeline}
    (h : ∀ t ∈ ts, t.steps.length = ticks) :
    List.Forall₂ (TimelineShown ticks) ts (ts.map timelineLine) := by
  rw [List.forall₂_map_right_iff, List.forall₂_same]
  intro t ht
  exact ⟨h t ht, rfl, not_isDeviceLine_timelineLine t⟩

/-- Steps of gestures show a line for each gesture that is no pause, in order. -/
theorem forall₂_gestureShown (c : Console) (gs : List Gesture) :
    List.Forall₂ GestureShown (gs.filter (!·.isPause))
      (((gs.map Gesture.legacyStep).map Effect.legacy).flatMap (effectLines c)) := by
  induction gs with
  | nil => exact .nil
  | cons g gs ih =>
      cases g with
      | pause d => exact ih
      | _ => exact .cons ⟨⟨_, rfl, rfl⟩, isDeviceLine_commandLine _⟩ ih

end Console

/-! ## The performance on a console -/

/-- No gesture misses its handle, and no command is answered with a failure. -/
theorem failure?_of_both_handles (g : Gesture) (made : Nat) :
    g.failure? ⟨true, true⟩ (fun _ => none) made = none := by
  cases g <;> rfl

/-- With both handles and no failing answer, a replay makes the step of every gesture. -/
theorem replay_of_both_handles (gs : List Gesture) :
    replay ⟨true, true⟩ (fun _ => none) gs = ⟨gs.map Gesture.legacyStep, .ok ()⟩ := by
  have hpass := Replay.onePass_replay ⟨true, true⟩ (fun _ => none) gs
  generalize replay ⟨true, true⟩ (fun _ => none) gs = r at hpass ⊢
  cases hpass with
  | whole _ => rfl
  | stopped before g after e _ _ hfails =>
      rw [failure?_of_both_handles] at hfails
      cases hfails

namespace Console

/-- Performing a plan on the route of a console comes to what the plan and the console say. -/
theorem shows_perform (c : Console) (plan : Plan)
    (hlength : ∀ t ∈ plan.timelines, t.steps.length = plan.tickCount) :
    let p := plan.perform (Opening.onEndpoint c.endpoint).session.route c.answers
    c.Shows plan p.result (c.transcript p) := by
  intro p
  have htimelines := forall₂_timelineShown hlength
  -- the gestures are replayed as a whole, wherever they are
  have hreplay : plan.performLegacy ⟨true, true⟩ c.answers
      = ⟨(plan.composite.map Gesture.legacyStep).map Effect.legacy, .ok .legacy⟩ := by
    show Performance.ofReplay (replay ⟨true, true⟩ (fun _ => none) plan.composite) = _
    rw [replay_of_both_handles]
    rfl
  have hgestures := forall₂_gestureShown c plan.composite
  obtain ⟨mode, legacy⟩ := c
  cases mode with
  | synchronized =>
      have hp : p = ⟨[.sequences plan.timelines], .ok .synchronized⟩ := by
        rfl
      rw [hp]
      exact .obeyed legacy _ (by simpa [transcript, effectLines] using htimelines)
  | rejectActions =>
      cases legacy with
      | false => exact .unsupported
      | true =>
          have hp : p = .after (.sequences plan.timelines)
              (plan.performLegacy ⟨true, true⟩ (answers ⟨.rejectActions, true⟩)) := by
            rfl
          rw [hp, hreplay]
          exact .fellBack _ hgestures
  | legacyOnly =>
      cases legacy with
      | false => exact .noProtocol
      | true =>
          have hp : p = plan.performLegacy ⟨true, true⟩ (answers ⟨.legacyOnly, true⟩) := by
            rfl
          rw [hp, hreplay]
          exact .replayed _ hgestures

end Console

/-! ## Sessions on a console -/

namespace Session

/-- The timelines of a plan belong to the devices of the batches, in the order in which these
    first acted. -/
theorem devices_of_build {o : Opening} {calls : List Call} {plan : Plan}
    (hbuild : (o.session.run calls).build = .ok plan) :
    plan.timelines.map Timeline.device
      = Timelines.devicesOf (Timelines.counted (o.session.batches calls)) := by
  obtain ⟨-, rfl⟩ := build_eq_ok_iff.mp hbuild
  rw [run_timelines]
  exact Timelines.map_device_ofBatches _

/-- Every timeline of a plan has the ticks of the plan. -/
theorem length_steps_of_build {o : Opening} {calls : List Call} {plan : Plan}
    (hbuild : (o.session.run calls).build = .ok plan) :
    ∀ t ∈ plan.timelines, t.steps.length = plan.tickCount := by
  rw [tickCount_of_build hbuild]
  obtain ⟨-, rfl⟩ := build_eq_ok_iff.mp hbuild
  rw [run_timelines]
  intro t ht
  obtain ⟨d, -, rfl⟩ := List.mem_map.mp ht
  exact List.length_map _

/-- A session that can be built performs its plan on the route of its opening. -/
theorem perform_of_build {o : Opening} {calls : List Call} {plan : Plan}
    (hbuild : (o.session.run calls).build = .ok plan) (answers : Answers) :
    (o.session.run calls).perform answers = plan.perform o.session.route answers := by
  have hroute : (o.session.run calls).route = o.session.route := by
    rw [run_eq_receiveAll, receiveAll_route]
  simp only [perform, hbuild, hroute]

end Session

/-- **A performance on a console is determined by the plan and the console.**  Whatever was
    called on the session, scripts among it, if it can be built then its performance ends as the
    console's mode and handles say and shows what they say, and nothing else; the timelines that
    are shown come in the order in which their devices first acted; and no gesture lacks its
    handle. -/
theorem Console.performance_determined (c : Console) (calls : List Call) (plan : Plan)
    (hbuild : ((Opening.onEndpoint c.endpoint).session.run calls).build = .ok plan) :
    let o := Opening.onEndpoint c.endpoint
    let p := (o.session.run calls).perform c.answers
    (∀ result lines, c.Shows plan result lines ↔ p.result = result ∧ c.transcript p = lines)
      ∧ plan.timelines.map Timeline.device
          = Timelines.devicesOf (Timelines.counted (o.session.batches calls))
      ∧ ∀ missing, p.result = .error (.noProtocol missing) → missing = .bothProtocols := by
  intro o p
  have hp : p = plan.perform o.session.route c.answers :=
    Session.perform_of_build hbuild c.answers
  have hshows : c.Shows plan p.result (c.transcript p) := by
    rw [hp]
    exact c.shows_perform plan (Session.length_steps_of_build hbuild)
  refine ⟨?_, Session.devices_of_build hbuild, ?_⟩
  · intro result lines
    constructor
    · intro h
      exact hshows.unique h
    · rintro ⟨rfl, rfl⟩
      exact hshows
  · intro missing hmissing
    rw [hmissing] at hshows
    generalize c.transcript p = lines at hshows
    cases hshows with
    | noProtocol => rfl

/-- A script with a pause, performed on a console that rejects the synchronized command. -/
theorem Console.performance_determined_rejected :
    let c : Console := ⟨.rejectActions, true⟩
    let o := Opening.onEndpoint c.endpoint
    let calls := [Call.policy { offsetMoveMs := 80 },
      .script ⟨[.moveByOffset 4 (-2), .pause 250, .keyDown (.named .shift) (some ⟨"field"⟩)]⟩]
    let plan : Plan := ⟨(o.session.run calls).timelines.lines, (o.session.run calls).composite⟩
    let p := (o.session.run calls).perform c.answers
    (o.session.run calls).build = .ok plan
      ∧ (∀ result lines, c.Shows plan result lines ↔ p.result = result ∧ c.transcript p = lines)
      ∧ plan.timelines.map Timeline.device
          = Timelines.devicesOf (Timelines.counted (o.session.batches calls))
      ∧ ∀ missing, p.result = .error (.noProtocol missing) → missing = .bothProtocols :=
  ⟨rfl, performance_determined ⟨.rejectActions, true⟩ _ _ rfl⟩

/-- The pause is waited for and leaves no line. -/
example :
    let c : Console := ⟨.rejectActions, true⟩
    let calls := [Call.script ⟨[.moveByOffset 4 (-2), .pause 250, .keyDown (.named .shift) none]⟩]
    c.transcript (((Opening.onEndpoint c.endpoint).session.run calls).perform c.answers)
      = ["actions: rejected", "mouse: move here +4 -2", "keyboard: press Key::Shift"] := by
  decide +kernel

end GestureTimeline
