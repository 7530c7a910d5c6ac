import GestureTimeline.Proofs.Growth
import GestureTimeline.Proofs.LegacySuccess
import Mathlib.Algebra.GroupWithZero.Nat

/-! # Performing again

    A performance reads the session and leaves it as it is, so nothing is used up by it.  The
    next one starts over with all that the session holds by then.  It sends the earlier timelines
    with further steps behind, or replays the earlier gestures before the further ones.

    What stands between two performances is told by the gestures that the calls between them
    were accepted as: without any, the later replay is the earlier one. -/

namespace GestureTimeline

/-! ## What a replay comes to -/

namespace Performance

theorem legacyCommands_eq (p : Performance) :
    p.legacyCommands = p.replayed.filterMap LegacyStep.command? := by
  rw [legacyCommands, replayed, List.filterMap_filterMap]
  refine List.filterMap_congr fun e _ => ?_
  cases e with
  | sequences _ => rfl
  | legacy step => cases step <;> rfl

/-- Only replays wait. -/
theorem waitedNanos_eq (p : Performance) :
    p.waitedNanos = (p.replayed.map LegacyStep.waitedNanos).sum := by
  obtain ⟨effects, result⟩ := p
  show effects.foldr (fun e n => e.waitedNanos + n) 0
    = ((effects.filterMap Effect.replayed?).map LegacyStep.waitedNanos).sum
  induction effects with
  | nil => rfl
  | cons e effects ih =>
      rw [List.foldr_cons, ih]
      cases e with
      | sequences _ => exact Nat.zero_add _
      | legacy step => cases step <;> rfl

/-- What it is for a performance `q` to replay what `p` replayed once more, and then the gestures
    `accepted` since. -/
structure ReplayedAgain (p : Performance) (accepted : List Gesture) (q : Performance) : Prop where
  replayed_eq : q.replayed = p.replayed ++ accepted.map Gesture.legacyStep
  commands_grow : p.legacyCommands <+: q.legacyCommands
  commands_eq : accepted = [] → q.legacyCommands = p.legacyCommands
  waited_le : p.waitedNanos ≤ q.waitedNanos

/-- Further steps behind a replay bring further commands behind its commands, and no shorter
    wait. -/
theorem replayedAgain_of_replayed {p q : Performance} {accepted : List Gesture}
    (h : q.replayed = p.replayed ++ accepted.map Gesture.legacyStep) :
    p.ReplayedAgain accepted q where
  replayed_eq := h
  commands_grow := by
    rw [legacyCommands_eq, legacyCommands_eq, h, List.filterMap_append]
    exact List.prefix_append _ _
  commands_eq := by
    rintro rfl
    rw [legacyCommands_eq, legacyCommands_eq, h, List.map_nil, List.append_nil]
  waited_le := by
    rw [waitedNanos_eq, waitedNanos_eq, h, List.map_append, List.sum_append]
    exact Nat.le_add_right _ _

/-- What it is for a performance `q` to send what `p` sent once more: every timeline is sent at
    its place again, with further steps behind those that it had. -/
def SentAgain (p q : Performance) : Prop :=
  ∃ earlier later, p.effects = [.sequences earlier] ∧ q.effects = [.sequences later]
    ∧ ∀ (i : Nat) l, earlier[i]? = some l →
        ∃ m, later[i]? = some m ∧ m.device = l.device ∧ l.steps <+: m.steps

end Performance

theorem Replay.protocol_ne_synchronized (r : Replay) :
    (r.result.map fun _ => Protocol.legacy) ≠ .ok .synchronized := by
  cases r.result with
  | ok _ => exact fun h => nomatch h
  | error e => exact fun h => nomatch h

/-- A performance that reports the synchronized protocol has sent the timelines of the session
    and done nothing else. -/
theorem Decided.of_synchronized {advertised : Bool} {captured : Option Handles}
    {answers : Answers} {s : Session} {p : Performance}
    (hp : Decided advertised captured answers s p) (h : p.result = .ok .synchronized) :
    s.deferred = none ∧ p.effects = [.sequences s.timelines.lines] := by
  cases hp with
  | refused e _ => exact nomatch h
  | synchronized hdeferred _ _ => exact ⟨hdeferred, rfl⟩
  | failed e _ _ _ _ => exact nomatch h
  | unsupported e _ _ _ _ _ => exact nomatch h
  | fellBack e handles r _ _ _ _ _ _ => exact absurd h r.protocol_ne_synchronized
  | replayed handles r _ _ _ _ => exact absurd h r.protocol_ne_synchronized
  | noProtocol _ _ _ => exact nomatch h

/-! ## Two performances of a session -/

namespace Session

/-- A legacy performance after further calls replays the earlier one, and then the gestures that
    the calls were accepted as. -/
theorem replayedAgain_of_legacy (s : Session) (calls : List Call) {first second : Answers}
    (hfirst : (s.perform first).result = .ok .legacy)
    (hsecond : ((s.run calls).perform second).result = .ok .legacy) :
    (s.perform first).ReplayedAgain ((s.taken calls).map Prod.snd)
      ((s.run calls).perform second) := by
  obtain ⟨hrec, hearlier⟩ := (s.perform_decided first).of_legacy hfirst
  obtain ⟨-, hlater⟩ := ((s.run calls).perform_decided second).of_legacy hsecond
  refine Performance.replayedAgain_of_replayed ?_
  -- a session that was replayed records, so the composite list has all accepted gestures
  rw [hlater, hearlier, run_eq_receiveAll, receiveAll_composite _ _ hrec, List.map_append]
  rfl

/-- A synchronized performance after further calls sends the earlier timelines again. -/
theorem sentAgain_of_synchronized (o : Opening) (calls more : List Call) {first second : Answers}
    (hfirst : ((o.session.run calls).perform first).result = .ok .synchronized)
    (hsecond : ((o.session.run (calls ++ more)).perform second).result = .ok .synchronized) :
    ((o.session.run calls).perform first).SentAgain
      ((o.session.run (calls ++ more)).perform second) := by
  obtain ⟨hsound, hearlier⟩ := (perform_decided _ first).of_synchronized hfirst
  obtain ⟨hsound', hlater⟩ := (perform_decided _ second).of_synchronized hsecond
  have hgrows := growsInto_of_build (build_eq_ok_iff.mpr ⟨hsound, rfl⟩)
    (build_eq_ok_iff.mpr ⟨hsound', rfl⟩)
  exact ⟨_, _, hearlier, hlater, fun i l hl => hgrows.exists_timeline hl⟩

end Session

/-! ## Performances in between -/

/-- Whether a happening only reads the session: a build or a performance. -/
def Happening.isReading : Happening → Bool
  | build | perform _ => true
  | call _ | offer _ => false

namespace Scene

theorem happenAll_append (s : Scene) (hs ks : List Happening) :
    s.happenAll (hs ++ ks) = (s.happenAll hs).happenAll ks :=
  List.foldl_append

theorem outcomes_prefix_happenAll (s : Scene) (hs : List Happening) :
    s.outcomes <+: (s.happenAll hs).outcomes := by
  induction hs generalizing s with
  | nil => exact List.prefix_refl _
  | cons h hs ih =>
      refine List.IsPrefix.trans ?_ (ih (s.happen h))
      cases h with
      | build | perform _ => exact List.prefix_append _ _
      | call _ | offer _ => exact List.prefix_refl _

/-- A build or a performance leaves the session as it is, whether it fails or not. -/
theorem happen_session_of_isReading (s : Scene) {h : Happening} (hr : h.isReading = true) :
    (s.happen h).session = s.session := by
  cases h with
  | build | perform _ => rfl
  | call _ | offer _ => exact absurd hr Bool.false_ne_true

theorem happen_session_congr {s t : Scene} (h : s.session = t.session) (k : Happening) :
    (s.happen k).session = (t.happen k).session := by
  cases k with
  | call c => exact congrArg (Session.call · c) h
  | build | perform _ | offer _ => exact h

/-- Builds and performances can be left out of a run without a change to the session. -/
theorem happenAll_filter_session {s t : Scene} (h : s.session = t.session)
    (hs : List Happening) :
    (s.happenAll (hs.filter (!·.isReading))).session = (t.happenAll hs).session := by
  induction hs generalizing s t with
  | nil => exact h
  | cons k hs ih =>
      cases hk : k.isReading with
      | true =>
          rw [List.filter_cons_of_neg (by rw [hk]; exact Bool.false_ne_true)]
          exact ih (h.trans (t.happen_session_of_isReading hk).symm)
      | false =>
          rw [List.filter_cons_of_pos (by rw [hk]; rfl)]
          exact ih (happen_session_congr h k)

/-- What a session is after a performance and further happenings depends on the calls among them
    alone. -/
theorem happenAll_perform_session (s : Scene) (before between : List Happening)
    (answers : Answers) :
    (s.happenAll (before ++ .perform answers :: between)).session
      = (s.happenAll before).session.run (between.filterMap Happening.call?) := by
  rw [happenAll_append, happenAll_session]
  rfl

/-- Two performances in a run are two of its outcomes, the later one the last so far. -/
theorem outcomes_of_two_performances (s : Scene) (before between : List Happening)
    (first second : Answers) :
    ∃ others, (s.happenAll (before ++ .perform first :: (between ++ [.perform second]))).outcomes
      = (s.happenAll before).outcomes
          ++ .performed ((s.happenAll before).session.perform first)
            :: (others
              ++ [.performed ((s.happenAll (before ++ .perform first :: between)).session.perform
                    second)]) := by
  obtain ⟨others, hothers⟩ :=
    outcomes_prefix_happenAll ((s.happenAll before).happen (.perform first)) between
  have hscene : s.happenAll (before ++ .perform first :: between)
      = ((s.happenAll before).happen (.perform first)).happenAll between :=
    happenAll_append s before (.perform first :: between)
  refine ⟨others, ?_⟩
  rw [← List.cons_append, ← List.append_assoc, happenAll_append]
  show (s.happenAll _).outcomes ++ _ = _
  rw [hscene, ← hothers]
  simp only [happen, List.append_assoc, List.cons_append, List.nil_append]

/-- **Every performance starts over.**  Of two performances in a run, if both report the legacy
    protocol then the later one replays the earlier one and then the gestures accepted since; if
    both report the synchronized protocol then the later one sends the timelines of the earlier
    one with further steps behind.  Runs that differ in builds and performances only, failed ones
    among them, leave the session with the same histories and the same deferred error. -/
theorem performances_start_over (o : Opening) :
    (∀ before between first second,
      let earlier := ((opened o).happenAll before).session
      let later := ((opened o).happenAll (before ++ .perform first :: between)).session
      let accepted := (earlier.taken (between.filterMap Happening.call?)).map Prod.snd
      let p := earlier.perform first
      let q := later.perform second
      (∃ others,
          ((opened o).happenAll
              (before ++ .perform first :: (between ++ [.perform second]))).outcomes
            = ((opened o).happenAll before).outcomes
                ++ .performed p :: (others ++ [.performed q]))
        ∧ (p.result = .ok .legacy → q.result = .ok .legacy → p.ReplayedAgain accepted q)
        ∧ (p.result = .ok .synchronized → q.result = .ok .synchronized → p.SentAgain q))
      ∧ ∀ hs ks : List Happening, hs.filter (!·.isReading) = ks.filter (!·.isReading) →
          ((opened o).happenAll hs).session = ((opened o).happenAll ks).session := by
  constructor
  · intro before between first second earlier later accepted p q
    have hearlier : earlier = o.session.run (before.filterMap Happening.call?) :=
      happenAll_session (opened o) before
    have hlater : later = earlier.run (between.filterMap Happening.call?) :=
      happenAll_perform_session (opened o) before between first
    refine ⟨outcomes_of_two_performances (opened o) before between first second, ?_, ?_⟩
    · show (earlier.perform first).result = _ → (later.perform second).result = _ →
        (earlier.perform first).ReplayedAgain accepted (later.perform second)
      rw [hlater]
      exact earlier.replayedAgain_of_legacy _
    · show (earlier.perform first).result = _ → (later.perform second).result = _ →
        (earlier.perform first).SentAgain (later.perform second)
      rw [hlater, hearlier, ← Session.run_append]
      exact Session.sentAgain_of_synchronized o _ _
  · intro hs ks h
    have hleft := happenAll_filter_session (s := opened o) rfl hs
    have hright := happenAll_filter_session (s := opened o) rfl ks
    rw [← hleft, ← hright, h]

/-- A click and a pause, performed before and after a performance that fails on the endpoint and a
    key that is accepted. -/
theorem performances_start_over_key :
    let accepting : Answers := ⟨none, fun _ => none⟩
    let lost : Answers := ⟨some (.command "session deleted"), fun _ => none⟩
    let handles := Opening.onHandles ⟨true, true⟩
    let endpoint := Opening.onEndpoint ⟨true, none⟩
    let key : Happening := .call (.keyDown (.named .shift))
    let before : List Happening := [.call .click, .call (.pause (.ofMillis 5))]
    let between : List Happening := [.build, .perform lost, .offer ⟨false, none⟩, key]
    let again := before ++ .perform accepting :: between
    let replay := fun hs => ((opened handles).happenAll hs).session.perform accepting
    let send := fun hs => ((opened endpoint).happenAll hs).session.perform accepting
    ((replay before).result = .ok .legacy ∧ (replay again).result = .ok .legacy
        ∧ (send before).result = .ok .synchronized ∧ (send again).result = .ok .synchronized)
      ∧ (replay before).ReplayedAgain [.keyDown (.named .shift)] (replay again)
      ∧ (send before).SentAgain (send again)
      ∧ ((opened endpoint).happenAll again).session
          = ((opened endpoint).happenAll
              (before ++ [.offer ⟨false, none⟩, .build, key])).session := by
  intro accepting lost handles endpoint key before between again replay send
  obtain ⟨hreplays, -⟩ := performances_start_over handles
  obtain ⟨hsends, hreads⟩ := performances_start_over endpoint
  obtain ⟨-, hlegacy, -⟩ := hreplays before between accepting accepting
  obtain ⟨-, -, hsynchronized⟩ := hsends before between accepting accepting
  exact ⟨⟨rfl, rfl, rfl, rfl⟩, hlegacy rfl rfl, hsynchronized rfl rfl, hreads _ _ rfl⟩

end Scene

end GestureTimeline
