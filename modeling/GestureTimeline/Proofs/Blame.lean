import GestureTimeline.Proofs.Deferral

/-! # Who is to blame

    An error is a usage error or comes from performing.  Usage errors are met while a session is
    built, and kept; the ends of a performance that has got past the deferred error are all of
    the other sort.  So a performance fails with a usage error exactly where the build fails, and
    with the error of the build (`Session.perform_usage_iff`). -/

namespace GestureTimeline

/-! ## Mistakes are usage errors -/

theorem Attempt.Mistaken.isUsage {recording : Bool} {a : Attempt} {e : ActionError}
    (h : a.Mistaken recording e) : e.isUsage = true := by
  cases h with
  | noModifier _ _ _ => rfl
  | codePoints _ _ _ => rfl
  | conflict _ _ _ => rfl

theorem Session.exists_mistaken_of_deferred {o : Opening} {calls : List Call} {e : ActionError}
    (h : (o.session.run calls).deferred = some e) :
    ∃ a : Attempt, a.Mistaken o.session.isRecording e := by
  rw [run_deferred, o.session_deferred, Option.none_or, Attempt.findSome?_fault?_eq_some_iff] at h
  obtain ⟨_, a, _, -, -, hmistaken⟩ := h
  exact ⟨a, hmistaken⟩

/-- What a session has deferred is a usage error. -/
theorem Session.isUsage_of_deferred {o : Opening} {calls : List Call} {e : ActionError}
    (h : (o.session.run calls).deferred = some e) : e.isUsage = true := by
  obtain ⟨_, hmistaken⟩ := exists_mistaken_of_deferred h
  exact hmistaken.isUsage

/-! ## Failures of performing are not -/

theorem Gesture.Fails.isUsage {handles : Handles} {answer : Nat → Option TargetError}
    {made : Nat} {g : Gesture} {e : ActionError} (h : g.Fails handles answer made e) :
    e.isUsage = false := by
  cases h with
  | noMouse _ _ _ => rfl
  | noKeyboard _ _ _ => rfl
  | answered _ _ _ _ _ => rfl

theorem Replay.OnePass.isUsage_of_error {handles : Handles} {answer : Nat → Option TargetError}
    {gs : List Gesture} {r : Replay} {e : ActionError} (hpass : OnePass handles answer gs r)
    (h : (r.result.map fun _ => Protocol.legacy) = .error e) : e.isUsage = false := by
  cases hpass with
  | whole _ => cases h
  | stopped before g after f _ _ hfails =>
      obtain rfl : f = e := Except.error.inj h
      exact (Gesture.failure?_eq_some_iff.mp hfails).isUsage

/-- A performance that fails has met the deferred error, or fails with no usage error. -/
theorem Decided.deferred_or_not_isUsage {advertised : Bool} {captured : Option Handles}
    {answers : Answers} {s : Session} {p : Performance} {e : ActionError}
    (hdecided : Decided advertised captured answers s p) (h : p.result = .error e) :
    s.deferred = some e ∨ s.deferred = none ∧ e.isUsage = false := by
  cases hdecided with
  | refused f hdeferred =>
      obtain rfl : f = e := Except.error.inj h
      exact Or.inl hdeferred
  | synchronized _ _ _ => cases h
  | failed t hdeferred _ _ _ =>
      obtain rfl : ActionError.target t = e := Except.error.inj h
      exact Or.inr ⟨hdeferred, rfl⟩
  | unsupported t hdeferred _ _ _ _ =>
      obtain rfl : ActionError.target t = e := Except.error.inj h
      exact Or.inr ⟨hdeferred, rfl⟩
  | fellBack t handles r hdeferred _ _ _ _ hreplay =>
      exact Or.inr ⟨hdeferred, hreplay.isUsage_of_error h⟩
  | replayed handles r hdeferred _ _ hreplay =>
      exact Or.inr ⟨hdeferred, hreplay.isUsage_of_error h⟩
  | noProtocol hdeferred _ _ =>
      obtain rfl : ActionError.noProtocol .bothProtocols = e := Except.error.inj h
      exact Or.inr ⟨hdeferred, rfl⟩

/-- Whatever is missing and whatever is answered, no plan is performed into a usage error. -/
theorem Plan.isUsage_of_perform {plan : Plan} {route : Route} {answers : Answers}
    {e : ActionError} (h : (plan.perform route answers).result = .error e) :
    e.isUsage = false := by
  obtain ⟨s, hdeferred, -, hdecided⟩ := plan.exists_decided route answers
  rcases hdecided.deferred_or_not_isUsage h with hsome | ⟨-, hother⟩
  · rw [hdeferred] at hsome
    exact nomatch hsome
  · exact hother

/-! ## Performing against building -/

namespace Session

/-- However the endpoint answers, performing fails with a usage error where building fails, and
    then with the error of the build. -/
theorem perform_usage_iff (o : Opening) (calls : List Call) (answers : Answers)
    (e : ActionError) :
    ((o.session.run calls).perform answers).result = .error e ∧ e.isUsage = true
      ↔ (o.session.run calls).build = .error e := by
  rw [build_eq_error_iff]
  constructor
  · rintro ⟨hresult, husage⟩
    rcases (perform_decided _ answers).deferred_or_not_isUsage hresult with
      hdeferred | ⟨-, hother⟩
    · exact hdeferred
    · exact absurd (husage.symm.trans hother) (by decide)
  · intro hdeferred
    refine ⟨?_, isUsage_of_deferred hdeferred⟩
    rw [perform_of_deferred hdeferred]
    rfl

/-- A device that is named twice is never what a session has deferred: a raw tick that does so is
    refused at once, and the ticks of gestures have one action each. -/
theorem deferred_ne_duplicateDevice (o : Opening) (calls : List Call)
    (batch : List DeviceAction) :
    (o.session.run calls).deferred ≠ some (.duplicateDevice batch) := by
  intro h
  obtain ⟨_, hmistaken⟩ := exists_mistaken_of_deferred h
  exact Attempt.not_mistaken_duplicateDevice hmistaken

/-- What it is for a session to put the blame right.  Only mistakes of the caller are deferred;
    and however a performance is answered, it blames the caller exactly where the build fails,
    and for what the build fails with. -/
structure BlamesRightly (s : Session) : Prop where
  deferred_isUsage : ∀ e, s.deferred = some e → e.isUsage = true
  deferred_ne_duplicate : ∀ batch, s.deferred ≠ some (.duplicateDevice batch)
  isUsage_iff : ∀ answers e, (s.perform answers).result = .error e →
    (e.isUsage = true ↔ ∃ f, s.build = .error f)
  perform_of_build : ∀ answers f, s.build = .error f → s.perform answers = ⟨[], .error f⟩
  dispatch_not_isUsage : ∀ plan, s.build = .ok plan → ∀ route answers e,
    (plan.perform route answers).result = .error e → e.isUsage = false

end Session

/-- **Blame is exact.** -/
theorem Scene.blame_is_exact (o : Opening) (hs : List Happening) :
    ((opened o).happenAll hs).session.BlamesRightly := by
  rw [happenAll_session]
  refine ⟨fun e => Session.isUsage_of_deferred, Session.deferred_ne_duplicateDevice o _, ?_, ?_,
    fun plan _ route answers e => Plan.isUsage_of_perform⟩
  · intro answers e hresult
    constructor
    · intro husage
      exact ⟨e, (Session.perform_usage_iff o _ answers e).mp ⟨hresult, husage⟩⟩
    · rintro ⟨f, hbuild⟩
      -- a performance has one result, so its error is that of the build
      obtain ⟨hf, husage⟩ := (Session.perform_usage_iff o _ answers f).mpr hbuild
      obtain rfl := Except.error.inj (hresult.symm.trans hf)
      exact husage
  · intro answers f hbuild
    exact Session.perform_of_deferred (Session.build_eq_error_iff.mp hbuild) answers

/-- A letter that a lone mouse cannot hold is the caller's mistake; the keyboard that is missing
    for what it can hold is not. -/
example :
    let s := (Opening.onHandles ⟨false, true⟩).session
    let answers : Answers := ⟨none, fun _ => none⟩
    (s.call (.keyDown (.text "x"))).perform answers = ⟨[], .error (.invalidModifier (.text "x"))⟩
      ∧ ((s.call (.keyDown (.named .shift))).perform answers).result
        = .error (.noProtocol .keyboardHandle) :=
  ⟨rfl, rfl⟩

end GestureTimeline
