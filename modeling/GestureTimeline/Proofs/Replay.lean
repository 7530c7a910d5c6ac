import GestureTimeline.Legacy
import Mathlib.Algebra.GroupWithZero.Nat
import Mathlib.Data.List.Forall2

/-! # Legacy replays

    A replay goes through the gestures once.  It makes the step of each in order, up to the
    first gesture that fails, and nothing after that (`OnePass`).  What the remote end answers
    is counted in commands: pauses take no answer.

    Told by positions, a replay stops at some gesture, or at the end of the list.  All gestures
    before that have gone through, and the last command made is that of the gesture itself if
    it was answered with a failure, and one before it if its handle is missing
    (`Replay.StopsAt`). -/

namespace GestureTimeline

variable {handles : Handles} {answer : Nat → Option TargetError}

namespace LegacyStep

/-- The command that a step makes, if it makes one. -/
def command? : LegacyStep → Option LegacyCommand
  | command c => some c
  | wait _ => none

/-- The nanoseconds that a step waits. -/
def waitedNanos : LegacyStep → Nat
  | command _ => 0
  | wait d => d.nanos

end LegacyStep

namespace Gesture

/-- Whether the replay of a gesture takes an answer of the remote end. -/
def isCommand (g : Gesture) : Bool :=
  match g.legacyStep with
  | .command _ => true
  | .wait _ => false

/-- The commands that the replay of gestures makes. -/
def commandCount (gs : List Gesture) : Nat := gs.countP isCommand

/-- Why the replay of a gesture fails when `made` commands came before it, if it does: its
    handle is missing, or the remote end answers its command with a failure. -/
def failure? (handles : Handles) (answer : Nat → Option TargetError) (made : Nat)
    (g : Gesture) : Option ActionError :=
  match g.legacyStep with
  | .wait _ => none
  | .command c =>
      match c.missing? handles with
      | some missing => some (.noProtocol missing)
      | none => (answer made).map .target

/-- What is done for a gesture whose replay fails: its command, unless the handle is missing. -/
def attempt (handles : Handles) (g : Gesture) : List LegacyStep :=
  match g.legacyStep with
  | .wait d => [.wait d]
  | .command c => if (c.missing? handles).isSome then [] else [.command c]

/-- Every gesture can be replayed, each after the commands of those before it. -/
def NoneFails (handles : Handles) (answer : Nat → Option TargetError) (gs : List Gesture) : Prop :=
  ∀ before g after, gs = before ++ g :: after →
    g.failure? handles answer (commandCount before) = none

/-- The step that replays a gesture: a wait for a pause, and for every other gesture one command of
    the mouse or of the keyboard. -/
inductive ReplayedBy : Gesture → LegacyStep → Prop where
  | click : ReplayedBy .click (.command (.mouse .click))
  | contextClick : ReplayedBy .contextClick (.command (.mouse .contextClick))
  | clickAndHold : ReplayedBy .clickAndHold (.command (.mouse .down))
  | release : ReplayedBy .release (.command (.mouse .up))
  | moveToElement (target : ElementRef) (x y : Int32) :
      ReplayedBy (.moveToElement target x y) (.command (.mouse (.move (some target) x y)))
  | moveByOffset (x y : Int32) :
      ReplayedBy (.moveByOffset x y) (.command (.mouse (.move none x y)))
  | keyDown (key : KeyInput) : ReplayedBy (.keyDown key) (.command (.keyboard (.press key)))
  | keyUp (key : KeyInput) : ReplayedBy (.keyUp key) (.command (.keyboard (.release key)))
  | sendKeys (keys : List KeyInput) :
      ReplayedBy (.sendKeys keys) (.command (.keyboard (.sendKeys keys)))
  | pause (d : Span) : ReplayedBy (.pause d) (.wait d)

/-- The nanoseconds that a gesture pauses. -/
def pausedNanos : Gesture → Nat
  | pause d => d.nanos
  | _ => 0

/-- The ways in which the replay of a gesture fails when `made` commands came before it. -/
inductive Fails (handles : Handles) (answer : Nat → Option TargetError) (made : Nat)
    (g : Gesture) : ActionError → Prop where
  | noMouse (c : MouseCommand) (hreplay : g.ReplayedBy (.command (.mouse c)))
      (hmouse : handles.mouse = false) : Fails handles answer made g (.noProtocol .mouseHandle)
  | noKeyboard (c : KeyboardCommand) (hreplay : g.ReplayedBy (.command (.keyboard c)))
      (hkeyboard : handles.keyboard = false) :
      Fails handles answer made g (.noProtocol .keyboardHandle)
  /-- The command is made, and answered with a failure. -/
  | answered (c : LegacyCommand) (e : TargetError) (hreplay : g.ReplayedBy (.command c))
      (hhandle : c.missing? handles = none) (hanswer : answer made = some e) :
      Fails handles answer made g (.target e)

theorem replayedBy_iff {g : Gesture} {step : LegacyStep} :
    g.ReplayedBy step ↔ g.legacyStep = step := by
  constructor
  · intro h
    cases h <;> rfl
  · rintro rfl
    cases g <;> constructor

/-- Waits are those of the pauses. -/
theorem waitedNanos_legacyStep (g : Gesture) : g.legacyStep.waitedNanos = g.pausedNanos := by
  cases g <;> rfl

theorem fails_of_failure? {made : Nat} {g : Gesture} {e : ActionError}
    (h : g.failure? handles answer made = some e) : g.Fails handles answer made e := by
  rw [failure?] at h
  cases hstep : g.legacyStep with
  | wait d =>
      simp only [hstep, reduceCtorEq] at h
  | command c =>
      have hreplay := replayedBy_iff.mpr hstep
      simp only [hstep] at h
      -- the handle is missing, or the remote end has answered with a failure
      cases hmissing : c.missing? handles with
      | none =>
          simp only [hmissing] at h
          obtain ⟨t, ht, rfl⟩ := Option.map_eq_some_iff.mp h
          exact .answered c t hreplay hmissing ht
      | some m =>
          simp only [hmissing, Option.some.injEq] at h
          subst h
          cases c with
          | mouse c =>
              rw [LegacyCommand.missing?, Option.ite_none_left_eq_some] at hmissing
              obtain ⟨hmouse, hm⟩ := hmissing
              obtain rfl := Option.some.inj hm
              exact .noMouse c hreplay (Bool.eq_false_iff.mpr hmouse)
          | keyboard c =>
              rw [LegacyCommand.missing?, Option.ite_none_left_eq_some] at hmissing
              obtain ⟨hkeyboard, hm⟩ := hmissing
              obtain rfl := Option.some.inj hm
              exact .noKeyboard c hreplay (Bool.eq_false_iff.mpr hkeyboard)

theorem failure?_eq_some_iff {made : Nat} {g : Gesture} {e : ActionError} :
    g.failure? handles answer made = some e ↔ g.Fails handles answer made e := by
  refine ⟨fails_of_failure?, fun h => ?_⟩
  rw [failure?]
  cases h with
  | noMouse c hreplay hmouse =>
      simp only [replayedBy_iff.mp hreplay, LegacyCommand.missing?, hmouse, Bool.false_eq_true,
        if_false]
  | noKeyboard c hreplay hkeyboard =>
      simp only [replayedBy_iff.mp hreplay, LegacyCommand.missing?, hkeyboard,
        Bool.false_eq_true, if_false]
  | answered c t hreplay hhandle hanswer =>
      simp only [replayedBy_iff.mp hreplay, hhandle, hanswer, Option.map_some]

theorem failure?_eq_none_iff {made : Nat} {g : Gesture} :
    g.failure? handles answer made = none ↔ ∀ e, ¬ g.Fails handles answer made e := by
  rw [Option.eq_none_iff_forall_ne_some]
  exact forall_congr' fun e => not_congr failure?_eq_some_iff

/-- The command is made unless its handle is missing. -/
theorem attempt_of_fails {made : Nat} {g : Gesture} {e : ActionError}
    (h : g.Fails handles answer made e) :
    g.attempt handles = match e with
      | .target _ => [g.legacyStep]
      | _ => [] := by
  rw [attempt]
  cases h with
  | noMouse c hreplay hmouse =>
      simp [replayedBy_iff.mp hreplay, LegacyCommand.missing?, hmouse]
  | noKeyboard c hreplay hkeyboard =>
      simp [replayedBy_iff.mp hreplay, LegacyCommand.missing?, hkeyboard]
  | answered c t hreplay hhandle _ =>
      simp [replayedBy_iff.mp hreplay, hhandle]

/-- Told by positions, no gesture fails after the commands of those before it. -/
theorem NoneFails.not_fails_of_getElem? {gs : List Gesture} (h : NoneFails handles answer gs)
    {i : Nat} {g : Gesture} (hg : gs[i]? = some g) (e : ActionError) :
    ¬ g.Fails handles answer (commandCount (gs.take i)) e := by
  obtain ⟨hlt, hget⟩ := List.getElem?_eq_some_iff.mp hg
  refine failure?_eq_none_iff.mp (h (gs.take i) g (gs.drop (i + 1)) ?_) e
  rw [← hget, List.getElem_cons_drop, List.take_append_drop]

theorem commandCount_cons (g : Gesture) (gs : List Gesture) :
    commandCount (g :: gs) = commandCount gs + commandCount [g] := by
  rw [commandCount, List.countP_cons, commandCount, commandCount, List.countP_singleton]

/-- The commands of a first gesture take the first answers. -/
theorem noneFails_cons {g : Gesture} {gs : List Gesture} (hg : g.failure? handles answer 0 = none)
    (hgs : NoneFails handles (fun n => answer (n + commandCount [g])) gs) :
    NoneFails handles answer (g :: gs) := by
  intro before k after hsplit
  -- the gesture in question is the first one, or comes after its commands
  cases before with
  | nil =>
      obtain ⟨rfl, -⟩ := List.cons.inj hsplit
      exact hg
  | cons b before =>
      obtain ⟨rfl, hrest⟩ := List.cons.inj hsplit
      rw [commandCount_cons]
      exact hgs before k after hrest

end Gesture

open Gesture

/-- What one pass over gestures does, and how it ends. -/
inductive Replay.OnePass (handles : Handles) (answer : Nat → Option TargetError)
    (gs : List Gesture) : Replay → Prop where
  /-- No gesture fails, and the step of each is made. -/
  | whole (h : NoneFails handles answer gs) :
      OnePass handles answer gs ⟨gs.map Gesture.legacyStep, .ok ()⟩
  /-- A gesture fails, and the pass ends there with its failure. -/
  | stopped (before : List Gesture) (g : Gesture) (after : List Gesture) (e : ActionError)
      (hsplit : gs = before ++ g :: after) (hbefore : NoneFails handles answer before)
      (hfails : g.failure? handles answer (commandCount before) = some e) :
      OnePass handles answer gs
        ⟨before.map Gesture.legacyStep ++ g.attempt handles, .error e⟩

namespace Replay

/-- A gesture that can be replayed comes before the pass over the others. -/
theorem OnePass.cons {g : Gesture} {gs : List Gesture} {r : Replay}
    (hg : g.failure? handles answer 0 = none)
    (h : OnePass handles (fun n => answer (n + commandCount [g])) gs r) :
    OnePass handles answer (g :: gs) (r.after g.legacyStep) := by
  cases h with
  | whole hnone => exact .whole (noneFails_cons hg hnone)
  | stopped before k after e hsplit hbefore hfails =>
      refine .stopped (g :: before) k after e ?_ (noneFails_cons hg hbefore) ?_
      · rw [hsplit, List.cons_append]
      · rw [commandCount_cons]
        exact hfails

/-- A first gesture that fails ends the pass. -/
theorem OnePass.head_fails {g : Gesture} (gs : List Gesture) {e : ActionError}
    (hg : g.failure? handles answer 0 = some e) :
    OnePass handles answer (g :: gs) ⟨g.attempt handles, .error e⟩ :=
  .stopped [] g gs e rfl (fun before k after h => absurd h (by simp)) hg

/-- A replay makes the step of its first gesture and goes on, unless that gesture fails. -/
theorem replayFrom_cons (handles : Handles) (answer : Nat → Option TargetError) (made : Nat)
    (g : Gesture) (gs : List Gesture) :
    replayFrom handles answer made (g :: gs)
      = match g.failure? handles answer made with
        | some e => ⟨g.attempt handles, .error e⟩
        | none => (replayFrom handles answer (made + commandCount [g]) gs).after g.legacyStep := by
  cases hstep : g.legacyStep with
  | wait d => simp [replayFrom, failure?, commandCount, isCommand, hstep]
  | command c =>
      cases hmissing : c.missing? handles with
      | some missing => simp [replayFrom, failure?, attempt, hstep, hmissing]
      | none =>
          cases hanswer : answer made <;>
            simp [replayFrom, failure?, attempt, commandCount, isCommand, hstep, hmissing, hanswer]

/-- The pass that goes on after `made` commands takes the answers from there on. -/
theorem onePass_replayFrom (handles : Handles) (answer : Nat → Option TargetError) (made : Nat)
    (gs : List Gesture) :
    OnePass handles (fun n => answer (n + made)) gs (replayFrom handles answer made gs) := by
  induction gs generalizing made with
  | nil => exact .whole fun before g after h => absurd h (by simp)
  | cons g gs ih =>
      -- the failure of the first gesture is the one after no command of this pass
      have hfirst : g.failure? handles (fun n => answer (n + made)) 0
          = g.failure? handles answer made := by
        rw [failure?, failure?, Nat.zero_add]
      rw [replayFrom_cons]
      cases hfails : g.failure? handles answer made with
      | some e => exact .head_fails gs (hfirst.trans hfails)
      | none =>
          refine .cons (hfirst.trans hfails) ?_
          have hanswers : (fun n => answer (n + (made + commandCount [g])))
              = fun n => answer (n + commandCount [g] + made) := by
            funext n
            rw [Nat.add_assoc, Nat.add_comm made]
          exact hanswers ▸ ih (made + commandCount [g])

/-- **A replay is one pass over its gestures.** -/
theorem onePass_replay (handles : Handles) (answer : Nat → Option TargetError)
    (gs : List Gesture) : OnePass handles answer gs (replay handles answer gs) :=
  onePass_replayFrom handles answer 0 gs

/-! ## Where a replay stops -/

/-- The nanoseconds that a replay waits. -/
def waitedNanos (r : Replay) : Nat := (r.steps.map LegacyStep.waitedNanos).sum

/-- How many gestures a replay reached when `n` of them went through: the next one as well, if it
    was answered with a failure. -/
def reach (r : Replay) (n : Nat) : Nat :=
  match r.result with
  | .error (.target _) => n + 1
  | _ => n

/-- What it is for a replay to stop when `n` gestures have gone through. -/
structure StopsAt (handles : Handles) (answer : Nat → Option TargetError) (gs : List Gesture)
    (n : Nat) (r : Replay) : Prop where
  le_length : n ≤ gs.length
  goThrough : ∀ i < n, ∀ g, gs[i]? = some g →
    ∀ e, ¬ g.Fails handles answer (commandCount (gs.take i)) e
  ok_iff : r.result = .ok () ↔ n = gs.length
  error_iff : ∀ e, r.result = .error e
    ↔ ∃ g, gs[n]? = some g ∧ g.Fails handles answer (commandCount (gs.take n)) e
  replayed : List.Forall₂ Gesture.ReplayedBy (gs.take (r.reach n)) r.steps
  waited_eq : r.waitedNanos = ((gs.take n).map Gesture.pausedNanos).sum

theorem forall₂_replayedBy (gs : List Gesture) :
    List.Forall₂ Gesture.ReplayedBy gs (gs.map Gesture.legacyStep) :=
  List.forall₂_map_right_iff.mpr (List.forall₂_same.mpr fun _ _ => replayedBy_iff.mpr rfl)

theorem sum_waitedNanos_legacyStep (gs : List Gesture) :
    ((gs.map Gesture.legacyStep).map LegacyStep.waitedNanos).sum
      = (gs.map Gesture.pausedNanos).sum := by
  rw [List.map_map]
  exact congrArg List.sum (List.map_congr_left fun g _ => waitedNanos_legacyStep g)

/-- A gesture that fails is no pause, whether its command was made or not. -/
theorem sum_waitedNanos_attempt {made : Nat} {g : Gesture} {e : ActionError}
    (h : g.Fails handles answer made e) :
    ((g.attempt handles).map LegacyStep.waitedNanos).sum = 0 := by
  rw [attempt_of_fails h]
  cases h with
  | noMouse _ _ _ => rfl
  | noKeyboard _ _ _ => rfl
  | answered c t hreplay _ _ =>
      rw [replayedBy_iff.mp hreplay]
      rfl

/-- A pass that ends with a gesture has made the step of those before it, and of the gesture
    itself if it was answered with a failure. -/
theorem replayed_of_fails (before after : List Gesture) {g : Gesture} {made : Nat}
    {e : ActionError} (h : g.Fails handles answer made e) :
    let r : Replay := ⟨before.map Gesture.legacyStep ++ g.attempt handles, .error e⟩
    List.Forall₂ Gesture.ReplayedBy ((before ++ g :: after).take (r.reach before.length))
      r.steps := by
  have hbefore := forall₂_replayedBy before
  simp only [attempt_of_fails h]
  cases h with
  | noMouse _ _ _ | noKeyboard _ _ _ =>
      show List.Forall₂ _ ((before ++ g :: after).take before.length) _
      rw [List.take_left, List.append_nil]
      exact hbefore
  | answered _ _ _ _ _ =>
      show List.Forall₂ _ ((before ++ g :: after).take (before.length + 1)) _
      rw [List.take_length_add_append]
      exact List.rel_append hbefore (forall₂_replayedBy [g])

/-- One pass stops with its first gesture that fails. -/
theorem OnePass.exists_stopsAt {gs : List Gesture} {r : Replay}
    (h : OnePass handles answer gs r) : ∃ n, StopsAt handles answer gs n r := by
  cases h with
  | whole hnone =>
      refine ⟨gs.length, Nat.le_refl _, fun i _ g hg => hnone.not_fails_of_getElem? hg,
        ⟨fun _ => rfl, fun _ => rfl⟩, ?_, ?_, ?_⟩
      · -- there is no gesture behind the last
        intro e
        constructor
        · exact (nomatch ·)
        · rintro ⟨g, hg, -⟩
          rw [List.getElem?_eq_none (Nat.le_refl _)] at hg
          exact nomatch hg
      · show List.Forall₂ _ (gs.take gs.length) _
        rw [List.take_length]
        exact forall₂_replayedBy gs
      · rw [List.take_length]
        exact sum_waitedNanos_legacyStep gs
  | stopped before g after e hsplit hbefore hfails =>
      subst hsplit
      rw [failure?_eq_some_iff] at hfails
      have hget : (before ++ g :: after)[before.length]? = some g := by simp
      refine ⟨before.length, ?_, ?_, ?_, ?_, replayed_of_fails before after hfails, ?_⟩
      · rw [List.length_append]
        exact Nat.le_add_right _ _
      · intro i hi k hk
        rw [List.getElem?_append_left hi] at hk
        rw [List.take_append_of_le_length (Nat.le_of_lt hi)]
        exact hbefore.not_fails_of_getElem? hk
      · constructor
        · exact (nomatch ·)
        · intro hall
          rw [List.getElem?_eq_none (Nat.le_of_eq hall.symm)] at hget
          exact nomatch hget
      · intro f
        rw [List.take_left, hget]
        constructor
        · intro hf
          obtain rfl : e = f := Except.error.inj hf
          exact ⟨g, rfl, hfails⟩
        · rintro ⟨k, hk, hf⟩
          obtain rfl : g = k := Option.some.inj hk
          rw [← failure?_eq_some_iff] at hfails hf
          exact congrArg Except.error (Option.some.inj (hfails.symm.trans hf))
      · rw [List.take_left, waitedNanos, List.map_append, List.sum_append,
          sum_waitedNanos_attempt hfails, sum_waitedNanos_legacyStep]
        rfl

/-- **A replay runs a prefix of its gestures, in order and each once.**  The first gesture that
    fails ends it, and its failure is the result. -/
theorem replay_stopsAt (handles : Handles) (answer : Nat → Option TargetError)
    (gs : List Gesture) : ∃ n, StopsAt handles answer gs n (replay handles answer gs) :=
  (onePass_replay handles answer gs).exists_stopsAt

/-- Without a mouse, a replay ends before the first click. -/
example :
    let r := replay ⟨true, false⟩ (fun _ => none)
      [.pause (.ofMillis 40), .keyDown (.named .shift), .click, .keyUp (.named .shift)]
    r.steps = [.wait (.ofMillis 40), .command (.keyboard (.press (.named .shift)))]
      ∧ r.result.toOption = none ∧ r.waitedNanos = 40000000 := by
  decide

end Replay

end GestureTimeline
