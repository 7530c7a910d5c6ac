import GestureTimeline.Proofs.HeldKeys
import GestureTimeline.Proofs.Typing
import Mathlib.Algebra.GroupWithZero.Nat

/-! # The size of a script

    How many ticks a step of a script takes, and how many gestures it records, can be told from
    the step alone, but for a key that is held: it counts only if it may be held, and that
    depends on whether the session records.  Whatever a session holds already, a script adds the
    sum over its steps to both histories. -/

namespace GestureTimeline

namespace KeyInput

variable {recording : Bool} {key : KeyInput}

theorem fault?_eq_none_iff_holdable :
    Attempt.fault? recording (.key key) = none ↔ key.Holdable recording :=
  Attempt.fault?_eq_none_iff.trans Attempt.holdable_iff.symm

/-- Which keys may be held is read off their faults. -/
instance decidableHoldable (recording : Bool) (key : KeyInput) :
    Decidable (key.Holdable recording) :=
  decidable_of_iff _ fault?_eq_none_iff_holdable

theorem Holdable.length_codePoints (h : key.Holdable recording) : key.codePoints.length = 1 := by
  obtain ⟨c, hc⟩ := h.exists_codePoint
  rw [hc]
  rfl

end KeyInput

/-! ## The size of a gesture -/

/-- The ticks that a gesture takes. -/
def Gesture.tickCount : Gesture → Nat
  | click | contextClick => 2
  | clickAndHold | release | moveToElement .. | moveByOffset .. | pause _ => 1
  | keyDown key | keyUp key => key.codePoints.length
  | sendKeys keys => 2 * (KeyInput.typed keys).length

namespace Session

theorem length_expand (s : Session) (g : Gesture) : (s.expand g).length = g.tickCount := by
  cases g with
  | keyDown key | keyUp key => exact List.length_map _
  | sendKeys keys => exact s.keyboard.length_strokes (KeyInput.typed keys)
  | _ => rfl

theorem length_expandAll (s : Session) (gs : List Gesture) :
    (s.expandAll gs).length = (gs.map Gesture.tickCount).sum := by
  induction gs with
  | nil => rfl
  | cons g gs ih =>
      show (s.expand g ++ s.expandAll gs).length = _
      rw [List.length_append, length_expand, ih, List.map_cons, List.sum_cons]

/-- Gestures without fault take their ticks, and are recorded. -/
theorem counts_emitAll {o : Opening} {calls : List Call} {s : Session} {gs : List Gesture}
    (hs : s = o.session.run calls) (hsound : ∀ g ∈ gs, g.fault? s.isRecording = none) :
    (s.emitAll gs).timelines.ticks = s.timelines.ticks + (gs.map Gesture.tickCount).sum
      ∧ (s.emitAll gs).composite = if s.isRecording then s.composite ++ gs else s.composite := by
  rw [emitAll_of_sound s gs hsound, receiveAll_gestures]
  refine ⟨?_, rfl⟩
  show (s.timelines.advanceEach _).ticks = _
  rw [← length_expandAll, hs, advanceEach_of_run]
  rfl

end Session

/-! ## The size of a step -/

namespace Step

/-- What it adds that a step is done on an element. -/
def onto (n : Nat) (on : Option ElementRef) : Nat := if on.isSome then n else 0

/-- The ticks that a step takes in a session that records or does not. -/
def tickCount (recording : Bool) : Step → Nat
  | click on | contextClick on => 2 + onto 1 on
  | doubleClick on => 4 + onto 1 on
  | clickAndHold on | release on => 1 + onto 1 on
  | moveToElement .. | moveByOffset .. | pause _ => 1
  | dragAndDrop .. | dragAndDropBy .. => 4
  | sendKeys keys into => 2 * (KeyInput.typed keys).length + onto 3 into
  | keyDown value on | keyUp value on => if value.Holdable recording then 1 + onto 3 on else 0

/-- The gestures that a step records where they are recorded. -/
def gestureCount (recording : Bool) : Step → Nat
  | click on | contextClick on | clickAndHold on | release on => 1 + onto 1 on
  | doubleClick on => 2 + onto 1 on
  | moveToElement .. | moveByOffset .. | pause _ => 1
  | dragAndDrop .. | dragAndDropBy .. => 4
  | sendKeys _ into => 1 + onto 2 into
  | keyDown value on | keyUp value on => if value.Holdable recording then 1 + onto 2 on else 0

/-- A step is without fault unless it holds a key that may not be held. -/
theorem findSome?_fault?_asCall (recording : Bool) (p : Policy) (st : Step) :
    ((st.asCall p).gestures p).findSome? (Gesture.fault? recording)
      = st.attempts.findSome? (Attempt.fault? recording) := by
  rw [Call.findSome?_fault?_gestures recording (Session.asCall_gestures_ne_nil p st),
    Call.attempts_asCall]

variable {recording : Bool} {key : KeyInput} {st : Step} {e : ActionError}

theorem holdable_of_sound (h : [Attempt.key key].findSome? (Attempt.fault? recording) = none) :
    key.Holdable recording := by
  rw [List.findSome?_singleton] at h
  exact KeyInput.fault?_eq_none_iff_holdable.mp h

theorem not_holdable_of_fault
    (h : [Attempt.key key].findSome? (Attempt.fault? recording) = some e) :
    ¬ key.Holdable recording := by
  intro hholdable
  rw [List.findSome?_singleton, KeyInput.fault?_eq_none_iff_holdable.mpr hholdable] at h
  cases h

/-- The gestures of a step without fault have the size that the step is to have. -/
theorem counts_asCall (p : Policy)
    (hsound : st.attempts.findSome? (Attempt.fault? recording) = none) :
    (((st.asCall p).gestures p).map Gesture.tickCount).sum = st.tickCount recording
      ∧ ((st.asCall p).gestures p).length = st.gestureCount recording := by
  cases st with
  | click on | doubleClick on | contextClick on | clickAndHold on | release on =>
      cases on <;> exact ⟨rfl, rfl⟩
  | moveToElement element x y => cases x <;> cases y <;> exact ⟨rfl, rfl⟩
  | moveByOffset _ _ | dragAndDrop _ _ | dragAndDropBy _ _ _ | pause _ => exact ⟨rfl, rfl⟩
  | sendKeys keys into =>
      cases into with
      | none => exact ⟨rfl, rfl⟩
      | some target =>
          refine ⟨?_, rfl⟩
          show 1 + (2 + (2 * (KeyInput.typed keys).length + 0)) = _ + 3
          omega
  | keyDown key on | keyUp key on =>
      have hholdable := holdable_of_sound hsound
      have hlength := hholdable.length_codePoints
      rw [tickCount, gestureCount, if_pos hholdable, if_pos hholdable]
      cases on with
      | none =>
          refine ⟨?_, rfl⟩
          show key.codePoints.length + 0 = 1
          omega
      | some target =>
          refine ⟨?_, rfl⟩
          show 1 + (2 + (key.codePoints.length + 0)) = 4
          omega

/-- A step at fault is to have no size. -/
theorem counts_of_fault (hfault : st.attempts.findSome? (Attempt.fault? recording) = some e) :
    st.tickCount recording = 0 ∧ st.gestureCount recording = 0 := by
  cases st with
  | keyDown key on | keyUp key on =>
      have hnot := not_holdable_of_fault hfault
      exact ⟨if_neg hnot, if_neg hnot⟩
  | _ => cases hfault

end Step

/-! ## The size of a script -/

namespace Session

/-- What a script is to add to the counts of a session. -/
structure CountsScript (s : Session) (steps : List Step) (t : Session) : Prop where
  ticks_eq : t.timelines.ticks
    = s.timelines.ticks + (steps.map (Step.tickCount s.isRecording)).sum
  composite_eq : t.composite.length
    = s.composite.length
      + if s.isRecording then (steps.map (Step.gestureCount s.isRecording)).sum else 0

/-- One step adds its size. -/
theorem countsScript_step (o : Opening) (calls : List Call) (st : Step) :
    (o.session.run calls).CountsScript [st] (st.apply (o.session.run calls)) := by
  generalize hs : o.session.run calls = s
  have hgestures := asCall_gestures_ne_nil s.policy st
  have hfind := Step.findSome?_fault?_asCall s.isRecording s.policy st
  rw [apply_eq_call]
  cases h : st.attempts.findSome? (Attempt.fault? s.isRecording) with
  | none =>
      obtain ⟨hticks, hlength⟩ := Step.counts_asCall s.policy h
      have hsound := hfind.trans h
      obtain ⟨ht, hc⟩ := counts_emitAll hs.symm (List.findSome?_eq_none_iff.mp hsound)
      rw [call_of_sound hgestures hsound]
      constructor
      · rw [ht, hticks, List.map_singleton, List.sum_singleton]
      · rw [hc, List.map_singleton, List.sum_singleton, ← hlength]
        cases s.isRecording with
        | true => exact List.length_append
        | false => rfl
  | some e =>
      obtain ⟨hticks, hlength⟩ := Step.counts_of_fault h
      rw [call_of_fault hgestures (hfind.trans h)]
      constructor
      · rw [List.map_singleton, List.sum_singleton, hticks]
        rfl
      · rw [List.map_singleton, List.sum_singleton, hlength, ite_self]
        rfl

theorem CountsScript.append {s t u : Session} {first second : List Step}
    (hfirst : s.CountsScript first t) (hsecond : t.CountsScript second u)
    (hrecording : t.isRecording = s.isRecording) : s.CountsScript (first ++ second) u := by
  constructor
  · rw [hsecond.ticks_eq, hfirst.ticks_eq, hrecording, List.map_append, List.sum_append,
      Nat.add_assoc]
  · rw [hsecond.composite_eq, hfirst.composite_eq, hrecording, List.map_append, List.sum_append,
      Nat.add_assoc]
    cases s.isRecording with
    | true => rfl
    | false => rfl

/-- Steps in order add their sizes. -/
theorem countsScript_steps (o : Opening) (calls : List Call) (steps : List Step) :
    (o.session.run calls).CountsScript steps (steps.foldl Step.apply (o.session.run calls)) := by
  induction steps generalizing calls with
  | nil =>
      constructor
      · rfl
      · rw [List.map_nil, List.sum_nil, ite_self]
        rfl
  | cons st steps ih =>
      -- the session after the first step is that of a run with one more call
      have hrun : st.apply (o.session.run calls)
          = o.session.run (calls ++ [st.asCall (o.session.run calls).policy]) := by
        rw [apply_eq_call, run_append]
        rfl
      have hrest := ih (calls ++ [st.asCall (o.session.run calls).policy])
      rw [← hrun] at hrest
      refine (countsScript_step o calls st).append hrest ?_
      rw [apply_eq_call, call_isRecording]

end Session

/-- **The size of a script is the sum of the sizes of its steps.** -/
theorem Scene.script_size_is_sum (o : Opening) (hs : List Happening) (script : Script) :
    ((opened o).happenAll hs).session.CountsScript script.steps
      (script.apply ((opened o).happenAll hs).session) := by
  rw [happenAll_session]
  exact Session.countsScript_steps o _ script.steps

/-- A letter may be held where nothing is recorded only. -/
example :
    let steps : List Step := [.doubleClick (some ⟨"row"⟩), .keyDown (.text "x") (some ⟨"field"⟩),
      .sendKeys [.text "ab", .named .enter] none]
    (steps.map (Step.tickCount false)).sum = 15 ∧ (steps.map (Step.tickCount true)).sum = 11 := by
  decide

end GestureTimeline
