import GestureTimeline.Proofs.Dispatch
import GestureTimeline.Proofs.Histories

/-! # The deferred error

    Two kinds of call can be a mistake that a session keeps: one that holds or lets go of a key,
    and a raw tick.  Which keys are mistakes depends on whether the session records, and a raw
    tick is one only while it does.  So the mistakes of a run can be read off its calls alone,
    without a look at the histories (`Attempt.Mistaken`).

    The main statement is that the deferred error is the first of them
    (`Scene.deferred_is_first_mistake`).  Its core is that the faults among the events of a call
    are those of its attempts, whatever other gestures the call makes around them. -/

namespace GestureTimeline

/-! ## Attempts -/

/-- Something in a call that may be a mistake. -/
inductive Attempt where
  /-- A key is held or let go of by itself. -/
  | key (key : KeyInput)
  /-- A raw tick is composed. -/
  | tick (batch : List DeviceAction)
  deriving DecidableEq, Inhabited

/-- The mistakes, in a session that records or does not. -/
inductive Attempt.Mistaken (recording : Bool) : Attempt → ActionError → Prop where
  /-- The legacy keyboard holds only the named modifiers. -/
  | noModifier (key : KeyInput) (hrecording : recording = true)
      (hkey : ∀ k, key = .named k → k.isModifier = false) :
      Mistaken recording (.key key) (.invalidModifier key)
  /-- Elsewhere a key is a single code point. -/
  | codePoints (key : KeyInput) (hrecording : recording = false)
      (hkey : key.codePoints.length ≠ 1) :
      Mistaken recording (.key key) (.multipleCodePoints key)
  /-- A raw tick that is taken has no place beside a composite list; an empty one has not
      either. -/
  | conflict (batch : List DeviceAction) (hrecording : recording = true)
      (htaken : (Timelines.batchIds batch).Nodup) :
      Mistaken recording (.tick batch) .conflictingProtocols

/-- What a gesture attempts. -/
def Gesture.attempts : Gesture → List Attempt
  | keyDown key | keyUp key => [.key key]
  | _ => []

/-- What a step of a script attempts. -/
def Step.attempts : Step → List Attempt
  | keyDown value _ | keyUp value _ => [.key value]
  | _ => []

/-- What a call attempts, in order; a script attempts what its steps do. -/
def Call.attempts : Call → List Attempt
  | keyDown key | keyUp key | keyDownOn _ key | keyUpOn _ key => [.key key]
  | gesture g => g.attempts
  | script s => s.steps.flatMap Step.attempts
  | tick batch => [.tick batch]
  | _ => []

/-- What is attempted in a scene. -/
def Happening.attempts (hs : List Happening) : List Attempt :=
  (hs.filterMap Happening.call?).flatMap Call.attempts

/-- An error is that of the earliest attempt that is a mistake. -/
def Attempt.FirstMistake (recording : Bool) (as : List Attempt) (e : ActionError) : Prop :=
  ∃ before a after, as = before ++ a :: after
    ∧ (∀ b ∈ before, ∀ other, ¬ b.Mistaken recording other) ∧ a.Mistaken recording e

/-! ## Keys that are at fault -/

namespace KeyInput

theorem modifier?_eq_none_iff {key : KeyInput} :
    key.modifier? = none ↔ ∀ k, key = .named k → k.isModifier = false := by
  cases key with
  | named k => simp [modifier?]
  | text content => simp [modifier?]

/-- A named modifier is a single code point. -/
theorem length_codePoints_of_modifier? {key : KeyInput} (h : key.modifier? ≠ none) :
    key.codePoints.length = 1 := by
  cases key with
  | named k => rfl
  | text content => exact absurd rfl h

end KeyInput

namespace Gesture

/-- While the session records, a key is at fault unless it is a named modifier. -/
theorem keyFault?_of_recording (key : KeyInput) :
    keyFault? true key = if key.modifier? = none then some (.invalidModifier key) else none := by
  by_cases hk : key.modifier? = none
  · simp [keyFault?, hk]
  · simp [keyFault?, hk, KeyInput.length_codePoints_of_modifier? hk]

/-- Elsewhere a key is at fault unless it is a single code point. -/
theorem keyFault?_of_not_recording (key : KeyInput) :
    keyFault? false key
      = if key.codePoints.length ≠ 1 then some (.multipleCodePoints key) else none := rfl

end Gesture

/-! ## Attempts that are faults -/

namespace Attempt

/-- The fault of an attempt, if it is one. -/
def fault? (recording : Bool) : Attempt → Option ActionError
  | key k => Gesture.keyFault? recording k
  | tick batch =>
      if recording && decide (Timelines.batchIds batch).Nodup then some .conflictingProtocols
      else none

theorem fault?_eq_some_iff {recording : Bool} {a : Attempt} {e : ActionError} :
    a.fault? recording = some e ↔ a.Mistaken recording e := by
  constructor
  · intro h
    cases a with
    | key k =>
        cases recording with
        | true =>
            rw [fault?, Gesture.keyFault?_of_recording, Option.ite_none_right_eq_some,
              Option.some.injEq] at h
            obtain ⟨hk, rfl⟩ := h
            exact .noModifier k rfl (KeyInput.modifier?_eq_none_iff.mp hk)
        | false =>
            rw [fault?, Gesture.keyFault?_of_not_recording, Option.ite_none_right_eq_some,
              Option.some.injEq] at h
            obtain ⟨hk, rfl⟩ := h
            exact .codePoints k rfl hk
    | tick batch =>
        rw [fault?, Option.ite_none_right_eq_some, Option.some.injEq, Bool.and_eq_true,
          decide_eq_true_iff] at h
        obtain ⟨⟨hrecording, htaken⟩, rfl⟩ := h
        exact .conflict batch hrecording htaken
  · intro h
    cases h with
    | noModifier key hrecording hkey =>
        rw [hrecording, fault?, Gesture.keyFault?_of_recording,
          if_pos (KeyInput.modifier?_eq_none_iff.mpr hkey)]
    | codePoints key hrecording hkey =>
        rw [hrecording, fault?, Gesture.keyFault?_of_not_recording, if_pos hkey]
    | conflict batch hrecording htaken =>
        rw [hrecording, fault?, Bool.true_and, if_pos (decide_eq_true htaken)]

theorem fault?_eq_none_iff {recording : Bool} {a : Attempt} :
    a.fault? recording = none ↔ ∀ e, ¬ a.Mistaken recording e := by
  rw [Option.eq_none_iff_forall_ne_some]
  exact forall_congr' fun e => not_congr fault?_eq_some_iff

/-- While the session records, every key but a named modifier is a mistake. -/
theorem not_mistaken_key_iff {key : KeyInput} :
    (∀ e, ¬ (Attempt.key key).Mistaken true e) ↔ ∃ k, key = .named k ∧ k.isModifier = true := by
  constructor
  · intro h
    by_contra hnone
    refine h _ (.noModifier key rfl fun k hk => ?_)
    rw [← Bool.not_eq_true]
    exact fun hmodifier => hnone ⟨k, hk, hmodifier⟩
  · rintro ⟨k, rfl, hmodifier⟩ e h
    cases h with
    | noModifier _ _ hkey => exact Bool.false_ne_true ((hkey k rfl).symm.trans hmodifier)
    | codePoints _ hrecording _ => exact nomatch hrecording

theorem not_mistaken_tick_iff {batch : List DeviceAction} :
    (∀ e, ¬ (Attempt.tick batch).Mistaken true e) ↔ ¬ (Timelines.batchIds batch).Nodup := by
  constructor
  · intro h hnd
    exact h _ (.conflict batch rfl hnd)
  · intro hnd e h
    cases h with
    | conflict _ _ htaken => exact hnd htaken

/-- The first fault of attempts is their first mistake. -/
theorem findSome?_fault?_eq_some_iff {recording : Bool} {as : List Attempt} {e : ActionError} :
    as.findSome? (fault? recording) = some e ↔ FirstMistake recording as e := by
  rw [List.findSome?_eq_some_iff]
  constructor
  · rintro ⟨before, a, after, hsplit, ha, hbefore⟩
    exact ⟨before, a, after, hsplit, fun b hb => fault?_eq_none_iff.mp (hbefore b hb),
      fault?_eq_some_iff.mp ha⟩
  · rintro ⟨before, a, after, hsplit, hbefore, ha⟩
    exact ⟨before, a, after, hsplit, fault?_eq_some_iff.mpr ha,
      fun b hb => fault?_eq_none_iff.mpr (hbefore b hb)⟩

theorem findSome?_fault?_eq_none_iff {recording : Bool} {as : List Attempt} :
    as.findSome? (fault? recording) = none ↔ ∀ a ∈ as, ∀ e, ¬ a.Mistaken recording e := by
  rw [List.findSome?_eq_none_iff]
  exact forall₂_congr fun a _ => fault?_eq_none_iff

/-- Naming a device twice is no mistake that is kept. -/
theorem not_mistaken_duplicateDevice {recording : Bool} {a : Attempt}
    {batch : List DeviceAction} : ¬ a.Mistaken recording (.duplicateDevice batch) :=
  fun h => nomatch h

end Attempt

/-! ## Faults of events and of attempts -/

namespace Call

/-- Gestures of one call have the fault of the first of them that is at fault. -/
theorem findSome?_fault?_allOrNone (recording : Bool) (p : Policy) (gs : List Gesture) :
    (allOrNone recording p gs).findSome? Event.fault?
      = gs.findSome? (Gesture.fault? recording) := by
  rw [allOrNone]
  cases h : gs.findSome? (Gesture.fault? recording) with
  | some e => rfl
  | none =>
      show (gs.map (Event.gesture p)).findSome? Event.fault? = none
      rw [List.findSome?_eq_none_iff]
      intro e he
      obtain ⟨g, -, rfl⟩ := List.mem_map.mp he
      rfl

/-- The gestures around a key are never at fault. -/
theorem findSome?_fault?_gestures (recording : Bool) {p : Policy} {c : Call}
    (h : c.gestures p ≠ []) :
    (c.gestures p).findSome? (Gesture.fault? recording)
      = c.attempts.findSome? (Attempt.fault? recording) := by
  cases c with
  | gesture g => cases g <;> rfl
  | script _ | tick _ | policy _ | newPointer _ _ | newKeyboard _ => exact absurd rfl h
  | _ => rfl

theorem attempts_asCall (p : Policy) (st : Step) : (st.asCall p).attempts = st.attempts := by
  cases st with
  | click on | doubleClick on | contextClick on | clickAndHold on | release on
  | keyDown _ on | keyUp _ on | sendKeys _ on => cases on <;> rfl
  | moveToElement element x y => cases x <;> cases y <;> rfl
  | moveByOffset _ _ | dragAndDrop _ _ | dragAndDropBy _ _ _ | pause _ => rfl

/-- The faults of a script are those of what its steps attempt. -/
theorem findSome?_fault?_steps (recording : Bool) (p : Policy) (steps : List Step) :
    (steps.flatMap fun st => allOrNone recording p ((st.asCall p).gestures p)).findSome?
        Event.fault?
      = (steps.flatMap Step.attempts).findSome? (Attempt.fault? recording) := by
  induction steps with
  | nil => rfl
  | cons st steps ih =>
      rw [List.flatMap_cons, List.flatMap_cons, List.findSome?_append, List.findSome?_append, ih,
        findSome?_fault?_allOrNone,
        findSome?_fault?_gestures recording (Session.asCall_gestures_ne_nil p st),
        attempts_asCall]

/-- A raw tick is at fault when it is taken while the session records. -/
theorem findSome?_fault?_tickEvents (recording : Bool) (batch : List DeviceAction) :
    (tickEvents recording batch).findSome? Event.fault?
      = [Attempt.tick batch].findSome? (Attempt.fault? recording) := by
  rw [tickEvents, List.findSome?_singleton, Attempt.fault?]
  by_cases hnd : (Timelines.batchIds batch).Nodup
  · rw [if_pos hnd, decide_eq_true hnd]
    cases recording <;> rfl
  · rw [if_neg hnd, decide_eq_false hnd, Bool.and_false]
    rfl

/-- The first fault among the events of a call is that of its attempts. -/
theorem findSome?_fault?_events (recording : Bool) (p : Policy) (c : Call) :
    (c.events recording p).findSome? Event.fault?
      = c.attempts.findSome? (Attempt.fault? recording) := by
  by_cases hg : c.gestures p = []
  · cases c with
    | script s => exact findSome?_fault?_steps recording p s.steps
    | tick batch => exact findSome?_fault?_tickEvents recording batch
    | policy _ | newPointer _ _ | newKeyboard _ => rfl
    | _ => exact absurd hg (List.cons_ne_nil _ _)
  · rw [events_of_gestures recording hg, findSome?_fault?_allOrNone,
      findSome?_fault?_gestures recording hg]

/-- The first fault of a run is that of its attempts, whichever policies are in force. -/
theorem findSome?_fault?_eventsOf (recording : Bool) (p : Policy) (calls : List Call) :
    (eventsOf recording p calls).findSome? Event.fault?
      = (calls.flatMap attempts).findSome? (Attempt.fault? recording) := by
  induction calls generalizing p with
  | nil => rfl
  | cons c cs ih =>
      rw [eventsOf, List.flatMap_cons, List.findSome?_append, List.findSome?_append, ih,
        findSome?_fault?_events]

end Call

namespace Session

/-- The deferred error after calls is the one before, or else the first fault of them. -/
theorem run_deferred (s : Session) (calls : List Call) :
    (s.run calls).deferred
      = s.deferred.or ((calls.flatMap Call.attempts).findSome?
          (Attempt.fault? s.isRecording)) := by
  rw [run_eq_receiveAll, receiveAll_deferred, events, Call.findSome?_fault?_eventsOf]

/-- A build fails with the deferred error and with nothing else. -/
theorem build_eq_error_iff {s : Session} {e : ActionError} :
    s.build = .error e ↔ s.deferred = some e := by
  cases h : s.deferred with
  | none => simp [build, h]
  | some d => simp [build, h]

theorem exists_tick_eq_ok_iff {s : Session} {batch : List DeviceAction} :
    (∃ next, s.tick batch = .ok next) ↔ (Timelines.batchIds batch).Nodup := by
  constructor
  · rintro ⟨next, hnext⟩
    by_contra hnd
    rw [tick_of_not_nodup _ hnd] at hnext
    exact nomatch hnext
  · intro hnd
    exact ⟨_, tick_of_nodup _ hnd⟩

theorem call_tick_of_not_nodup {s : Session} {batch : List DeviceAction}
    (hnd : ¬ (Timelines.batchIds batch).Nodup) : s.call (.tick batch) = s := by
  rw [call, tick_of_not_nodup s hnd]

end Session

namespace Scene

/-- The deferred error of a scene is the first fault of what was attempted. -/
theorem happenAll_deferred (o : Opening) (hs : List Happening) :
    ((opened o).happenAll hs).session.deferred
      = (Happening.attempts hs).findSome? (Attempt.fault? o.captured?.isSome) := by
  rw [happenAll_session]
  show (o.session.run _).deferred = _
  rw [Session.run_deferred, o.session_deferred, o.session_isRecording]
  rfl

theorem deferred_stays {s : Scene} {e : ActionError} (h : s.session.deferred = some e)
    (more : List Happening) : (s.happenAll more).session.deferred = some e := by
  rw [happenAll_session, Session.run_deferred, h]
  rfl

/-- What a session is to keep of the mistakes among attempts: the first one, which every build
    then fails with.  A raw tick that names a device twice is refused at once and is never kept. -/
structure KeepsFirst (recording : Bool) (as : List Attempt) (s : Scene) : Prop where
  none_iff : s.session.deferred = none ↔ ∀ a ∈ as, ∀ e, ¬ a.Mistaken recording e
  some_iff : ∀ e, s.session.deferred = some e ↔ Attempt.FirstMistake recording as e
  stays : ∀ e, s.session.deferred = some e →
    ∀ more, (s.happenAll more).session.deferred = some e
  build_iff : ∀ e, s.session.build = .error e ↔ s.session.deferred = some e
  taken_iff : ∀ batch, (∃ next, s.session.tick batch = .ok next)
    ↔ (Timelines.batchIds batch).Nodup
  refused : ∀ batch, ¬ (Timelines.batchIds batch).Nodup →
    s.session.tick batch = .error (.duplicateDevice batch)
      ∧ s.session.call (.tick batch) = s.session
  duplicate_notKept : ∀ batch, s.session.deferred ≠ some (.duplicateDevice batch)

/-- **The deferred error is that of the first mistake.** -/
theorem deferred_is_first_mistake (o : Opening) (hs : List Happening) :
    KeepsFirst o.captured?.isSome (Happening.attempts hs) ((opened o).happenAll hs) := by
  have hdeferred := happenAll_deferred o hs
  have hsome : ∀ e, ((opened o).happenAll hs).session.deferred = some e
      ↔ Attempt.FirstMistake o.captured?.isSome (Happening.attempts hs) e := by
    intro e
    rw [hdeferred]
    exact Attempt.findSome?_fault?_eq_some_iff
  refine ⟨?_, hsome, fun e he more => deferred_stays he more,
    fun e => Session.build_eq_error_iff, fun batch => Session.exists_tick_eq_ok_iff, ?_, ?_⟩
  · rw [hdeferred]
    exact Attempt.findSome?_fault?_eq_none_iff
  · intro batch hnd
    exact ⟨Session.tick_of_not_nodup _ hnd, Session.call_tick_of_not_nodup hnd⟩
  · intro batch hdup
    obtain ⟨_, _, _, -, -, ha⟩ := (hsome _).mp hdup
    exact Attempt.not_mistaken_duplicateDevice ha

/-- The empty tick would be a mistake as well, but the key comes first. -/
example :
    ((opened (.onHandles ⟨true, true⟩)).happenAll
        [.call (.keyDown (.text "x")), .build, .call (.tick [])]).session.deferred
      = some (.invalidModifier (.text "x")) := rfl

end Scene

end GestureTimeline
