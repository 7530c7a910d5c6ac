import GestureTimeline.Proofs.Deferral
import GestureTimeline.Proofs.Extension

/-! # Keys that are held

    A key is pressed or let go either at once or after a click on an element.  The click comes
    first but the key alone can be at fault, so the key is looked at before anything is taken:
    all of the call goes into the histories, or nothing does and the fault of the key is
    deferred. -/

namespace GestureTimeline

/-- Whether a key may be pressed or let go by itself: while the legacy protocol is recorded if it
    is a named modifier, and otherwise if it is a single code point. -/
inductive KeyInput.Holdable : Bool → KeyInput → Prop where
  | modifier (key : Key) (hmodifier : key.isModifier = true) : Holdable true (.named key)
  | codePoint (key : KeyInput) (value : Char) (hvalue : key.codePoints = [value]) :
      Holdable false key

/-- A key that may be held is a single code point, whatever is recorded. -/
theorem KeyInput.Holdable.exists_codePoint {recording : Bool} {key : KeyInput}
    (h : key.Holdable recording) : ∃ value, key.codePoints = [value] := by
  cases h with
  | modifier k _ => exact ⟨k.codePoint, rfl⟩
  | codePoint _ value hvalue => exact ⟨value, hvalue⟩

/-- A key may be held exactly if holding it is no mistake. -/
theorem Attempt.holdable_iff {recording : Bool} {key : KeyInput} :
    key.Holdable recording ↔ ∀ e, ¬ (Attempt.key key).Mistaken recording e := by
  cases recording with
  | true =>
      rw [not_mistaken_key_iff]
      constructor
      · rintro ⟨k, hmodifier⟩
        exact ⟨k, rfl, hmodifier⟩
      · rintro ⟨k, rfl, hmodifier⟩
        exact .modifier k hmodifier
  | false =>
      constructor
      · intro h e hmistaken
        obtain ⟨value, hvalue⟩ := h.exists_codePoint
        cases hmistaken with
        | noModifier _ hrecording _ => exact nomatch hrecording
        | codePoints _ _ hkey => exact hkey (by rw [hvalue]; rfl)
      · intro h
        by_contra hnot
        refine h _ (.codePoints key rfl ?_)
        intro hlength
        obtain ⟨value, hvalue⟩ := List.length_eq_one_iff.mp hlength
        exact hnot (.codePoint key value hvalue)

/-! ## Calls of keys -/

/-- What is done with a key. -/
inductive KeyMotion where
  | press | letGo
  deriving DecidableEq, Inhabited

namespace KeyMotion

def gesture : KeyMotion → KeyInput → Gesture
  | press => .keyDown
  | letGo => .keyUp

def action (keyboard : Keyboard) : KeyMotion → Char → DeviceAction
  | press => keyboard.down
  | letGo => keyboard.up

end KeyMotion

/-- A call that holds a key, at once or after a click on an element. -/
structure KeyCall where
  motion : KeyMotion
  on : Option ElementRef
  key : KeyInput
  deriving DecidableEq, Inhabited

namespace KeyCall

/-- The call as one of those on a session. -/
def toCall (c : KeyCall) : Call :=
  match c.motion, c.on with
  | .press, none => .keyDown c.key
  | .letGo, none => .keyUp c.key
  | .press, some target => .keyDownOn target c.key
  | .letGo, some target => .keyUpOn target c.key

/-- The gestures before that of the key. -/
def lead (p : Policy) (c : KeyCall) : List Gesture :=
  match c.on with
  | none => []
  | some target => [.moveToElement target p.elementOffsetX p.elementOffsetY, .click]

/-- The actions before that of the key. -/
def leadActions (s : Session) (c : KeyCall) : List DeviceAction :=
  match c.on with
  | none => []
  | some target =>
      [s.pointer.move s.policy.elementMove (.element target) s.policy.elementOffsetX
          s.policy.elementOffsetY,
        s.pointer.down 0, s.pointer.up 0]

/-- The gestures of a call, in order. -/
theorem toCall_gestures (p : Policy) (c : KeyCall) :
    c.toCall.gestures p = c.lead p ++ [c.motion.gesture c.key] := by
  obtain ⟨motion, on, key⟩ := c
  cases motion <;> cases on <;> rfl

theorem toCall_gestures_ne_nil (p : Policy) (c : KeyCall) : c.toCall.gestures p ≠ [] := by
  rw [toCall_gestures]
  exact List.append_ne_nil_of_right_ne_nil _ (List.cons_ne_nil _ _)

/-- Of the gestures of a call, only that of the key can be at fault. -/
theorem findSome?_fault?_toCall (recording : Bool) (p : Policy) (c : KeyCall) :
    (c.toCall.gestures p).findSome? (Gesture.fault? recording)
      = Attempt.fault? recording (.key c.key) := by
  have hattempts : c.toCall.attempts = [.key c.key] := by
    obtain ⟨motion, on, key⟩ := c
    cases motion <;> cases on <;> rfl
  rw [Call.findSome?_fault?_gestures recording (c.toCall_gestures_ne_nil p), hattempts,
    List.findSome?_singleton]

/-- The actions of a call, if its key is a single code point. -/
theorem expandAll_gestures (s : Session) (c : KeyCall) {value : Char}
    (hvalue : c.key.codePoints = [value]) :
    s.expandAll (c.lead s.policy ++ [c.motion.gesture c.key])
      = leadActions s c ++ [c.motion.action s.keyboard value] := by
  have hkey : s.expand (c.motion.gesture c.key) = [c.motion.action s.keyboard value] := by
    cases hmotion : c.motion with
    | press =>
        show c.key.codePoints.map s.keyboard.down = _
        rw [hvalue]
        rfl
    | letGo =>
        show c.key.codePoints.map s.keyboard.up = _
        rw [hvalue]
        rfl
  have hlead : s.expandAll (c.lead s.policy) = leadActions s c := by
    rw [lead, leadActions]
    cases c.on <;> rfl
  rw [Session.expandAll, List.flatMap_append, List.flatMap_singleton, hkey]
  exact congrArg (· ++ [c.motion.action s.keyboard value]) hlead

end KeyCall

namespace Session

/-- A call whose key may not be held defers its mistake. -/
theorem call_of_mistaken {s : Session} {c : KeyCall} {e : ActionError}
    (h : (Attempt.key c.key).Mistaken s.isRecording e) : s.call c.toCall = s.defer e := by
  have hfault := c.findSome?_fault?_toCall s.isRecording s.policy
  rw [Attempt.fault?_eq_some_iff.mpr h] at hfault
  exact call_of_fault (c.toCall_gestures_ne_nil s.policy) hfault

/-- A call whose key may be held is taken with all its gestures. -/
theorem call_of_holdable {s : Session} {c : KeyCall} (h : c.key.Holdable s.isRecording) :
    s.call c.toCall
      = s.receiveAll ((c.lead s.policy ++ [c.motion.gesture c.key]).map (.gesture s.policy)) := by
  have hfault := c.findSome?_fault?_toCall s.isRecording s.policy
  rw [Attempt.fault?_eq_none_iff.mpr (Attempt.holdable_iff.mp h)] at hfault
  rw [call_of_sound (c.toCall_gestures_ne_nil s.policy) hfault,
    emitAll_of_sound s _ (List.findSome?_eq_none_iff.mp hfault), KeyCall.toCall_gestures]

/-- What a session is to be after a call of a key.  If the key may not be held there, the call
    leaves no more than its mistake, and that only if there was none before.  If it may, its tick
    follows those of the click, and its gesture that of the click in the composite list. -/
structure TakesAllOrNothing (s : Session) (c : KeyCall) : Prop where
  refused : ¬ c.key.Holdable s.isRecording →
    ∃ e, (Attempt.key c.key).Mistaken s.isRecording e
      ∧ s.call c.toCall = { s with deferred := s.deferred.or (some e) }
  taken : c.key.Holdable s.isRecording →
    ∃ value, c.key.codePoints = [value]
      ∧ s.call c.toCall
        = { s with
            timelines := s.timelines.extend
              (c.leadActions s ++ [c.motion.action s.keyboard value])
            composite :=
              if s.isRecording then
                s.composite ++ (c.lead s.policy ++ [c.motion.gesture c.key])
              else s.composite }

end Session

/-- **Calls of keys are all or nothing.** -/
theorem Scene.key_call_all_or_nothing (o : Opening) (hs : List Happening) (c : KeyCall) :
    ((opened o).happenAll hs).session.TakesAllOrNothing c := by
  rw [happenAll_session]
  show (o.session.run (hs.filterMap Happening.call?)).TakesAllOrNothing c
  constructor
  · intro hnot
    rw [Attempt.holdable_iff] at hnot
    push Not at hnot
    obtain ⟨e, hmistaken⟩ := hnot
    exact ⟨e, hmistaken, Session.call_of_mistaken hmistaken⟩
  · intro hholdable
    obtain ⟨value, hvalue⟩ := hholdable.exists_codePoint
    refine ⟨value, hvalue, ?_⟩
    rw [Session.call_of_holdable hholdable, Session.receiveAll_gestures,
      KeyCall.expandAll_gestures _ c hvalue, Session.advanceEach_of_run]

/-- A letter is no modifier: while a mouse is recorded, the click before it is not made either. -/
example :
    let s := (Opening.onHandles ⟨false, true⟩).session
    (s.call (.keyDownOn ⟨"field"⟩ (.text "x"))).timelines = .empty
      ∧ (s.call (.keyDownOn ⟨"field"⟩ (.named .shift))).timelines.ticks = 4 :=
  ⟨rfl, rfl⟩

end GestureTimeline
