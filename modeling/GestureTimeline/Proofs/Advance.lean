import GestureTimeline.Proofs.ScriptSize

/-! # Gestures that advance both histories

    A gesture that is taken while the session records goes into the composite list, and it
    takes a tick or more.  There is one exception: keys without any code point can be typed, and
    that is recorded, but typing them takes no tick.  A key that is held is looked at before it
    is taken; keys that are typed are not.  After the exception the composite list is longer,
    and the timelines are as they were. -/

namespace GestureTimeline

/-! ## Gestures without ticks -/

/-- Typing texts that are all empty, or nothing at all. -/
inductive Gesture.TypesNothing : Gesture → Prop where
  | keys {keys : List KeyInput} (hempty : ∀ key ∈ keys, key = .text "") :
      TypesNothing (.sendKeys keys)

namespace KeyInput

theorem codePoints_eq_nil_iff {key : KeyInput} : key.codePoints = [] ↔ key = .text "" := by
  cases key with
  | named k =>
      constructor
      · intro h
        cases h
      · intro h
        cases h
  | text value =>
      show value.toList = [] ↔ _
      rw [String.toList_eq_nil_iff, text.injEq]

theorem typed_eq_nil_iff {keys : List KeyInput} :
    typed keys = [] ↔ ∀ key ∈ keys, key = .text "" := by
  rw [typed, List.flatMap_eq_nil_iff]
  exact forall₂_congr fun _ _ => codePoints_eq_nil_iff

end KeyInput

namespace Gesture

theorem typesNothing_iff {g : Gesture} :
    g.TypesNothing ↔ ∃ keys, g = .sendKeys keys ∧ KeyInput.typed keys = [] := by
  constructor
  · rintro ⟨hempty⟩
    exact ⟨_, rfl, KeyInput.typed_eq_nil_iff.mpr hempty⟩
  · rintro ⟨keys, rfl, htyped⟩
    exact .keys (KeyInput.typed_eq_nil_iff.mp htyped)

/-- A gesture without fault takes no tick exactly if it types nothing. -/
theorem tickCount_eq_zero_iff {recording : Bool} {g : Gesture}
    (hsound : g.fault? recording = none) : g.tickCount = 0 ↔ g.TypesNothing := by
  rw [typesNothing_iff]
  constructor
  · intro hzero
    cases g with
    | sendKeys keys =>
        have hlength : 2 * (KeyInput.typed keys).length = 0 := hzero
        refine ⟨keys, rfl, List.length_eq_zero_iff.mp ?_⟩
        omega
    | keyDown key | keyUp key =>
        -- a key without fault is a single code point
        have hholdable := KeyInput.fault?_eq_none_iff_holdable.mp hsound
        exact absurd (hholdable.length_codePoints.symm.trans hzero) Nat.one_ne_zero
    | _ => cases hzero
  · rintro ⟨keys, rfl, htyped⟩
    show 2 * (KeyInput.typed keys).length = 0
    rw [htyped]
    rfl

end Gesture

/-- A call of more than one gesture has ticks enough for all of them, even if the last one takes
    none: the click on an element before it takes three. -/
theorem Call.gestures_singleton_or_length_le (p : Policy) (c : Call) :
    (∃ g, c.gestures p = [g])
      ∨ (c.gestures p).length ≤ ((c.gestures p).map Gesture.tickCount).sum := by
  cases c with
  | keyDownOn target key | keyUpOn target key =>
      right
      show 3 ≤ 1 + (2 + (key.codePoints.length + 0))
      omega
  | sendKeysTo target keys =>
      right
      show 3 ≤ 1 + (2 + (2 * (KeyInput.typed keys).length + 0))
      omega
  | clickOn _ | doubleClick | doubleClickOn _ | contextClickOn _ | clickAndHoldOn _ | releaseOn _
  | dragAndDrop _ _ | dragAndDropBy _ _ _ =>
      exact .inr (Nat.le_of_ble_eq_true rfl)
  | script _ | tick _ | policy _ | newPointer _ _ | newKeyboard _ => exact .inr (Nat.le_refl 0)
  | _ => exact .inl ⟨_, rfl⟩

/-- Gestures without fault take as many ticks as they are, or one of them makes the whole call
    and types nothing. -/
theorem Call.length_le_sum_tickCount_iff {recording : Bool} {p : Policy} {c : Call}
    (hsound : ∀ g ∈ c.gestures p, g.fault? recording = none) :
    (c.gestures p).length ≤ ((c.gestures p).map Gesture.tickCount).sum
      ↔ ∀ g, c.gestures p = [g] → ¬ g.TypesNothing := by
  have hzero : ∀ g, c.gestures p = [g] → (g.tickCount = 0 ↔ g.TypesNothing) := by
    intro g hg
    rw [hg] at hsound
    exact Gesture.tickCount_eq_zero_iff (hsound g (List.mem_singleton_self g))
  constructor
  · intro hle g hg hnothing
    have hnone := (hzero g hg).mpr hnothing
    rw [hg, List.map_singleton, List.sum_singleton, List.length_singleton] at hle
    omega
  · intro hnot
    rcases c.gestures_singleton_or_length_le p with ⟨g, hg⟩ | hle
    · have hsome := mt (hzero g hg).mp (hnot g hg)
      rw [hg, List.map_singleton, List.sum_singleton, List.length_singleton]
      omega
    · exact hle

/-! ## Calls that are taken -/

namespace Session

/-- How a call of gestures advances the histories of a session that records and takes them. -/
structure AdvancesBoth (s : Session) (c : Call) : Prop where
  /-- The call is its gestures, one after another. -/
  emits : s.call c = s.emitAll (c.gestures s.policy)
  /-- Each of them adds one entry to the composite list, itself. -/
  composite_eq : ∀ before g after, c.gestures s.policy = before ++ g :: after →
    (s.emitAll (before ++ [g])).composite = (s.emitAll before).composite ++ [g]
  /-- Each of them adds a tick, unless it types nothing. -/
  ticks_lt_iff : ∀ before g after, c.gestures s.policy = before ++ g :: after →
    ((s.emitAll before).timelines.ticks < (s.emitAll (before ++ [g])).timelines.ticks
      ↔ ¬ g.TypesNothing)
  /-- The call adds as many entries as it has gestures. -/
  composite_length : (s.call c).composite.length
    = s.composite.length + (c.gestures s.policy).length
  /-- The call adds at least as many ticks, unless typing nothing is all that it does. -/
  ticks_le_iff :
    s.timelines.ticks + (c.gestures s.policy).length ≤ (s.call c).timelines.ticks
      ↔ ∀ g, c.gestures s.policy = [g] → ¬ g.TypesNothing

section

variable {o : Opening} {calls : List Call} {s : Session} {c : Call}

/-- What one more gesture without fault adds to the histories. -/
theorem counts_emitAll_concat {before : List Gesture} {g : Gesture}
    (hs : s = o.session.run calls) (hrecording : s.isRecording = true)
    (hsound : ∀ k ∈ before ++ [g], k.fault? s.isRecording = none) :
    (s.emitAll (before ++ [g])).timelines.ticks
        = (s.emitAll before).timelines.ticks + g.tickCount
      ∧ (s.emitAll (before ++ [g])).composite = (s.emitAll before).composite ++ [g] := by
  have hbefore : ∀ k ∈ before, k.fault? s.isRecording = none :=
    fun k hk => hsound k (List.mem_append_left [g] hk)
  obtain ⟨hticks, hcomposite⟩ := counts_emitAll hs hbefore
  obtain ⟨hticks', hcomposite'⟩ := counts_emitAll hs hsound
  rw [if_pos hrecording] at hcomposite hcomposite'
  constructor
  · rw [hticks', hticks, List.map_append, List.sum_append, List.map_singleton,
      List.sum_singleton, Nat.add_assoc]
  · rw [hcomposite', hcomposite, List.append_assoc]

/-- A call of gestures without fault advances both histories. -/
theorem advancesBoth_of_sound (hs : s = o.session.run calls) (hrecording : s.isRecording = true)
    (hgestures : c.gestures s.policy ≠ [])
    (hfind : (c.gestures s.policy).findSome? (Gesture.fault? s.isRecording) = none) :
    s.AdvancesBoth c := by
  have hsound := List.findSome?_eq_none_iff.mp hfind
  have hcall := call_of_sound hgestures hfind
  obtain ⟨hticks, hcomposite⟩ := counts_emitAll hs hsound
  rw [if_pos hrecording] at hcomposite
  -- the gestures up to one of them are without fault as well
  have hconcat : ∀ before g after, c.gestures s.policy = before ++ g :: after →
      ∀ k ∈ before ++ [g], k.fault? s.isRecording = none := by
    intro before g after hsplit k hk
    have hmem : k ∈ (before ++ [g]) ++ after := List.mem_append_left after hk
    rw [List.append_assoc, List.singleton_append, ← hsplit] at hmem
    exact hsound k hmem
  constructor
  case emits => exact hcall
  case composite_eq =>
    intro before g after hsplit
    exact (counts_emitAll_concat hs hrecording (hconcat before g after hsplit)).2
  case ticks_lt_iff =>
    intro before g after hsplit
    have hupto := hconcat before g after hsplit
    rw [(counts_emitAll_concat hs hrecording hupto).1, Nat.lt_add_right_iff_pos,
      Nat.pos_iff_ne_zero, Ne, Gesture.tickCount_eq_zero_iff (hupto g List.mem_concat_self)]
  case composite_length => rw [hcall, hcomposite, List.length_append]
  case ticks_le_iff =>
    rw [hcall, hticks, Nat.add_le_add_iff_left]
    exact Call.length_le_sum_tickCount_iff hsound

end

end Session

/-- **Calls of gestures that are taken advance both histories, unless they type nothing.** -/
theorem Scene.call_advances_both (o : Opening) (hs : List Happening) (c : Call)
    (hrecording : o.captured?.isSome = true) (hgestures : ∀ p, c.gestures p ≠ [])
    (haccepted : ∀ a ∈ c.attempts, ∀ e, ¬ a.Mistaken true e) :
    ((opened o).happenAll hs).session.AdvancesBoth c := by
  rw [happenAll_session]
  show (o.session.run (hs.filterMap Happening.call?)).AdvancesBoth c
  generalize hrun : o.session.run (hs.filterMap Happening.call?) = s
  have hrecords : s.isRecording = true := by
    rw [← hrun, Session.run_eq_receiveAll, Session.receiveAll_isRecording,
      Opening.session_isRecording, hrecording]
  refine Session.advancesBoth_of_sound hrun.symm hrecords (hgestures s.policy) ?_
  rw [Call.findSome?_fault?_gestures s.isRecording (hgestures s.policy), hrecords]
  exact Attempt.findSome?_fault?_eq_none_iff.mpr haccepted

/-- Nothing is typed into a field, after a letter that could not be held. -/
theorem Scene.call_advances_both_sendKeysTo :
    let o := Opening.onHandles ⟨true, true⟩
    let hs := [Happening.call (.keyDown (.text "x")), .build]
    let c := Call.sendKeysTo ⟨"field"⟩ [.text ""]
    (o.captured?.isSome = true ∧ (∀ p, c.gestures p ≠ [])
        ∧ ∀ a ∈ c.attempts, ∀ e, ¬ a.Mistaken true e)
      ∧ ((opened o).happenAll hs).session.AdvancesBoth c := by
  have hgestures : ∀ p, (Call.sendKeysTo ⟨"field"⟩ [.text ""]).gestures p ≠ [] :=
    fun _ => List.cons_ne_nil _ _
  have haccepted : ∀ a ∈ (Call.sendKeysTo ⟨"field"⟩ [.text ""]).attempts,
      ∀ e, ¬ a.Mistaken true e := fun _ ha => absurd ha List.not_mem_nil
  exact ⟨⟨rfl, hgestures, haccepted⟩,
    call_advances_both _ _ (.sendKeysTo ⟨"field"⟩ [.text ""]) rfl hgestures haccepted⟩

/-- Typing nothing alone is taken and recorded, and no tick is. -/
theorem Session.sendKeys_nothing_advances_composite_alone :
    let s := (Opening.onHandles ⟨true, true⟩).session
    (∀ a ∈ (Call.sendKeys []).attempts, ∀ e, ¬ a.Mistaken s.isRecording e)
      ∧ s.isRecording = true
      ∧ (Call.sendKeys []).gestures s.policy = [.sendKeys []]
      ∧ (s.call (.sendKeys [])).deferred = none
      ∧ (s.call (.sendKeys [])).composite = s.composite ++ [.sendKeys []]
      ∧ (s.call (.sendKeys [])).timelines.ticks = s.timelines.ticks := by
  refine ⟨?_, rfl, rfl, rfl, rfl, rfl⟩
  intro a ha
  exact absurd ha List.not_mem_nil

end GestureTimeline
