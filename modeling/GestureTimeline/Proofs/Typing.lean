import GestureTimeline.Proofs.Extension
import Mathlib.Logic.Relation

/-! # Typing

    Keys to be typed come as a list of texts and named keys, but what is typed is the code points
    alone.  How these are spread over texts is a matter of spelling: two lists have the same code
    points exactly if one is respelt into the other by splitting texts, putting in empty ones and
    writing named keys as texts (`KeyInput.respelt_iff`).

    In a session each code point takes two ticks of the default keyboard, its key going down and
    up, and nobody else does anything in them (`Session.Types`).  So timelines tell apart what
    is typed and nothing else about the keys. -/

namespace GestureTimeline

/-! ## Spelling -/

namespace KeyInput

/-- The code points that keys type, in order. -/
def typed (keys : List KeyInput) : List Char := keys.flatMap codePoints

/-- One change of spelling. -/
inductive Respells : List KeyInput → List KeyInput → Prop where
  /-- A text is written as two. -/
  | split (before after : List KeyInput) (left right : String) :
      Respells (before ++ text (left ++ right) :: after) (before ++ text left :: text right :: after)
  /-- An empty text is put in. -/
  | pad (before after : List KeyInput) : Respells (before ++ after) (before ++ text "" :: after)
  /-- A named key is written as its private-use code point. -/
  | spell (before after : List KeyInput) (key : Key) :
      Respells (before ++ named key :: after)
        (before ++ text (String.singleton key.codePoint) :: after)

/-- Changes of spelling, there and back. -/
def Respelt : List KeyInput → List KeyInput → Prop := Relation.EqvGen Respells

theorem typed_cons (key : KeyInput) (keys : List KeyInput) :
    typed (key :: keys) = key.codePoints ++ typed keys := rfl

theorem typed_append (first second : List KeyInput) :
    typed (first ++ second) = typed first ++ typed second :=
  List.flatMap_append

theorem Respells.typed_eq {keys others : List KeyInput} (h : Respells keys others) :
    typed keys = typed others := by
  cases h with
  | split before after left right =>
      simp [typed_append, typed_cons, codePoints]
  | pad before after =>
      simp [typed_append, typed_cons, codePoints]
  | spell before after key =>
      simp [typed_append, typed_cons, codePoints]

theorem Respelt.typed_eq {keys others : List KeyInput} (h : Respelt keys others) :
    typed keys = typed others := by
  induction h with
  | rel _ _ h => exact h.typed_eq
  | refl _ => rfl
  | symm _ _ _ ih => exact ih.symm
  | trans _ _ _ _ _ ih₁ ih₂ => exact ih₁.trans ih₂

theorem Respells.cons {keys others : List KeyInput} (key : KeyInput) (h : Respells keys others) :
    Respells (key :: keys) (key :: others) := by
  cases h with
  | split before after left right => exact .split (key :: before) after left right
  | pad before after => exact .pad (key :: before) after
  | spell before after k => exact .spell (key :: before) after k

theorem Respelt.cons {keys others : List KeyInput} (key : KeyInput) (h : Respelt keys others) :
    Respelt (key :: keys) (key :: others) := by
  induction h with
  | rel _ _ h => exact .rel _ _ (h.cons key)
  | refl _ => exact .refl _
  | symm _ _ _ ih => exact .symm _ _ ih
  | trans _ _ _ _ _ ih₁ ih₂ => exact .trans _ _ _ ih₁ ih₂

theorem respelt_join (left right : String) :
    Respelt [text left, text right] [text (left ++ right)] :=
  .symm _ _ (.rel _ _ (.split [] [] left right))

/-- Every list of keys can be respelt as one text. -/
theorem respelt_text (keys : List KeyInput) : Respelt keys [text (String.ofList (typed keys))] := by
  induction keys with
  | nil => exact .rel _ _ (.pad [] [])
  | cons key keys ih =>
      cases key with
      | named k =>
          have hspell : Respelt (named k :: keys) (text (String.singleton k.codePoint) :: keys) :=
            .rel _ _ (.spell [] keys k)
          have hjoin := respelt_join (String.singleton k.codePoint) (String.ofList (typed keys))
          rw [String.singleton_eq_ofList, ← String.ofList_append,
            ← String.singleton_eq_ofList] at hjoin
          exact .trans _ _ _ hspell (.trans _ _ _ (ih.cons _) hjoin)
      | text content =>
          have hjoin := respelt_join content (String.ofList (typed keys))
          have hcontent : content ++ String.ofList (typed keys)
              = String.ofList (content.toList ++ typed keys) := by
            rw [String.ofList_append, String.ofList_toList]
          rw [hcontent] at hjoin
          exact .trans _ _ _ (ih.cons _) hjoin

/-- Lists of keys type the same exactly if one is a spelling of the other. -/
theorem respelt_iff {keys others : List KeyInput} :
    Respelt keys others ↔ typed keys = typed others := by
  refine ⟨Respelt.typed_eq, ?_⟩
  intro h
  have hkeys := respelt_text keys
  rw [h] at hkeys
  exact .trans _ _ _ hkeys (.symm _ _ (respelt_text others))

example : typed [text "ab", named .shift] = typed [text "a", text "", text "b\ue008"] := by decide

end KeyInput

/-! ## Strokes -/

/-- What a keyboard does for code points: each of their keys goes down and up. -/
def Interaction.strokes (value : List Char) : List Interaction :=
  value.flatMap fun c => [.keyDown c, .keyUp c]

theorem Interaction.strokes_injective : Function.Injective strokes := by
  intro value other h
  induction value generalizing other with
  | nil =>
      cases other with
      | nil => rfl
      | cons c other => exact nomatch h
  | cons c value ih =>
      cases other with
      | nil => exact nomatch h
      | cons e other =>
          obtain ⟨hc, htail⟩ := List.cons.inj h
          obtain ⟨-, hrest⟩ := List.cons.inj htail
          rw [Interaction.keyDown.inj hc, ih hrest]

namespace Keyboard

/-- The actions of a keyboard that types code points. -/
def strokes (k : Keyboard) (value : List Char) : List DeviceAction :=
  value.flatMap (Gesture.stroke k)

variable (k : Keyboard) (value : List Char)

theorem device_of_mem_strokes {a : DeviceAction} (h : a ∈ k.strokes value) :
    a.device = .keyboard k := by
  obtain ⟨c, -, ha⟩ := List.mem_flatMap.mp h
  rcases List.mem_pair.mp ha with rfl | rfl
  · rfl
  · rfl

theorem map_interaction_strokes :
    (k.strokes value).map (·.interaction) = Interaction.strokes value := by
  rw [strokes, List.map_flatMap]
  rfl

theorem length_strokes : (k.strokes value).length = 2 * value.length := by
  induction value with
  | nil => rfl
  | cons c value ih =>
      show (k.strokes value).length + 1 + 1 = 2 * (value.length + 1)
      omega

theorem strokes_ne_nil (h : value ≠ []) : k.strokes value ≠ [] := by
  obtain ⟨c, rest, rfl⟩ := List.exists_cons_of_ne_nil h
  exact List.cons_ne_nil (k.down c) _

end Keyboard

namespace Session

/-- What a session's timelines are to be when code points have been typed: two ticks for each, in
    which the default keyboard presses and lets go of its key and every other device idles.  The
    keyboard joins behind the others if it had not acted before, and only if there is something
    to type. -/
structure Types (s : Session) (value : List Char) (t : Timelines) : Prop where
  ticks_eq : t.ticks = s.timelines.ticks + 2 * value.length
  keyboard_types : value ≠ [] → ∃ l, t.line? (.keyboard s.keyboard) = some l
    ∧ l.steps = s.timelines.past (.keyboard s.keyboard) ++ Interaction.strokes value
  others_idle : ∀ d, d.isSame (.keyboard s.keyboard) = false →
    t.line? d = (s.timelines.line? d).map fun l =>
      { l with steps := l.steps ++ List.replicate (2 * value.length) .idle }
  devices_eq : value ≠ [] → t.lines.map Timeline.device
    = s.timelines.lines.map Timeline.device
      ++ if (s.timelines.line? (.keyboard s.keyboard)).isSome = true then []
        else [.keyboard s.keyboard]
  eq_of_nil : value = [] → t = s.timelines

/-- What typing is to be in a session, whatever the keys: it depends on their code points, and
    on nothing else about them. -/
structure TypesCodePoints (s : Session) : Prop where
  types : ∀ keys, s.Types (KeyInput.typed keys) (s.sendKeys keys).timelines
  timelines_eq_iff : ∀ keys others, (s.sendKeys keys).timelines = (s.sendKeys others).timelines
    ↔ KeyInput.typed keys = KeyInput.typed others
  timelines_eq_iff_respelt : ∀ keys others,
    (s.sendKeys keys).timelines = (s.sendKeys others).timelines ↔ KeyInput.Respelt keys others
  append : ∀ first second, (s.sendKeys (first ++ second)).timelines
    = ((s.sendKeys first).sendKeys second).timelines

/-- Keys that are typed go into both histories at once. -/
theorem sendKeys_eq (s : Session) (keys : List KeyInput) :
    s.sendKeys keys
      = { s with
          timelines := s.timelines.advanceEach (s.keyboard.strokes (KeyInput.typed keys))
          composite := if s.isRecording then s.composite ++ [.sendKeys keys] else s.composite } :=
  s.record_eq (.sendKeys keys)

theorem sendKeys_timelines_append (s : Session) (first second : List KeyInput) :
    (s.sendKeys (first ++ second)).timelines
      = ((s.sendKeys first).sendKeys second).timelines := by
  rw [sendKeys_eq, sendKeys_eq, sendKeys_eq, KeyInput.typed_append, Keyboard.strokes,
    List.flatMap_append]
  exact List.foldl_append

/-- The keyboard of timelines that batches describe types code points. -/
theorem types_extend (s : Session) {bs : List (List DeviceAction)}
    (hbs : s.timelines = .ofBatches bs) (value : List Char) :
    s.Types value (s.timelines.extend (s.keyboard.strokes value)) := by
  have hlength := s.keyboard.length_strokes value
  constructor
  · show s.timelines.ticks + (s.keyboard.strokes value).length = _
    rw [hlength]
  · intro hne
    obtain ⟨a, ha⟩ := List.exists_mem_of_ne_nil _ (s.keyboard.strokes_ne_nil value hne)
    rw [hbs]
    cases hl : ((Timelines.ofBatches bs).extend (s.keyboard.strokes value)).line?
        (.keyboard s.keyboard) with
    | none =>
        have hother := (Timelines.line?_extend_eq_none_iff.mp hl).2 a ha
        rw [s.keyboard.device_of_mem_strokes value ha] at hother
        exact absurd rfl (Device.isSame_eq_false_iff.mp hother)
    | some l =>
        refine ⟨l, rfl, ?_⟩
        rw [Timelines.steps_of_line?_extend hl, Timelines.share_of_all,
          s.keyboard.map_interaction_strokes]
        intro b hb
        rw [s.keyboard.device_of_mem_strokes value hb]
        exact Device.isSame_iff.mpr rfl
  · intro d hd
    have hnone : ∀ a ∈ s.keyboard.strokes value, a.device.isSame d = false := by
      intro a ha
      rw [s.keyboard.device_of_mem_strokes value ha, Device.isSame_comm]
      exact hd
    rw [hbs]
    cases hl : (Timelines.ofBatches bs).line? d with
    | none => exact Timelines.line?_extend_eq_none_iff.mpr ⟨hl, hnone⟩
    | some l =>
        rw [Timelines.line?_extend_of_line? hl, Timelines.share_of_none hnone, hlength]
        rfl
  · intro hne
    rw [hbs]
    exact Timelines.devices_extend_of_one
      (fun a ha => s.keyboard.device_of_mem_strokes value ha)
      (s.keyboard.strokes_ne_nil value hne)
  · rintro rfl
    rw [hbs, ← Timelines.advanceEach_ofBatches_eq_extend]
    rfl

/-- Two typings are told apart by the keyboard. -/
theorem Types.value_eq {s : Session} {value other : List Char} {t : Timelines}
    (h : s.Types value t) (h' : s.Types other t) : value = other := by
  have hlength : value.length = other.length := by
    have hticks := h.ticks_eq.symm.trans h'.ticks_eq
    omega
  by_cases hne : value = []
  · subst hne
    exact (List.eq_nil_of_length_eq_zero hlength.symm).symm
  · have hne' : other ≠ [] := by
      rintro rfl
      exact hne (List.eq_nil_of_length_eq_zero hlength)
    obtain ⟨l, hl, hsteps⟩ := h.keyboard_types hne
    obtain ⟨m, hm, hsteps'⟩ := h'.keyboard_types hne'
    obtain rfl := Option.some.inj (hl.symm.trans hm)
    exact Interaction.strokes_injective (List.append_cancel_left (hsteps.symm.trans hsteps'))

/-- A session whose keyboard types code points tells nothing else about the keys. -/
theorem typesCodePoints_of_types {s : Session}
    (htypes : ∀ keys, s.Types (KeyInput.typed keys) (s.sendKeys keys).timelines) :
    s.TypesCodePoints := by
  have hiff : ∀ keys others, (s.sendKeys keys).timelines = (s.sendKeys others).timelines
      ↔ KeyInput.typed keys = KeyInput.typed others := by
    intro keys others
    constructor
    · intro h
      have hkeys := htypes keys
      rw [h] at hkeys
      exact hkeys.value_eq (htypes others)
    · intro h
      rw [sendKeys_eq, sendKeys_eq, h]
  refine ⟨htypes, hiff, ?_, s.sendKeys_timelines_append⟩
  intro keys others
  rw [hiff, KeyInput.respelt_iff]

end Session

/-- **Typing depends on the code points alone.** -/
theorem Scene.typing_depends_on_code_points (o : Opening) (hs : List Happening) :
    ((opened o).happenAll hs).session.TypesCodePoints := by
  rw [happenAll_session]
  refine Session.typesCodePoints_of_types ?_
  intro keys
  rw [Session.sendKeys_eq]
  show Session.Types _ _ (Timelines.advanceEach (o.session.run _).timelines _)
  rw [Session.advanceEach_of_run]
  exact Session.types_extend _ (Session.run_timelines o _) _

end GestureTimeline
