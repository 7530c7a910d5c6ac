import GestureTimeline.Proofs.SourceIds
import Mathlib.Data.List.Forall2

/-! # Reading payloads back

    A payload is read source by source, each field under its key.  From a source the reader gets
    the kind of its device and its interactions as far as they are told: a time is told in whole
    milliseconds, and at most as many as fit 64 bits (`Source.read?_toJson`).

    Plans with equal payloads are therefore read as the same kinds and interactions.  Where all
    times are whole milliseconds they hold the same ones, and what is left to tell the plans apart
    are names and identities that lead to the same ids (`Plan.toValue_eq_iff`). -/

namespace GestureTimeline

/-! ## Looking fields up -/

namespace Json

/-- The text that a value is. -/
def str? : Json → Option String
  | str s => some s
  | _ => none

/-- The whole number that a value is. -/
def int? : Json → Option Int
  | int n => some n
  | _ => none

/-- The items of an array. -/
def items? : Json → Option (List Json)
  | arr items => some items
  | _ => none

/-- What the field of a key is read as. -/
def fieldAs? {α : Type} (key : String) (read : Json → Option α) (v : Json) : Option α :=
  (v.field? key).bind read

/-- The sources of a payload. -/
def sources (payload : Json) : List Json := (payload.fieldAs? "actions" items?).getD []

end Json

/-! ## Times -/

namespace Span

/-- A span as far as a payload tells it. -/
def told (d : Span) : Span := .ofMillis (.ofNat d.wireMillis)

/-- The span of a number of milliseconds. -/
def read? (v : Json) : Option Span := v.int?.map fun n => .ofMillis (.ofNat n.toNat)

/-- A span of whole milliseconds, of which there are fewer than 2^64. -/
def WholeMillis (d : Span) : Prop := d.nanos % 1000000 = 0 ∧ d.millis < UInt64.size

instance (d : Span) : Decidable d.WholeMillis := inferInstanceAs (Decidable (_ ∧ _))

/-- Whole milliseconds are told as they are. -/
theorem WholeMillis.told_eq {d : Span} (h : d.WholeMillis) : d.told = d := by
  obtain ⟨hmod, hlt⟩ := h
  have hmillis : d.wireMillis = d.millis := Nat.min_eq_left (Nat.le_sub_one_of_lt hlt)
  have hnanos : d.millis * 1000000 = d.nanos := Nat.div_mul_cancel (Nat.dvd_of_mod_eq_zero hmod)
  have hword : (UInt64.ofNat d.millis).toNat = d.millis := UInt64.toNat_ofNat_of_lt hlt
  rw [told, hmillis]
  cases d with
  | mk nanos _ =>
      rw [ofMillis, mk.injEq, hword]
      exact hnanos

end Span

/-! ## Interactions -/

/-- The origin that a value writes. -/
def Origin.read? : Json → Option Origin
  | .str "viewport" => some viewport
  | .str "pointer" => some pointer
  | v => (v.fieldAs? elementKey Json.str?).map fun id => element ⟨id⟩

/-- An element is an object and the two other origins are texts, so all can be told apart. -/
theorem Origin.read?_toJson (o : Origin) : read? o.toJson.sorted = some o := by
  cases o with
  | viewport | pointer | element e => rfl

namespace Interaction

/-- An interaction as far as a payload tells it. -/
def told : Interaction → Interaction
  | pointerMove duration origin x y => pointerMove duration.told origin x y
  | pause duration => pause duration.told
  | i => i

/-- The number of a button. -/
def readButton? (v : Json) : Option UInt32 := v.int?.map fun n => .ofNat n.toNat

/-- The distance along an axis. -/
def readOffset? (v : Json) : Option Int32 := v.int?.map .ofInt

/-- The one character of a text. -/
def readKey? (v : Json) : Option Char :=
  match v.str?.map String.toList with
  | some [c] => some c
  | _ => none

/-- The interaction that a value writes, by its type. -/
def read? (v : Json) : Option Interaction :=
  match v.fieldAs? "type" Json.str? with
  | some "pointerDown" => pointerDown <$> v.fieldAs? "button" readButton?
  | some "pointerUp" => pointerUp <$> v.fieldAs? "button" readButton?
  | some "pointerMove" =>
      pointerMove <$> v.fieldAs? "duration" Span.read? <*> v.fieldAs? "origin" Origin.read?
        <*> v.fieldAs? "x" readOffset? <*> v.fieldAs? "y" readOffset?
  | some "keyDown" => keyDown <$> v.fieldAs? "value" readKey?
  | some "keyUp" => keyUp <$> v.fieldAs? "value" readKey?
  | some "pause" => pause <$> v.fieldAs? "duration" Span.read?
  | _ => none

theorem readButton?_int (button : UInt32) : readButton? (.int button.toNat) = some button :=
  congrArg some (UInt32.ofNat_toNat)

theorem readOffset?_int (n : Int32) : readOffset? (.int n.toInt) = some n :=
  congrArg some (Int32.ofInt_toInt n)

theorem readKey?_str (c : Char) : readKey? (.str (String.ofList [c])) = some c := by
  simp [readKey?, Json.str?]

/-- **An interaction is read as what was told of it.** -/
theorem read?_toJson (i : Interaction) : read? i.toJson.sorted = some i.told := by
  cases i with
  | pointerDown button =>
      show pointerDown <$> readButton? (.int button.toNat) = _
      rw [readButton?_int]
      rfl
  | pointerUp button =>
      show pointerUp <$> readButton? (.int button.toNat) = _
      rw [readButton?_int]
      rfl
  | pointerMove duration origin x y =>
      show pointerMove <$> some duration.told <*> Origin.read? origin.toJson.sorted
        <*> readOffset? (.int x.toInt) <*> readOffset? (.int y.toInt) = _
      rw [Origin.read?_toJson, readOffset?_int, readOffset?_int]
      rfl
  | keyDown value =>
      show keyDown <$> readKey? (.str (String.ofList [value])) = _
      rw [readKey?_str]
      rfl
  | keyUp value =>
      show keyUp <$> readKey? (.str (String.ofList [value])) = _
      rw [readKey?_str]
      rfl
  | pause duration => rfl

/-- An interaction that takes whole milliseconds, or no time of its own. -/
def WholeMillis : Interaction → Prop
  | pointerMove duration _ _ _ | pause duration => duration.WholeMillis
  | _ => True

instance : (i : Interaction) → Decidable i.WholeMillis
  | pointerMove duration _ _ _ | pause duration =>
      inferInstanceAs (Decidable duration.WholeMillis)
  | pointerDown _ | pointerUp _ | keyDown _ | keyUp _ => .isTrue trivial

/-- Nothing of such an interaction is left untold. -/
theorem WholeMillis.told_eq {i : Interaction} (h : i.WholeMillis) : i.told = i := by
  cases i with
  | pointerMove duration origin x y =>
      have hd : duration.told = duration := Span.WholeMillis.told_eq h
      rw [told, hd]
  | pause duration =>
      have hd : duration.told = duration := Span.WholeMillis.told_eq h
      rw [told, hd]
  | pointerDown _ | pointerUp _ | keyDown _ | keyUp _ => rfl

end Interaction

/-! ## Sources -/

/-- The kind of pointer that a text names. -/
def PointerKind.read? : Json → Option PointerKind
  | .str "mouse" => some mouse
  | .str "pen" => some pen
  | .str "touch" => some touch
  | _ => none

theorem PointerKind.read?_name (kind : PointerKind) : read? (.str kind.name) = some kind := by
  cases kind with
  | mouse | pen | touch => rfl

namespace Source

/-- The kind of device that a source belongs to: a pointer of some kind, or a keyboard. -/
def readKind? (v : Json) : Option (Option PointerKind) :=
  match v.fieldAs? "type" Json.str? with
  | some "pointer" =>
      some <$> v.fieldAs? "parameters" fun w => w.fieldAs? "pointerType" PointerKind.read?
  | some "key" => some none
  | _ => none

/-- The interactions of a source. -/
def readActions? (v : Json) : Option (List Interaction) :=
  (v.fieldAs? "actions" Json.items?).bind (List.mapM Interaction.read?)

/-- What a source tells besides its id. -/
def read? (v : Json) : Option (Option PointerKind × List Interaction) :=
  Prod.mk <$> readKind? v <*> readActions? v

/-- The sorted form of a source has its items sorted, under the same key. -/
theorem field?_actions_toJson (s : Source) :
    s.toJson.sorted.field? "actions"
      = some (.arr (s.actions.map fun i => i.toJson.sorted)) := by
  have hitems : s.actions.map (fun i => i.toJson.sorted)
      = Json.sortedItems (s.actions.map Interaction.toJson) := by
    rw [Json.sortedItems_eq_map, List.map_map]
    rfl
  rw [hitems, toJson, header]
  cases s.pointerKind? with
  | none | some kind => rfl

theorem readActions?_toJson (s : Source) :
    readActions? s.toJson.sorted = some (s.actions.map Interaction.told) := by
  -- one interaction after another, each is read as what was told of it
  have hread : (Interaction.read? ∘ fun i => i.toJson.sorted)
      = fun i : Interaction => pure i.told :=
    funext Interaction.read?_toJson
  rw [readActions?, Json.fieldAs?, field?_actions_toJson]
  show (s.actions.map fun i => i.toJson.sorted).mapM Interaction.read? = _
  rw [List.mapM_map, hread, List.mapM_pure]
  rfl

theorem readKind?_toJson (s : Source) : readKind? s.toJson.sorted = some s.pointerKind? := by
  rw [toJson, header]
  cases s.pointerKind? with
  | none => rfl
  | some kind =>
      show some <$> PointerKind.read? (.str kind.name) = _
      rw [PointerKind.read?_name]
      rfl

/-- **A source is read as the kind of its device and what was told of its interactions.** -/
theorem read?_toJson (s : Source) :
    read? s.toJson.sorted = some (s.pointerKind?, s.actions.map Interaction.told) := by
  rw [read?, readKind?_toJson, readActions?_toJson]
  rfl

end Source

/-! ## Timelines and their sources -/

/-- What a timeline holds whoever its device is: the kind of the device and its interactions. -/
def Timeline.content (t : Timeline) : Option PointerKind × List Interaction :=
  (t.device.pointerKind?, t.steps)

namespace Source

/-- What a source holds besides its id. -/
def content (s : Source) : Option PointerKind × List Interaction := (s.pointerKind?, s.actions)

/-- The source of an id and a content. -/
def ofContent (id : String) (c : Option PointerKind × List Interaction) : Source := ⟨id, c.1, c.2⟩

/-- Whatever ids are chosen, sources hold what their timelines do. -/
theorem map_content_assign (taken : List String) (ts : List Timeline) :
    (assign taken ts).map content = ts.map Timeline.content := by
  induction ts generalizing taken with
  | nil => rfl
  | cons t ts ih =>
      rw [assign, List.map_cons, List.map_cons, ih]
      rfl

/-- Sources are contents under ids. -/
theorem eq_zipWith_ofContent (ss : List Source) :
    ss = List.zipWith ofContent (ss.map Source.id) (ss.map content) := by
  induction ss with
  | nil => rfl
  | cons s ss ih =>
      rw [List.map_cons, List.map_cons, List.zipWith_cons_cons, ← ih]
      rfl

/-- The sources of timelines are their contents under the ids chosen for them. -/
theorem ofTimelines_eq_zipWith (ts : List Timeline) :
    ofTimelines ts = List.zipWith ofContent (ids ts) (ts.map Timeline.content) := by
  have hcontent : (ofTimelines ts).map content = ts.map Timeline.content :=
    map_content_assign [] ts
  rw [← hcontent]
  exact eq_zipWith_ofContent (ofTimelines ts)

end Source

/-! ## Payloads -/

namespace Plan

/-- Every time in a plan is one of whole milliseconds, of which there are fewer than 2^64. -/
def WholeMillis (p : Plan) : Prop := ∀ t ∈ p.timelines, ∀ i ∈ t.steps, i.WholeMillis

instance (p : Plan) : Decidable p.WholeMillis :=
  inferInstanceAs (Decidable (∀ t ∈ p.timelines, ∀ i ∈ t.steps, i.WholeMillis))

/-- The payload of a plan lists its sources. -/
theorem sources_toValue (p : Plan) :
    p.toValue.sources = p.sources.map fun s => s.toJson.sorted := by
  have hitems : p.sources.map (fun s => s.toJson.sorted)
      = Json.sortedItems (p.sources.map Source.toJson) := by
    rw [Json.sortedItems_eq_map, List.map_map]
    rfl
  rw [hitems]
  rfl

/-- The payload of a plan is read as what was told of its timelines. -/
theorem map_read?_sources_toValue (p : Plan) :
    p.toValue.sources.map Source.read?
      = p.timelines.map fun t => some (t.device.pointerKind?, t.steps.map Interaction.told) := by
  have hread : Source.read? ∘ (fun s : Source => s.toJson.sorted)
      = (fun c => some (c.1, c.2.map Interaction.told)) ∘ Source.content := by
    funext s
    exact s.read?_toJson
  rw [sources_toValue, List.map_map, hread, ← List.map_map, sources, Source.ofTimelines,
    Source.map_content_assign, List.map_map]
  rfl

/-- Where all times are whole milliseconds, the payload is read as what the timelines hold. -/
theorem WholeMillis.map_read?_sources {p : Plan} (hp : p.WholeMillis) :
    p.toValue.sources.map Source.read? = (p.timelines.map Timeline.content).map some := by
  rw [map_read?_sources_toValue, List.map_map]
  refine List.map_congr_left fun t ht => ?_
  have htold : t.steps.map Interaction.told = t.steps.map id :=
    List.map_congr_left fun i hi => (hp t ht i hi).told_eq
  rw [htold, List.map_id]
  rfl

/-- Timelines hold the same when they are as many, of the same kinds of device and with the same
    interactions. -/
theorem map_content_eq_iff (ts us : List Timeline) :
    ts.map Timeline.content = us.map Timeline.content
      ↔ List.Forall₂ (fun t u => t.device.pointerKind? = u.device.pointerKind?
          ∧ t.steps = u.steps) ts us := by
  rw [← List.forall₂_eq_eq_eq, List.forall₂_map_left_iff, List.forall₂_map_right_iff]
  simp only [Timeline.content, Prod.mk.injEq]

/-- **A payload tells everything but parts of milliseconds and whose the timelines are.**  Plans
    whose times are whole milliseconds have the same payload exactly if they have as many
    timelines, one by one of the same kind of device and with the same interactions, and these
    are given the same ids. -/
theorem toValue_eq_iff (p q : Plan) (hp : p.WholeMillis) (hq : q.WholeMillis) :
    p.toValue = q.toValue
      ↔ List.Forall₂ (fun t u => t.device.pointerKind? = u.device.pointerKind?
            ∧ t.steps = u.steps) p.timelines q.timelines
        ∧ p.toValue.sourceIds = q.toValue.sourceIds := by
  rw [← map_content_eq_iff]
  constructor
  · intro h
    have hread := hp.map_read?_sources
    rw [h, hq.map_read?_sources] at hread
    have hcontent := List.map_injective_iff.mpr (fun _ _ => Option.some.inj) hread
    exact ⟨hcontent.symm, congrArg Json.sourceIds h⟩
  · rintro ⟨hcontent, hids⟩
    rw [Source.sourceIds_toValue, Source.sourceIds_toValue] at hids
    have hids' := List.map_injective_iff.mpr (fun _ _ => Json.str.inj) hids
    have hsources : p.sources = q.sources := by
      rw [sources, sources, Source.ofTimelines_eq_zipWith, Source.ofTimelines_eq_zipWith, hids',
        hcontent]
    rw [toValue, toValue, toJson, toJson, actionsJson, actionsJson, hsources]

/-- Two pens of one name, in plans of their own: only their identities differ. -/
theorem toValue_eq_iff_pens :
    let steps : List Interaction :=
      [.pointerMove (.ofMillis 18446744073709551615) (.element ⟨"pointer"⟩) (-2147483648) 7,
        .keyDown '"', .pause (.ofMillis 5), .pointerUp 4294967295]
    let p : Plan := ⟨[⟨.pointer ⟨.nth 2, some "pen", .pen, false⟩, steps⟩], []⟩
    let q : Plan := ⟨[⟨.pointer ⟨.nth 9, some "pen", .pen, true⟩, steps⟩], [.click]⟩
    (p.WholeMillis ∧ q.WholeMillis)
      ∧ (p.toValue = q.toValue
        ↔ List.Forall₂ (fun t u => t.device.pointerKind? = u.device.pointerKind?
              ∧ t.steps = u.steps) p.timelines q.timelines
          ∧ p.toValue.sourceIds = q.toValue.sourceIds) := by
  intro steps p q
  have hp : p.WholeMillis := by decide
  have hq : q.WholeMillis := by decide
  exact ⟨⟨hp, hq⟩, toValue_eq_iff p q hp hq⟩

/-- Half a millisecond more is not told. -/
example :
    (Plan.mk [⟨.keyboard Session.defaultKeyboard, [.pause ⟨1500000, by decide⟩]⟩] []).toValue
      = (Plan.mk [⟨.keyboard Session.defaultKeyboard, [.pause (.ofMillis 1)]⟩] []).toValue := rfl

end Plan

end GestureTimeline
