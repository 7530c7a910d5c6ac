import GestureTimeline.Proofs.Records
import GestureTimeline.Yaml.Files

/-! # The forms in which scripts are written

    A step is read off the slots of its fields, whether a mapping filled them or a list
    (`Step.ofSlots_of_told`).  All the ways to write one step are therefore read as that step: the
    mapping in any order, with what is absent as null or left out and with entries that no step
    knows, and the list that ends where only absent fields would follow.  A script is read step by
    step, and is no script if one of them is no step. -/

namespace GestureTimeline

open Datum (Told Gives Undoes IsUnknown)

/-! ## Fields of steps -/

/-- Elements are read back. -/
theorem ElementRef.undoes : Undoes decode encode where
  read_write _ := rfl
  read_null := rfl

/-- Offsets are read back. -/
theorem Datum.undoes_int32 : Undoes int32? ofInt32 where
  read_write := int32?_ofInt32
  read_null := rfl

/-- Milliseconds are read back. -/
theorem Datum.undoes_uint64 : Undoes uint64? ofUInt64 where
  read_write := uint64?_ofUInt64
  read_null := rfl

namespace KeyInput

/-- A mapping is a named key and a text is literal, so neither is taken for the other. -/
theorem undoes : Undoes decode encode where
  read_write key := by
    cases key with
    | named key =>
        have hslots : Datum.entrySlots fieldNames [(.str "key", .str key.name)]
            = some [some (.str key.name)] := rfl
        have hkey : Key.decode (.str key.name) = some key := Key.ofName?_name key
        show (Datum.entrySlots fieldNames [(.str "key", .str key.name)] >>= _) = _
        rw [hslots]
        show named <$> Key.decode (.str key.name) = _
        rw [hkey]
        rfl
    | text content => rfl
  read_null := rfl

/-- Lists of keys are read back key by key. -/
theorem undoes_list : Undoes decodeList encodeList where
  read_write keys := by
    have hread : (keys.map encode).map decode = keys.map some := by
      rw [List.map_map]
      exact List.map_congr_left fun key _ => undoes.read_write key
    exact mapM_eq_some_iff_map_eq.mpr hread
  read_null := rfl

end KeyInput

namespace Step

/-- Every field of a step has its value. -/
theorem length_fieldData (s : Step) : s.fieldData.length = s.action.fieldNames.length := by
  cases s <;> rfl

/-- No field is named twice, and none like the action. -/
theorem nodup_fieldNames (a : StepAction) : (actionKey :: a.fieldNames).Nodup := by
  cases a <;> decide

/-- **A step is read off slots that tell its fields.** -/
theorem ofSlots_of_told {s : Step} {slots : List (Option Datum)}
    (h : List.Forall₂ Told s.fieldData slots) : ofSlots s.action slots = some s := by
  cases s with
  | click on | doubleClick on | contextClick on | clickAndHold on | release on =>
      obtain _ | ⟨hon, _ | _⟩ := h
      rw [action, ofSlots, ofElementSlot, ElementRef.undoes.optional hon]
      rfl
  | moveToElement element x y =>
      obtain _ | ⟨helement, _ | ⟨hx, _ | ⟨hy, _ | _⟩⟩⟩ := h
      rw [action, ofSlots, ElementRef.undoes.required helement,
        Datum.undoes_int32.optional hx, Datum.undoes_int32.optional hy]
      rfl
  | moveByOffset x y =>
      obtain _ | ⟨hx, _ | ⟨hy, _ | _⟩⟩ := h
      rw [action, ofSlots, Datum.undoes_int32.required hx, Datum.undoes_int32.required hy]
      rfl
  | keyDown value on | keyUp value on =>
      obtain _ | ⟨hvalue, _ | ⟨hon, _ | _⟩⟩ := h
      rw [action, ofSlots, ofKeySlots, KeyInput.undoes.required hvalue,
        ElementRef.undoes.optional hon]
      rfl
  | sendKeys keys into =>
      obtain _ | ⟨hkeys, _ | ⟨hinto, _ | _⟩⟩ := h
      rw [action, ofSlots, KeyInput.undoes_list.required hkeys,
        ElementRef.undoes.optional hinto]
      rfl
  | dragAndDrop source target =>
      obtain _ | ⟨hsource, _ | ⟨htarget, _ | _⟩⟩ := h
      rw [action, ofSlots, ElementRef.undoes.required hsource,
        ElementRef.undoes.required htarget]
      rfl
  | dragAndDropBy source x y =>
      obtain _ | ⟨hsource, _ | ⟨hx, _ | ⟨hy, _ | _⟩⟩⟩ := h
      rw [action, ofSlots, ElementRef.undoes.required hsource,
        Datum.undoes_int32.required hx, Datum.undoes_int32.required hy]
      rfl
  | pause ms =>
      obtain _ | ⟨hms, _ | _⟩ := h
      rw [action, ofSlots, Datum.undoes_uint64.required hms]
      rfl

/-! ## The two forms of a step -/

/-- The entries of a mapping write a step: in some order they name its action, give each field or
    leave it out where it is null, and are otherwise named like no field. -/
def IsMapping (s : Step) (entries : List (Datum × Datum)) : Prop :=
  ∃ slots, List.Forall₂ Told s.fieldData slots
    ∧ Gives (actionKey :: s.action.fieldNames) (some (.str s.action.name) :: slots) entries

/-- The items of a list write a step: its action, and then its fields in order, of which the last
    ones are left out if they are null. -/
def IsListing (s : Step) (items : List Datum) : Prop :=
  ∃ given, items = .str s.action.name :: s.fieldData.take given
    ∧ ∀ d ∈ s.fieldData.drop given, d = .null

/-- An entry names the action exactly if it has that key. -/
theorem isActionEntry_iff {e : Datum × Datum} :
    isActionEntry e = true ↔ e.1 = .str actionKey := by
  obtain ⟨key, d⟩ := e
  cases key with
  | str name => simp [isActionEntry]
  | null | bool _ | natural _ | negative _ | float _ | list _ | map _ => simp [isActionEntry]

/-- The one item that passes a test is found at any place, and the others are left. -/
theorem exists_partition_of_perm {α : Type} {p : α → Bool} {a : α} {as rest : List α}
    (h : as.Perm (a :: rest)) (ha : p a = true) (hrest : ∀ b ∈ rest, p b = false) :
    ∃ others, as.partition p = ([a], others) ∧ others.Perm rest := by
  have hfound : (a :: rest).filter p = [a] := by
    rw [List.filter_cons_of_pos ha, List.filter_eq_nil_iff.mpr]
    exact fun b hb => Bool.eq_false_iff.mp (hrest b hb)
  have hleft : (a :: rest).filter (not ∘ p) = rest := by
    rw [List.filter_cons_of_neg (by simp [ha]), List.filter_eq_self.mpr]
    intro b hb
    simp [hrest b hb]
  refine ⟨as.filter (not ∘ p), ?_, (h.filter _).trans (List.Perm.of_eq hleft)⟩
  rw [List.partition_eq_filter_filter,
    List.perm_singleton.mp ((h.filter p).trans (List.Perm.of_eq hfound))]

/-- The action is found at any place of a mapping, and what is left gives the fields. -/
theorem exists_partition_of_gives {names : List String} (hnames : actionKey ∉ names) {d : Datum}
    {slots : List (Option Datum)} {entries : List (Datum × Datum)}
    (h : Gives (actionKey :: names) (some d :: slots) entries) :
    ∃ fields, entries.partition isActionEntry = ([(.str actionKey, d)], fields)
      ∧ Gives names slots fields := by
  obtain ⟨unknown, hunknown, hperm⟩ := h
  have hothers : ∀ e ∈ Datum.givenEntries names slots ++ unknown, isActionEntry e = false := by
    intro e he
    rw [Bool.eq_false_iff, ne_eq, isActionEntry_iff]
    intro hkey
    rcases List.mem_append.mp he with hgiven | hother
    · obtain ⟨name, hname, heq⟩ := Datum.exists_name_of_mem_givenEntries hgiven
      exact hnames (Datum.str.inj (heq.symm.trans hkey) ▸ hname)
    · obtain ⟨name, heq, hname⟩ := hunknown e hother
      exact hname (Datum.str.inj (heq.symm.trans hkey) ▸ List.mem_cons_self)
  obtain ⟨fields, hpartition, hfields⟩ :=
    exists_partition_of_perm hperm (isActionEntry_iff.mpr rfl) hothers
  refine ⟨fields, hpartition, unknown, fun e he => ?_, hfields⟩
  obtain ⟨name, heq, hname⟩ := hunknown e he
  exact ⟨name, heq, fun hin => hname (List.mem_cons_of_mem _ hin)⟩

/-- A mapping that writes a step is read as that step. -/
theorem IsMapping.decode_eq {s : Step} {entries : List (Datum × Datum)} (h : s.IsMapping entries) :
    decode (.map entries) = some s := by
  obtain ⟨slots, htold, hgives⟩ := h
  obtain ⟨haction, hnames⟩ := List.nodup_cons.mp (nodup_fieldNames s.action)
  obtain ⟨fields, hpartition, hfields⟩ := exists_partition_of_gives haction hgives
  have hlength : slots.length = s.action.fieldNames.length :=
    htold.length_eq.symm.trans s.length_fieldData
  have hnamed : actionOf? (.str s.action.name) = some s.action :=
    StepAction.ofName?_name s.action
  have hdecode : decode (.map entries) = (do
      let action ← actionOf? (.str s.action.name)
      ofSlots action (← Datum.entrySlots action.fieldNames fields)) := by
    rw [decode, hpartition]
  rw [hdecode, hnamed]
  show (Datum.entrySlots s.action.fieldNames fields >>= ofSlots s.action) = _
  rw [hfields.entrySlots_eq hnames hlength]
  exact ofSlots_of_told htold

/-- A list that writes a step is read as that step. -/
theorem IsListing.decode_eq {s : Step} {items : List Datum} (h : s.IsListing items) :
    decode (.list items) = some s := by
  obtain ⟨given, rfl, hnull⟩ := h
  obtain ⟨slots, hslots, htold⟩ := Datum.exists_itemSlots s.length_fieldData hnull
  have hnamed : actionOf? (.str s.action.name) = some s.action :=
    StepAction.ofName?_name s.action
  rw [decode, hnamed]
  show (Datum.itemSlots s.action.fieldNames (s.fieldData.take given) >>= ofSlots s.action) = _
  rw [hslots]
  exact ofSlots_of_told htold

end Step

/-! ## Scripts -/

namespace Script

/-- The entries of a mapping write a script whose steps are to be read off a list. -/
def IsMapping (ds : List Datum) (entries : List (Datum × Datum)) : Prop :=
  Gives fieldNames [some (.list ds)] entries

/-- A mapping with a list of steps is read as the script of the steps that are read. -/
theorem IsMapping.decode_eq {ds : List Datum} {entries : List (Datum × Datum)}
    (h : IsMapping ds entries) : decode (.map entries) = mk <$> decodeSteps ds := by
  have hslots : Datum.slots fieldNames (.map entries) = some [some (.list ds)] :=
    h.entrySlots_eq (by decide) rfl
  rw [decode, hslots]
  rfl

/-- A script is loaded from data that are read as one with a step. -/
theorem load_eq_ok_iff {path : String} {d : Option Datum} {script : Script} :
    load path d = .ok script ↔ d.bind decode = some script ∧ script.steps ≠ [] := by
  rw [load]
  cases d.bind decode with
  | none => simp
  | some s =>
      cases hs : s.steps with
      | nil =>
          simp only [hs, List.isEmpty_nil, if_true, Option.some.injEq, reduceCtorEq, false_iff]
          rintro ⟨rfl, hne⟩
          exact hne hs
      | cons st steps =>
          simp only [hs, List.isEmpty_cons, Bool.false_eq_true, if_false, Except.ok.injEq,
            Option.some.injEq]
          constructor
          · rintro rfl
            exact ⟨rfl, hs ▸ List.cons_ne_nil st steps⟩
          · exact And.left

/-- From a mapping with a list of steps a script is loaded exactly if the list is not empty and
    all of it is read, and then the script has what is read, item by item. -/
theorem IsMapping.load_eq_ok_iff {ds : List Datum} {entries : List (Datum × Datum)}
    (h : IsMapping ds entries) {path : String} {script : Script} :
    load path (some (.map entries)) = .ok script
      ↔ ds ≠ [] ∧ ds.map Step.decode = script.steps.map some := by
  obtain ⟨steps⟩ := script
  have hdecode : decode (.map entries) = some ⟨steps⟩ ↔ ds.map Step.decode = steps.map some := by
    rw [h.decode_eq, ← mapM_eq_some_iff_map_eq]
    show mk <$> decodeSteps ds = some ⟨steps⟩ ↔ decodeSteps ds = some steps
    cases decodeSteps ds with
    | none => simp
    | some read => simp
  have hempty : ds.map Step.decode = steps.map some → (steps ≠ [] ↔ ds ≠ []) := by
    intro heq
    have hnil : ds.map Step.decode = [] ↔ steps.map some = [] := by rw [heq]
    rw [List.map_eq_nil_iff, List.map_eq_nil_iff] at hnil
    exact (not_congr hnil).symm
  rw [Script.load_eq_ok_iff, Option.bind_some, hdecode]
  constructor
  · rintro ⟨heq, hne⟩
    exact ⟨(hempty heq).mp hne, heq⟩
  · rintro ⟨hne, heq⟩
    exact ⟨heq, (hempty heq).mpr hne⟩

end Script

/-! ## Texts -/

namespace Yaml

/-- Whatever a reader gives has a property. -/
def Yields {α : Type} (m : DataReader α) (P : α → Prop) : Prop :=
  ∀ aliases n a n', (m.run aliases).run n = some (a, n') → P a

section

variable {α β : Type} {P : α → Prop} {Q : β → Prop}

theorem yields_pure {a : α} (h : P a) : Yields (pure a) P := by
  intro aliases n b n' hrun
  obtain ⟨rfl, -⟩ := Prod.mk.inj (Option.some.inj hrun)
  exact h

theorem yields_failure : Yields (failure : DataReader α) P :=
  fun _ _ _ _ hrun => nomatch hrun

theorem yields_true (m : DataReader α) : Yields m fun _ => True := fun _ _ _ _ _ => trivial

theorem Yields.bind {m : DataReader α} {f : α → DataReader β} (hm : Yields m P)
    (hf : ∀ a, P a → Yields (f a) Q) : Yields (m >>= f) Q := by
  intro aliases n b n' hrun
  rw [ReaderT.run_bind, StateT.run_bind] at hrun
  obtain ⟨⟨a, k⟩, hfirst, hrest⟩ := Option.bind_eq_some_iff.mp hrun
  exact hf a (hm aliases n a k hfirst) aliases k b n' hrest

theorem yields_mapM {f : α → DataReader β} (hf : ∀ a, Yields (f a) Q) (as : List α) :
    Yields (as.mapM f) fun bs => ∀ b ∈ bs, Q b := by
  induction as with
  | nil =>
      rw [List.mapM_nil]
      exact yields_pure fun b hb => nomatch hb
  | cons a as ih =>
      rw [List.mapM_cons]
      refine (hf a).bind fun b hb => ih.bind fun bs hbs => yields_pure ?_
      intro c hc
      rcases List.mem_cons.mp hc with rfl | hc
      · exact hb
      · exact hbs c hc

end

theorem yields_text (depth : Nat) (n : Node) : Yields (text depth n) fun d => ∃ s, d = .str s := by
  refine (yields_true _).bind fun node _ => ?_
  cases node with
  | scalar _ _ s => exact yields_pure ⟨_, rfl⟩
  | sequence _ _ | mapping _ _ | reference _ => exact yields_failure

/-- The key of an entry is read as a text, whether its name is known or not. -/
theorem yields_entry (fields : List (String × Form)) (depth : Nat) (e : Node × Node) :
    Yields (entry fields depth e) fun f => ∃ s, f.1 = .str s := by
  refine (yields_text depth e.1).bind fun key hkey => ?_
  split
  · exact (yields_true _).bind fun d _ => yields_pure hkey
  · exact yields_pure hkey

/-- A record is read as a mapping whose keys are texts. -/
theorem yields_record (fields : List (String × Form)) (depth : Nat) (n : Node) :
    Yields (record fields depth n) fun d =>
      ∃ entries, d = .map entries ∧ ∀ e ∈ entries, ∃ s, e.1 = .str s := by
  refine (yields_true _).bind fun node _ => ?_
  split
  · exact yields_pure ⟨[], rfl, fun e he => nomatch he⟩
  · split
    · refine (yields_mapM (yields_entry fields _) _).bind fun entries hkeys => ?_
      exact yields_pure ⟨entries, rfl, hkeys⟩
    · exact yields_failure

/-- The data of a text that writes a script are a mapping whose keys are texts. -/
theorem exists_entries_of_read? {source : String} {d : Datum}
    (h : read? script source = some d) :
    ∃ entries, d = .map entries ∧ ∀ e ∈ entries, ∃ s, e.1 = .str s := by
  rw [read?] at h
  obtain ⟨root, -, h⟩ := Option.bind_eq_some_iff.mp h
  obtain ⟨⟨d', n⟩, hrun, hd⟩ := Option.bind_eq_some_iff.mp h
  obtain rfl := Option.some.inj hd
  exact yields_record _ _ _ _ _ _ _ hrun

end Yaml

namespace Script

/-- What is read as a script has a list of steps. -/
theorem exists_isMapping_of_decode {entries : List (Datum × Datum)}
    (hkeys : ∀ e ∈ entries, ∃ s, e.1 = .str s) {script : Script}
    (h : decode (.map entries) = some script) : ∃ ds, IsMapping ds entries := by
  obtain ⟨slots, hslots, hsteps⟩ := Option.bind_eq_some_iff.mp h
  obtain _ | ⟨slot, _ | _⟩ := slots
  · exact nomatch hsteps
  · obtain ⟨ds, hlist, -⟩ := Option.bind_eq_some_iff.mp hsteps
    obtain ⟨d, rfl, hd⟩ := Option.bind_eq_some_iff.mp hlist
    cases d with
    | list items => exact ⟨items, Datum.gives_of_entrySlots_singleton hkeys hslots⟩
    | null | bool _ | natural _ | negative _ | float _ | str _ | map _ => exact nomatch hd
  · exact nomatch hsteps

/-- A text is parsed as a script exactly if it is read as a mapping with a list of steps that is
    not empty and of which all is read; the steps of the script are what is read. -/
theorem parse_eq_ok_iff {source path : String} {script : Script} :
    parse source path = .ok script
      ↔ ∃ ds entries, Yaml.read? Yaml.script source = some (.map entries) ∧ IsMapping ds entries
        ∧ ds ≠ [] ∧ ds.map Step.decode = script.steps.map some := by
  rw [parse]
  constructor
  · intro h
    cases hread : Yaml.read? Yaml.script source with
    | none =>
        rw [hread] at h
        exact nomatch h
    | some d =>
        rw [hread] at h
        obtain ⟨entries, rfl, hkeys⟩ := Yaml.exists_entries_of_read? hread
        obtain ⟨ds, hmapping⟩ := exists_isMapping_of_decode hkeys (load_eq_ok_iff.mp h).1
        exact ⟨ds, entries, rfl, hmapping, hmapping.load_eq_ok_iff.mp h⟩
  · rintro ⟨ds, entries, hread, hmapping, hsteps⟩
    rw [hread]
    exact hmapping.load_eq_ok_iff.mpr hsteps

end Script

/-! ## What is read -/

namespace Script

/-- **The forms of a step are read alike, and a script is read step by step.**  A mapping and a
    list that write a step are read as that step.  From a mapping with a list of steps a script is
    loaded exactly if the list is not empty and each item of it is read, and its steps are what is
    read; no text but one that is read as such a mapping is parsed. -/
theorem written_forms_read :
    (∀ (s : Step) entries, s.IsMapping entries → Step.decode (.map entries) = some s)
      ∧ (∀ (s : Step) items, s.IsListing items → Step.decode (.list items) = some s)
      ∧ (∀ ds entries path script, IsMapping ds entries →
        (load path (some (.map entries)) = .ok script
          ↔ ds ≠ [] ∧ ds.map Step.decode = script.steps.map some))
      ∧ ∀ source path script, parse source path = .ok script
        ↔ ∃ ds entries, Yaml.read? Yaml.script source = some (.map entries)
          ∧ IsMapping ds entries ∧ ds ≠ [] ∧ ds.map Step.decode = script.steps.map some := by
  refine ⟨?_, ?_, ?_, ?_⟩
  · intro s entries h
    exact h.decode_eq
  · intro s items h
    exact h.decode_eq
  · intro ds entries path script h
    exact h.load_eq_ok_iff
  · intro source path script
    exact parse_eq_ok_iff

/-- A move without a horizontal offset, as a mapping that ends with its action and has entries of
    other names, and as a list. -/
theorem written_forms_read_move :
    let s : Step := .moveToElement ⟨"menu"⟩ none (some (-3))
    let entries : List (Datum × Datum) :=
      [(.str "why", .null), (.str "on", .bool true), (.str "y", .negative (-3)),
        (.str "element", .str "menu"), (.str "action", .str "move_to_element")]
    let items : List Datum := [.str "move_to_element", .str "menu", .null, .negative (-3)]
    let file : List (Datum × Datum) :=
      [(.str "steps", .list [.map entries, .list items]), (.str "version", .natural 2)]
    (s.IsMapping entries ∧ s.IsListing items ∧ IsMapping [.map entries, .list items] file)
      ∧ Step.decode (.map entries) = some s ∧ Step.decode (.list items) = some s
      ∧ (load "menu.yaml" (some (.map file)) = .ok ⟨[s, s]⟩
        ↔ [Datum.map entries, .list items] ≠ []
          ∧ [Datum.map entries, .list items].map Step.decode = [s, s].map some) := by
  intro s entries items file
  have hmapping : s.IsMapping entries := by
    refine ⟨[some (.str "menu"), none, some (.negative (-3))], ?_, ?_⟩
    · exact .cons (Or.inl rfl) (.cons (Or.inr ⟨rfl, rfl⟩) (.cons (Or.inl rfl) .nil))
    · refine ⟨[(.str "on", .bool true), (.str "why", .null)], ?_, List.reverse_perm entries |>.symm⟩
      simp only [List.forall_mem_cons]
      exact ⟨⟨"on", rfl, by decide⟩, ⟨"why", rfl, by decide⟩, nofun⟩
  have hlisting : s.IsListing items := ⟨3, rfl, nofun⟩
  have hfile : IsMapping [.map entries, .list items] file := by
    refine ⟨[(.str "version", .natural 2)], ?_, List.Perm.refl _⟩
    simp only [List.forall_mem_cons]
    exact ⟨⟨"version", rfl, by decide⟩, nofun⟩
  obtain ⟨hmap, hlist, hload, -⟩ := written_forms_read
  exact ⟨⟨hmapping, hlisting, hfile⟩, hmap s entries hmapping, hlist s items hlisting,
    hload _ file "menu.yaml" ⟨[s, s]⟩ hfile⟩

end Script

end GestureTimeline
