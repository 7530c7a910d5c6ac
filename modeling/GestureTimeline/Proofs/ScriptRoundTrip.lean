import GestureTimeline.Proofs.ScriptForms

/-! # Scripts read back

    A script is written as data, or as the JSON value of its data, whose objects are kept in the
    order of their keys.  Both are read as the script that was written.  The data of a step are one
    of the mappings that write it, with every field given, and its JSON value holds the same
    entries in another order (`Step.exists_isMapping_ofJson`), so both are cases of reading such a
    mapping.  What is left to show is that the values in the fields survive the way through JSON,
    which has one kind of whole number where data have two. -/

namespace GestureTimeline

/-! ## Data read back from JSON -/

namespace Datum

/-- A datum is read back from its JSON value when that is kept sorted. -/
def SurvivesJson (d : Datum) : Prop := ofJson d.toJson.sorted = d

theorem survivesJson_uint64 (n : UInt64) : (ofUInt64 n).SurvivesJson := by
  have hlt : n.toNat < UInt64.size := n.toNat_lt
  have hdatum : ofInt? (n.toNat : Int) = some (natural n) := by
    rw [ofInt?, if_pos (Int.natCast_nonneg _), Int.toNat_natCast, if_pos hlt, UInt64.ofNat_toNat]
  show (ofInt? (n.toNat : Int)).getD _ = natural n
  rw [hdatum, Option.getD_some]

theorem survivesJson_int32 (n : Int32) : (ofInt32 n).SurvivesJson := by
  rw [ofInt32]
  by_cases hneg : n < 0
  · rw [if_pos hneg]
    have hlo := Int32.le_toInt n
    have hn : n.toInt < 0 := by
      rw [Int32.lt_iff_toInt_lt] at hneg
      simpa using hneg
    have hdatum : ofInt? n.toInt64.toInt = some (negative n.toInt64) := by
      rw [Int32.toInt_toInt64, ofInt?, if_neg (by omega), if_pos (by omega),
        ← Int32.toInt_toInt64, Int64.ofInt_toInt]
    show (ofInt? n.toInt64.toInt).getD _ = negative n.toInt64
    rw [hdatum, Option.getD_some]
  · rw [if_neg hneg]
    exact survivesJson_uint64 _

theorem survivesJson_option {α : Type} {write : α → Datum}
    (h : ∀ a, (write a).SurvivesJson) (a : Option α) : (ofOption write a).SurvivesJson := by
  cases a with
  | none => rfl
  | some a => exact h a

theorem ofJson_sorted_list (ds : List Datum) :
    ofJson (toJson (list ds)).sorted = list (ds.map fun d => ofJson d.toJson.sorted) := by
  rw [toJson, Json.sorted, ofJson, toItems_eq_map, Json.sortedItems_eq_map, ofItems_eq_map,
    List.map_map, List.map_map]
  rfl

/-- A record whose fields are read back is read back in some order. -/
theorem exists_ofJson_record (fields : List (String × Datum))
    (hkeys : (fields.map Prod.fst).Nodup) (h : ∀ f ∈ fields, f.2.SurvivesJson) :
    ∃ entries, ofJson (record fields).toJson.sorted = map entries
      ∧ entries.Perm (fields.map fun f => (str f.1, f.2)) := by
  refine ⟨_, by rw [toJson_record, Json.sorted, ofJson], ?_⟩
  have hnames : ((fields.map fun f => (f.1, f.2.toJson)).map Prod.fst).Nodup := by
    rw [List.map_map]
    exact hkeys
  rw [ofFields_eq_map]
  refine ((Json.sortedFields_perm hnames).map _).trans (List.Perm.of_eq ?_)
  rw [List.map_map, List.map_map]
  refine List.map_congr_left fun f hf => ?_
  show (str f.1, ofJson f.2.toJson.sorted) = (str f.1, f.2)
  rw [h f hf]

/-- A record of one field that is read back is read back as it is. -/
theorem survivesJson_singleton {name : String} {d : Datum} (h : d.SurvivesJson) :
    (record [(name, d)]).SurvivesJson := by
  obtain ⟨entries, hread, hperm⟩ := exists_ofJson_record [(name, d)] (by simp) (by simpa using h)
  rw [SurvivesJson, hread, List.perm_singleton.mp hperm]
  rfl

end Datum

/-- Keys are read back from JSON. -/
theorem KeyInput.survivesJson_encode (key : KeyInput) : key.encode.SurvivesJson := by
  cases key with
  | named key => exact Datum.survivesJson_singleton rfl
  | text content => rfl

theorem KeyInput.survivesJson_encodeList (keys : List KeyInput) :
    (encodeList keys).SurvivesJson := by
  rw [encodeList, Datum.SurvivesJson, Datum.ofJson_sorted_list, List.map_map]
  exact congrArg _ (List.map_congr_left fun key _ => key.survivesJson_encode)

namespace Step

/-- The values of all fields are read back from JSON. -/
theorem survivesJson_of_mem_fieldData {s : Step} {d : Datum} (h : d ∈ s.fieldData) :
    d.SurvivesJson := by
  have helement : ∀ e : ElementRef, e.encode.SurvivesJson := fun _ => rfl
  have hoption := Datum.survivesJson_option helement
  have hoffset := Datum.survivesJson_option Datum.survivesJson_int32
  revert d
  cases s with
  | click | doubleClick | contextClick | clickAndHold | release => simp [fieldData, hoption]
  | moveToElement => simp [fieldData, helement, hoffset]
  | moveByOffset => simp [fieldData, Datum.survivesJson_int32]
  | keyDown | keyUp => simp [fieldData, KeyInput.survivesJson_encode, hoption]
  | sendKeys => simp [fieldData, KeyInput.survivesJson_encodeList, hoption]
  | dragAndDrop => simp [fieldData, helement]
  | dragAndDropBy => simp [fieldData, helement, Datum.survivesJson_int32]
  | pause => simp [fieldData, Datum.survivesJson_uint64]

/-- The data of a step are a mapping that writes it, with every field given. -/
theorem exists_isMapping_encode (s : Step) :
    ∃ entries, s.encode = .map entries ∧ s.IsMapping entries := by
  refine ⟨_, rfl, s.fieldData.map some, ?_, ?_⟩
  · rw [List.forall₂_map_right_iff, List.forall₂_same]
    exact fun d _ => Or.inl rfl
  · exact Datum.gives_zip (actionKey :: s.action.fieldNames) (.str s.action.name :: s.fieldData)

/-- The JSON value of a step is a mapping that writes it, in the order of the keys. -/
theorem exists_isMapping_ofJson (s : Step) :
    ∃ entries, Datum.ofJson s.encode.toJson.sorted = .map entries ∧ s.IsMapping entries := by
  let fields : List (String × Datum) :=
    (actionKey, .str s.action.name) :: s.action.fieldNames.zip s.fieldData
  have hkeys : (fields.map Prod.fst).Nodup := by
    have hnames : (s.action.fieldNames.zip s.fieldData).map Prod.fst = s.action.fieldNames :=
      List.map_fst_zip (Nat.le_of_eq s.length_fieldData.symm)
    rw [List.map_cons, hnames]
    exact nodup_fieldNames s.action
  have hvalues : ∀ f ∈ fields, f.2.SurvivesJson := by
    intro f hf
    rcases List.mem_cons.mp hf with rfl | hf
    · rfl
    · exact survivesJson_of_mem_fieldData (List.of_mem_zip hf).2
  obtain ⟨entries, hread, hperm⟩ := Datum.exists_ofJson_record _ hkeys hvalues
  obtain ⟨written, hwritten, slots, htold, unknown, hunknown, hgiven⟩ := s.exists_isMapping_encode
  obtain rfl : fields.map (fun f => (.str f.1, f.2)) = written := Datum.map.inj hwritten
  exact ⟨entries, hread, slots, htold, unknown, hunknown, hperm.trans hgiven⟩

end Step

/-! ## Scripts -/

namespace Script

/-- Steps that are read one by one make up the script that they were written from. -/
theorem decode_record_of_steps {s : Script} {write : Step → Datum}
    (h : ∀ st, Step.decode (write st) = some st) :
    decode (.record [("steps", .list (s.steps.map write))]) = some s := by
  have hmapping : IsMapping (s.steps.map write) [(.str "steps", .list (s.steps.map write))] :=
    Datum.gives_zip ["steps"] [.list (s.steps.map write)]
  have hsteps : decodeSteps (s.steps.map write) = some s.steps := by
    refine mapM_eq_some_iff_map_eq.mpr ?_
    rw [List.map_map]
    exact List.map_congr_left fun st _ => h st
  show decode (.map [(.str "steps", .list (s.steps.map write))]) = _
  rw [hmapping.decode_eq, hsteps]
  rfl

theorem decode_encode (s : Script) : decode s.encode = some s := by
  refine decode_record_of_steps fun st => ?_
  obtain ⟨entries, hencode, hmapping⟩ := st.exists_isMapping_encode
  rw [hencode]
  exact hmapping.decode_eq

theorem decode_ofJson_encode (s : Script) : decode (.ofJson s.encode.toJson.sorted) = some s := by
  have hvalue : Datum.ofJson s.encode.toJson.sorted
      = .record [("steps", .list (s.steps.map fun st => .ofJson st.encode.toJson.sorted))] := by
    have hsteps := Datum.ofJson_sorted_list (s.steps.map Step.encode)
    rw [List.map_map] at hsteps
    show Datum.map
      [(.str "steps", Datum.ofJson (Datum.list (s.steps.map Step.encode)).toJson.sorted)] = _
    rw [hsteps]
    rfl
  rw [hvalue]
  refine decode_record_of_steps fun st => ?_
  obtain ⟨entries, hread, hmapping⟩ := st.exists_isMapping_ofJson
  rw [hread]
  exact hmapping.decode_eq

/-- **Reading a script undoes writing it.**  The script is read back from its data and from their
    JSON value, and what was read back adds to any session what the script does. -/
theorem reading_undoes_writing (s : Script) :
    (decode s.encode = some s ∧ decode (.ofJson s.encode.toJson.sorted) = some s)
      ∧ ∀ session, (decode s.encode).map (fun r => r.apply session) = some (s.apply session)
        ∧ (decode (.ofJson s.encode.toJson.sorted)).map (fun r => r.apply session)
          = some (s.apply session) := by
  refine ⟨⟨s.decode_encode, s.decode_ofJson_encode⟩, fun session => ?_⟩
  rw [s.decode_encode, s.decode_ofJson_encode]
  exact ⟨rfl, rfl⟩

/-- A text that reads like the name of a key is written unlike that key. -/
example :
    (encode ⟨[.sendKeys [.text "enter", .named .enter] none]⟩).toJson
      = .obj [("steps", .arr [.obj [("action", .str "send_keys"),
          ("keys", .arr [.str "enter", .obj [("key", .str "enter")]]), ("to", .null)]])] :=
  rfl

end Script

end GestureTimeline
