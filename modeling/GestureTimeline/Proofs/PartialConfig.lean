import GestureTimeline.Config
import GestureTimeline.Proofs.ScriptRoundTrip

/-! # Configurations that are given in part

    A configuration is written as a mapping of sections, and a section as a mapping of fields.
    What is left out, at either level, has its default, and what is given is read or makes the
    whole configuration unreadable.  Each reader is therefore described once, by what it reads in
    every slot (`Policy.decode_eq_some_iff` and its like).  From left to right this says what a
    readable mapping cannot contain, and from right to left what a mapping is read as that gives
    some of the fields. -/

namespace GestureTimeline

open Datum (Gives Undoes orDefault)

/-! ## Fields with defaults -/

namespace Datum

/-- The slots of fields of which some are given, by their names. -/
def chosen (given : String → Bool) (names : List String) (ds : List Datum) :
    List (Option Datum) :=
  List.zipWith (fun name d => if given name then some d else none) names ds

/-- A mapping gives some fields of a record: in any order, with any unknown entries besides. -/
def GivesSome (names : List String) (ds : List Datum) (given : String → Bool) (d : Datum) :
    Prop :=
  ∃ entries, d = map entries ∧ Gives names (chosen given names ds) entries

/-- When all are given, every slot has its value. -/
theorem chosen_all (names : List String) {ds : List Datum} (h : names.length = ds.length) :
    chosen (fun _ => true) names ds = ds.map some := by
  induction names generalizing ds with
  | nil =>
      rw [List.length_eq_zero_iff.mp h.symm]
      rfl
  | cons name names ih =>
      cases ds with
      | nil => cases h
      | cons d ds =>
          have hrest := ih (Nat.succ.inj h)
          rw [chosen] at hrest ⊢
          rw [List.zipWith_cons_cons, hrest, if_pos rfl, List.map_cons]

section

variable {names : List String} {ds : List Datum} (hlength : names.length = ds.length)

include hlength

/-- A record gives all its fields. -/
theorem givesSome_record : GivesSome names ds (fun _ => true) (record (names.zip ds)) := by
  refine ⟨_, rfl, ?_⟩
  rw [chosen_all names hlength]
  exact gives_zip names ds

/-- So does its JSON value, in the order of the names. -/
theorem givesSome_ofJson (hnames : names.Nodup) (hvalues : ∀ d ∈ ds, d.SurvivesJson) :
    GivesSome names ds (fun _ => true) (ofJson (record (names.zip ds)).toJson.sorted) := by
  have hkeys : ((names.zip ds).map Prod.fst).Nodup := by
    rw [List.map_fst_zip (Nat.le_of_eq hlength)]
    exact hnames
  obtain ⟨entries, hread, hperm⟩ := exists_ofJson_record (names.zip ds) hkeys
    fun f hf => hvalues f.2 (List.of_mem_zip hf).2
  obtain ⟨written, hwritten, unknown, hunknown, hgiven⟩ := givesSome_record hlength
  obtain rfl := Datum.map.inj hwritten
  exact ⟨entries, hread, unknown, hunknown, hperm.trans hgiven⟩

end

theorem undoes_bool : Undoes bool? bool where
  read_write _ := rfl
  read_null := rfl

/-- A field with a default is read as what it is given, or as the default. -/
theorem Undoes.orDefault {α : Type} {read : Datum → Option α} {write : α → Datum}
    (h : Undoes read write) (default a : α) (given : Bool) :
    Datum.orDefault default read (if given = true then some (write a) else none)
      = some (if given = true then a else default) := by
  cases given with
  | true => exact h.read_write a
  | false => rfl

/-- A value that an entry gives to a field is what the field's slot holds, if the mapping is
    readable. -/
theorem getElem?_of_entrySlots {names : List String} {entries : List (Datum × Datum)}
    {slots : List (Option Datum)} (h : entrySlots names entries = some slots) {name : String}
    {d : Datum} (hentry : (str name, d) ∈ entries) {i : Nat} (hi : names.idxOf? name = some i) :
    slots[i]? = some (some d) := by
  have hlt : i < names.length := by
    obtain ⟨hlt, -⟩ := List.idxOf?_eq_some_iff.mp hi
    exact hlt
  have hvalue : d ∈ valuesAt names entries i :=
    List.mem_map_of_mem (List.mem_filter.mpr ⟨hentry, decide_eq_true hi⟩)
  rw [entrySlots] at h
  split at h
  · have hmap := congrArg (fun xs => xs[i]?) (mapM_eq_some_iff_map_eq.mp h)
    simp only [List.getElem?_map, List.getElem?_range hlt, Option.map_some] at hmap
    obtain ⟨slot, hslot, hfound⟩ := Option.map_eq_some_iff.mp hmap.symm
    -- the value is among those of the field, and there is at most one
    rw [eq_toList_of_atMostOne hfound.symm] at hvalue
    rw [hslot, Option.mem_toList.mp hvalue]
  · cases h

end Datum

/-! ## Types of fields -/

/-- The types that the fields of a section have. -/
inductive FieldType where
  | uint64
  | int32
  | flag
  deriving DecidableEq

/-- The data that a field of a type can be given: whole numbers in its range, or flags. -/
def FieldType.Admits : FieldType → Datum → Prop
  | uint64, d => ∃ n, d.whole? = some n ∧ 0 ≤ n ∧ n ≤ 18446744073709551615
  | int32, d => ∃ n, d.whole? = some n ∧ -2147483648 ≤ n ∧ n ≤ 2147483647
  | flag, d => ∃ b, d = .bool b

namespace Datum

theorem admits_of_uint64? {d : Datum} {m : UInt64} (h : d.uint64? = some m) :
    FieldType.uint64.Admits d := by
  obtain ⟨n, hn, hm⟩ := Option.bind_eq_some_iff.mp h
  have hle : n ≤ 18446744073709551615 := by
    cases d with
    | natural k =>
        obtain rfl := Option.some.inj hn
        have := k.toNat_lt
        omega
    | negative k =>
        obtain rfl := Option.some.inj hn
        have := k.toInt_lt
        omega
    | null | bool _ | float _ | str _ | list _ | map _ => cases hn
  by_cases hpos : 0 ≤ n
  · exact ⟨n, hn, hpos, hle⟩
  · rw [if_neg hpos] at hm
    cases hm

theorem admits_of_int32? {d : Datum} {m : Int32} (h : d.int32? = some m) :
    FieldType.int32.Admits d := by
  obtain ⟨n, hn, hm⟩ := Option.bind_eq_some_iff.mp h
  by_cases hrange : -2147483648 ≤ n ∧ n ≤ 2147483647
  · exact ⟨n, hn, hrange⟩
  · rw [int32OfInt?, if_neg hrange] at hm
    cases hm

theorem admits_of_bool? {d : Datum} {b : Bool} (h : d.bool? = some b) :
    FieldType.flag.Admits d := by
  cases d with
  | bool c => exact ⟨c, rfl⟩
  | null | natural _ | negative _ | float _ | str _ | list _ | map _ => cases h

end Datum

/-! ## Sections -/

namespace Policy

/-- The data of all fields, in order. -/
def fieldData (p : Policy) : List Datum :=
  [.ofUInt64 p.elementMoveMs, .ofUInt64 p.offsetMoveMs, .ofInt32 p.elementOffsetX,
    .ofInt32 p.elementOffsetY]

/-- The fields with their types. -/
def fieldTypes : List (String × FieldType) :=
  [("element_move_ms", .uint64), ("offset_move_ms", .uint64), ("element_offset_x", .int32),
    ("element_offset_y", .int32)]

/-- A policy in some fields, and the default in the others. -/
def kept (given : String → Bool) (p : Policy) : Policy where
  elementMoveMs := if given "element_move_ms" then p.elementMoveMs else 250
  offsetMoveMs := if given "offset_move_ms" then p.offsetMoveMs else 200
  elementOffsetX := if given "element_offset_x" then p.elementOffsetX else 1
  elementOffsetY := if given "element_offset_y" then p.elementOffsetY else 1

/-- Data give some fields of a policy: in any order, with any unknown entries besides. -/
def IsPartial (p : Policy) (given : String → Bool) (d : Datum) : Prop :=
  Datum.GivesSome fieldNames p.fieldData given d

/-- A policy is read field by field. -/
theorem decode_eq_some_iff {d : Datum} {p : Policy} :
    decode d = some p ↔ ∃ a b x y, d.slots fieldNames = some [a, b, x, y]
      ∧ orDefault 250 Datum.uint64? a = some p.elementMoveMs
      ∧ orDefault 200 Datum.uint64? b = some p.offsetMoveMs
      ∧ orDefault 1 Datum.int32? x = some p.elementOffsetX
      ∧ orDefault 1 Datum.int32? y = some p.elementOffsetY := by
  constructor
  · intro h
    obtain ⟨slots, hslots, h⟩ := Option.bind_eq_some_iff.mp h
    split at h
    · next a b x y =>
        obtain ⟨_, ha, h⟩ := Option.bind_eq_some_iff.mp h
        obtain ⟨_, hb, h⟩ := Option.bind_eq_some_iff.mp h
        obtain ⟨_, hx, h⟩ := Option.bind_eq_some_iff.mp h
        obtain ⟨_, hy, h⟩ := Option.bind_eq_some_iff.mp h
        obtain rfl := Option.some.inj h
        exact ⟨a, b, x, y, hslots, ha, hb, hx, hy⟩
    · cases h
  · rintro ⟨a, b, x, y, hslots, ha, hb, hx, hy⟩
    rw [decode, hslots]
    show (orDefault 250 Datum.uint64? a >>= fun _ => _) = _
    rw [ha]
    show (orDefault 200 Datum.uint64? b >>= fun _ => _) = _
    rw [hb]
    show (orDefault 1 Datum.int32? x >>= fun _ => _) = _
    rw [hx]
    show (orDefault 1 Datum.int32? y >>= fun _ => _) = _
    rw [hy]
    rfl

/-- Some fields of a policy are read as the policy in these fields. -/
theorem IsPartial.decode_eq {p : Policy} {given : String → Bool} {d : Datum}
    (h : p.IsPartial given d) : decode d = some (p.kept given) := by
  obtain ⟨entries, rfl, hgives⟩ := h
  have hslots := hgives.entrySlots_eq (by decide) rfl
  refine decode_eq_some_iff.mpr ⟨_, _, _, _, hslots, ?_, ?_, ?_, ?_⟩
  · exact Datum.undoes_uint64.orDefault 250 p.elementMoveMs _
  · exact Datum.undoes_uint64.orDefault 200 p.offsetMoveMs _
  · exact Datum.undoes_int32.orDefault 1 p.elementOffsetX _
  · exact Datum.undoes_int32.orDefault 1 p.elementOffsetY _

/-- All fields of a policy are given by its data. -/
theorem isPartial_encode (p : Policy) : p.IsPartial (fun _ => true) p.encode :=
  Datum.givesSome_record rfl

/-- All are given by its JSON value. -/
theorem isPartial_ofJson (p : Policy) :
    p.IsPartial (fun _ => true) (.ofJson p.encode.toJson.sorted) := by
  have hvalues : ∀ d ∈ p.fieldData, d.SurvivesJson := by
    simp only [fieldData, List.forall_mem_cons]
    exact ⟨Datum.survivesJson_uint64 _, Datum.survivesJson_uint64 _, Datum.survivesJson_int32 _,
      Datum.survivesJson_int32 _, List.forall_mem_nil _⟩
  exact Datum.givesSome_ofJson rfl (by decide) hvalues

/-- A policy that is read has only admitted values in its fields. -/
theorem admits_of_decode {entries : List (Datum × Datum)} {p : Policy}
    (h : decode (.map entries) = some p) {field : String} {type : FieldType}
    (hfield : (field, type) ∈ fieldTypes) {d : Datum} (hd : (.str field, d) ∈ entries) :
    type.Admits d := by
  obtain ⟨a, b, x, y, hslots, ha, hb, hx, hy⟩ := decode_eq_some_iff.mp h
  simp only [fieldTypes, List.mem_cons, List.not_mem_nil, or_false, Prod.mk.injEq] at hfield
  rcases hfield with ⟨rfl, rfl⟩ | ⟨rfl, rfl⟩ | ⟨rfl, rfl⟩ | ⟨rfl, rfl⟩
  · obtain rfl := Option.some.inj (Datum.getElem?_of_entrySlots hslots hd (i := 0) (by decide))
    exact Datum.admits_of_uint64? ha
  · obtain rfl := Option.some.inj (Datum.getElem?_of_entrySlots hslots hd (i := 1) (by decide))
    exact Datum.admits_of_uint64? hb
  · obtain rfl := Option.some.inj (Datum.getElem?_of_entrySlots hslots hd (i := 2) (by decide))
    exact Datum.admits_of_int32? hx
  · obtain rfl := Option.some.inj (Datum.getElem?_of_entrySlots hslots hd (i := 3) (by decide))
    exact Datum.admits_of_int32? hy

end Policy

namespace TargetSettings

/-- The data of all fields, in order. -/
def fieldData (t : TargetSettings) : List Datum :=
  [.bool t.synchronizedActions, .bool t.legacyDevices]

/-- The fields with their types. -/
def fieldTypes : List (String × FieldType) :=
  [("synchronized_actions", .flag), ("legacy_devices", .flag)]

/-- Settings in some fields, and the default in the others. -/
def kept (given : String → Bool) (t : TargetSettings) : TargetSettings where
  synchronizedActions := if given "synchronized_actions" then t.synchronizedActions else true
  legacyDevices := if given "legacy_devices" then t.legacyDevices else true

/-- Data give some fields of settings: in any order, with any unknown entries besides. -/
def IsPartial (t : TargetSettings) (given : String → Bool) (d : Datum) : Prop :=
  Datum.GivesSome fieldNames t.fieldData given d

/-- Settings are read field by field. -/
theorem decode_eq_some_iff {d : Datum} {t : TargetSettings} :
    decode d = some t ↔ ∃ a b, d.slots fieldNames = some [a, b]
      ∧ orDefault true Datum.bool? a = some t.synchronizedActions
      ∧ orDefault true Datum.bool? b = some t.legacyDevices := by
  constructor
  · intro h
    obtain ⟨slots, hslots, h⟩ := Option.bind_eq_some_iff.mp h
    split at h
    · next a b =>
        obtain ⟨_, ha, h⟩ := Option.bind_eq_some_iff.mp h
        obtain ⟨_, hb, h⟩ := Option.bind_eq_some_iff.mp h
        obtain rfl := Option.some.inj h
        exact ⟨a, b, hslots, ha, hb⟩
    · cases h
  · rintro ⟨a, b, hslots, ha, hb⟩
    rw [decode, hslots]
    show (orDefault true Datum.bool? a >>= fun _ => _) = _
    rw [ha]
    show (orDefault true Datum.bool? b >>= fun _ => _) = _
    rw [hb]
    rfl

/-- Some fields of settings are read as the settings in these fields. -/
theorem IsPartial.decode_eq {t : TargetSettings} {given : String → Bool} {d : Datum}
    (h : t.IsPartial given d) : decode d = some (t.kept given) := by
  obtain ⟨entries, rfl, hgives⟩ := h
  refine decode_eq_some_iff.mpr ⟨_, _, hgives.entrySlots_eq (by decide) rfl, ?_, ?_⟩
  · exact Datum.undoes_bool.orDefault true t.synchronizedActions _
  · exact Datum.undoes_bool.orDefault true t.legacyDevices _

/-- All fields of settings are given by their data. -/
theorem isPartial_encode (t : TargetSettings) : t.IsPartial (fun _ => true) t.encode :=
  Datum.givesSome_record rfl

/-- All are given by their JSON value. -/
theorem isPartial_ofJson (t : TargetSettings) :
    t.IsPartial (fun _ => true) (.ofJson t.encode.toJson.sorted) := by
  have hvalues : ∀ d ∈ t.fieldData, d.SurvivesJson := by
    simp only [fieldData, List.forall_mem_cons]
    exact ⟨rfl, rfl, List.forall_mem_nil _⟩
  exact Datum.givesSome_ofJson rfl (by decide) hvalues

/-- Settings that are read have only admitted values in their fields. -/
theorem admits_of_decode {entries : List (Datum × Datum)} {t : TargetSettings}
    (h : decode (.map entries) = some t) {field : String} {type : FieldType}
    (hfield : (field, type) ∈ fieldTypes) {d : Datum} (hd : (.str field, d) ∈ entries) :
    type.Admits d := by
  obtain ⟨a, b, hslots, ha, hb⟩ := decode_eq_some_iff.mp h
  simp only [fieldTypes, List.mem_cons, List.not_mem_nil, or_false, Prod.mk.injEq] at hfield
  rcases hfield with ⟨rfl, rfl⟩ | ⟨rfl, rfl⟩
  · obtain rfl := Option.some.inj (Datum.getElem?_of_entrySlots hslots hd (i := 0) (by decide))
    exact Datum.admits_of_bool? ha
  · obtain rfl := Option.some.inj (Datum.getElem?_of_entrySlots hslots hd (i := 1) (by decide))
    exact Datum.admits_of_bool? hb

end TargetSettings

/-! ## Configurations -/

namespace Config

/-- A configuration in some fields of the sections that are given, and the default in all
    others. -/
def kept (interaction target : Option (String → Bool)) (c : Config) : Config where
  interaction := (interaction.map fun given => c.interaction.kept given).getD {}
  target := (target.map fun given => c.target.kept given).getD {}

/-- Data give some fields of a configuration: each section is left out, or given in some fields
    of its own.  The order is any at both levels, and there may be unknown entries at both. -/
def IsPartial (c : Config) (interaction target : Option (String → Bool)) (d : Datum) : Prop :=
  ∃ entries policy settings, d = .map entries ∧ Gives fieldNames [policy, settings] entries
    ∧ Option.Rel c.interaction.IsPartial interaction policy
    ∧ Option.Rel c.target.IsPartial target settings

/-- A configuration is read section by section. -/
theorem decode_eq_some_iff {d : Datum} {c : Config} :
    decode d = some c ↔ ∃ policy settings, d.slots fieldNames = some [policy, settings]
      ∧ orDefault {} Policy.decode policy = some c.interaction
      ∧ orDefault {} TargetSettings.decode settings = some c.target := by
  constructor
  · intro h
    obtain ⟨slots, hslots, h⟩ := Option.bind_eq_some_iff.mp h
    split at h
    · next policy settings =>
        obtain ⟨_, hp, h⟩ := Option.bind_eq_some_iff.mp h
        obtain ⟨_, ht, h⟩ := Option.bind_eq_some_iff.mp h
        obtain rfl := Option.some.inj h
        exact ⟨policy, settings, hslots, hp, ht⟩
    · cases h
  · rintro ⟨policy, settings, hslots, hp, ht⟩
    rw [decode, hslots]
    show (orDefault {} Policy.decode policy >>= fun _ => _) = _
    rw [hp]
    show (orDefault {} TargetSettings.decode settings >>= fun _ => _) = _
    rw [ht]
    rfl

/-- Some fields of a configuration are read as the configuration in these fields. -/
theorem IsPartial.decode_eq {c : Config} {interaction target : Option (String → Bool)} {d : Datum}
    (h : c.IsPartial interaction target d) : decode d = some (c.kept interaction target) := by
  obtain ⟨entries, policy, settings, rfl, hgives, hpolicy, hsettings⟩ := h
  refine decode_eq_some_iff.mpr ⟨_, _, hgives.entrySlots_eq (by decide) rfl, ?_, ?_⟩
  · cases hpolicy with
    | none => rfl
    | some hgiven => exact hgiven.decode_eq
  · cases hsettings with
    | none => rfl
    | some hgiven => exact hgiven.decode_eq

/-- All fields of a configuration are given by its data. -/
theorem isPartial_encode (c : Config) :
    c.IsPartial (some fun _ => true) (some fun _ => true) c.encode :=
  ⟨_, _, _, rfl, Datum.gives_zip fieldNames [c.interaction.encode, c.target.encode],
    .some c.interaction.isPartial_encode, .some c.target.isPartial_encode⟩

/-- All are given by its JSON value. -/
theorem isPartial_ofJson (c : Config) :
    c.IsPartial (some fun _ => true) (some fun _ => true) (.ofJson c.encode.toJson.sorted) := by
  let policy := Datum.ofJson c.interaction.encode.toJson.sorted
  let settings := Datum.ofJson c.target.encode.toJson.sorted
  have hvalue : Datum.ofJson c.encode.toJson.sorted
      = .map [(.str "interaction", policy), (.str "target", settings)] := by
    -- the sections are in the order of their names already
    have hsorted : ∀ v w : Json, (Json.obj [("interaction", v), ("target", w)]).sorted
        = .obj [("interaction", v.sorted), ("target", w.sorted)] := fun _ _ => rfl
    have hobject := Datum.toJson_record
      [("interaction", c.interaction.encode), ("target", c.target.encode)]
    rw [encode, hobject, List.map_cons, List.map_singleton, hsorted]
    rfl
  exact ⟨_, some policy, some settings, hvalue, Datum.gives_zip fieldNames [policy, settings],
    .some c.interaction.isPartial_ofJson, .some c.target.isPartial_ofJson⟩

/-- The fields of both sections with their types. -/
def fieldTypes : List (String × String × FieldType) :=
  Policy.fieldTypes.map (fun f => ("interaction", f))
    ++ TargetSettings.fieldTypes.map fun f => ("target", f)

/-- A configuration that is read has only admitted values in the fields of its sections. -/
theorem admits_of_decode {entries es : List (Datum × Datum)} {c : Config}
    (h : decode (.map entries) = some c) {name field : String} {type : FieldType}
    (hfield : (name, field, type) ∈ fieldTypes) (hes : (.str name, .map es) ∈ entries)
    {d : Datum} (hd : (.str field, d) ∈ es) : type.Admits d := by
  obtain ⟨policy, settings, hslots, hp, ht⟩ := decode_eq_some_iff.mp h
  rcases List.mem_append.mp hfield with hmem | hmem
  · obtain ⟨f, hf, heq⟩ := List.mem_map.mp hmem
    obtain ⟨rfl, rfl⟩ := Prod.mk.inj heq
    obtain rfl := Option.some.inj (Datum.getElem?_of_entrySlots hslots hes (i := 0) (by decide))
    exact Policy.admits_of_decode hp hf hd
  · obtain ⟨f, hf, heq⟩ := List.mem_map.mp hmem
    obtain ⟨rfl, rfl⟩ := Prod.mk.inj heq
    obtain rfl := Option.some.inj (Datum.getElem?_of_entrySlots hslots hes (i := 1) (by decide))
    exact TargetSettings.admits_of_decode ht hf hd

/-- **Given fields override the defaults one by one.**  The mapping that gives some fields of a
    configuration is read as the configuration in these fields and the default in the others, all
    fields together give it back, and a value that a field does not admit makes the mapping
    unreadable. -/
theorem given_fields_override_defaults :
    (∀ c interaction target d, IsPartial c interaction target d →
        decode d = some (c.kept interaction target))
      ∧ (∀ c, decode c.encode = some c ∧ decode (.ofJson c.encode.toJson.sorted) = some c)
      ∧ ∀ name field type, (name, field, type) ∈ fieldTypes → ∀ entries es d,
        (.str name, .map es) ∈ entries → (.str field, d) ∈ es → ¬ type.Admits d →
        decode (.map entries) = none := by
  refine ⟨fun c interaction target d h => h.decode_eq, ?_, ?_⟩
  · intro c
    have hall : c.kept (some fun _ => true) (some fun _ => true) = c := rfl
    constructor
    · rw [c.isPartial_encode.decode_eq, hall]
    · rw [c.isPartial_ofJson.decode_eq, hall]
  · intro name field type hfield entries es d hes hd hnot
    rw [Option.eq_none_iff_forall_ne_some]
    intro c hc
    exact hnot (admits_of_decode hc hfield hes hd)

/-- Two fields of a policy at the ends of their ranges, the later one first and an unknown one
    between them; and the same mapping with one millisecond more than there can be. -/
theorem given_fields_override_defaults_ends :
    let c : Config := ⟨⟨18446744073709551615, 7, 7, -2147483648⟩, ⟨false, false⟩⟩
    let given (name : String) : Bool := ["element_move_ms", "element_offset_y"].contains name
    let policy (ms : Datum) : List (Datum × Datum) :=
      [(.str "element_offset_y", .negative (-2147483648)), (.str "speed", .float "1e3"),
        (.str "element_move_ms", ms)]
    let entries (ms : Datum) : List (Datum × Datum) :=
      [(.str "theme", .null), (.str "interaction", .map (policy ms))]
    c.IsPartial (some given) none (.map (entries (.natural 18446744073709551615)))
      ∧ decode (.map (entries (.natural 18446744073709551615)))
        = some ⟨⟨18446744073709551615, 200, 1, -2147483648⟩, ⟨true, true⟩⟩
      ∧ ¬ FieldType.uint64.Admits (.float "18446744073709551616")
      ∧ decode (.map (entries (.float "18446744073709551616"))) = none := by
  intro c given policy entries
  have hpolicy : c.interaction.IsPartial given (.map (policy (.natural 18446744073709551615))) := by
    refine ⟨_, rfl, [(.str "speed", .float "1e3")], ?_, ?_⟩
    · rw [List.forall_mem_singleton]
      exact ⟨"speed", rfl, by decide⟩
    · exact @List.perm_append_comm _ [_, _] [_]
  have hpartial : c.IsPartial (some given) none
      (.map (entries (.natural 18446744073709551615))) := by
    refine ⟨_, _, none, rfl, ⟨[(.str "theme", .null)], ?_, ?_⟩, .some hpolicy, .none⟩
    · rw [List.forall_mem_singleton]
      exact ⟨"theme", rfl, by decide⟩
    · exact List.Perm.swap _ _ _
  have hout : ¬ FieldType.uint64.Admits (.float "18446744073709551616") := by
    rintro ⟨n, hn, -⟩
    cases hn
  obtain ⟨hread, -, hrefused⟩ := given_fields_override_defaults
  refine ⟨hpartial, (hread c _ _ _ hpartial).trans rfl, hout, ?_⟩
  have hfield : ("interaction", "element_move_ms", .uint64) ∈ fieldTypes := by decide
  refine hrefused _ _ _ hfield _ (policy (.float "18446744073709551616")) _ ?_ ?_ hout
  · exact List.mem_cons_of_mem _ List.mem_cons_self
  · exact List.mem_cons_of_mem _ (List.mem_cons_of_mem _ List.mem_cons_self)

end Config

end GestureTimeline
