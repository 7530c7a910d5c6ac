import GestureTimeline.Json.Basic

/-! # Data of scripts and configurations

    A datum is what a written form holds once its spelling is forgotten.  A record is written as
    a mapping, in any order and with entries that nobody asked for, or as the list of its fields'
    values.  `slots` brings both to one shape: for each field the value it was given, if any. -/

namespace GestureTimeline

/-- A piece of structured data. -/
inductive Datum where
  | null
  | bool (value : Bool)
  /-- A whole number written without a minus sign. -/
  | natural (value : UInt64)
  /-- A whole number written with a minus sign; it may be zero. -/
  | negative (value : Int64)
  /-- Any other number, with its text. -/
  | float (text : String)
  | str (value : String)
  | list (items : List Datum)
  | map (entries : List (Datum × Datum))
  deriving Inhabited

namespace Datum

/-! ## Whole numbers -/

/-- A 32-bit number from an unbounded one, if it is in range. -/
def int32OfInt? (n : Int) : Option Int32 :=
  if -2147483648 ≤ n ∧ n ≤ 2147483647 then some (Int32.ofInt n) else none

/-- The datum of an unbounded number, if it has at most 64 bits. -/
def ofInt? (n : Int) : Option Datum :=
  if 0 ≤ n then if n.toNat < UInt64.size then some (natural (UInt64.ofNat n.toNat)) else none
  else if -9223372036854775808 ≤ n then some (negative (Int64.ofInt n)) else none

/-- The number that a datum is, if it is a whole number. -/
def whole? : Datum → Option Int
  | natural n => some n.toNat
  | negative n => some n.toInt
  | _ => none

/-- A 32-bit signed number. -/
def int32? (d : Datum) : Option Int32 := d.whole?.bind int32OfInt?

/-- A 64-bit unsigned number. -/
def uint64? (d : Datum) : Option UInt64 :=
  d.whole?.bind fun n => if 0 ≤ n then some (UInt64.ofNat n.toNat) else none

/-- The datum of a 64-bit unsigned number. -/
def ofUInt64 (n : UInt64) : Datum := natural n

/-- The datum of a 32-bit signed number. -/
def ofInt32 (n : Int32) : Datum :=
  if n < 0 then negative n.toInt64 else natural (UInt64.ofNat n.toInt.toNat)

/-- The datum of a 32-bit number is that whole number. -/
@[simp] theorem whole?_ofInt32 (n : Int32) : (ofInt32 n).whole? = some n.toInt := by
  unfold ofInt32
  split
  · simp [whole?]
  · next h =>
    have hn : 0 ≤ n.toInt := by
      rw [Int32.lt_iff_toInt_lt] at h
      simpa using h
    have hlt := Int32.toInt_lt n
    have hm : (UInt64.ofNat n.toInt.toNat).toNat = n.toInt.toNat :=
      UInt64.toNat_ofNat_of_lt (by simp only [UInt64.size]; omega)
    rw [whole?, hm, Int.toNat_of_nonneg hn]

/-- The datum of a 32-bit number gives the number back. -/
@[simp] theorem int32?_ofInt32 (n : Int32) : (ofInt32 n).int32? = some n := by
  have lo := Int32.le_toInt n
  have hi := Int32.toInt_lt n
  rw [int32?, whole?_ofInt32, Option.bind_some, int32OfInt?, if_pos (by constructor <;> omega),
    Int32.ofInt_toInt]

/-- The datum of a 64-bit number gives the number back. -/
@[simp] theorem uint64?_ofUInt64 (n : UInt64) : (ofUInt64 n).uint64? = some n := by
  simp [uint64?, ofUInt64, whole?]

/-! ## Other values -/

/-- A flag. -/
def bool? : Datum → Option Bool
  | bool b => some b
  | _ => none

/-- A text. -/
def str? : Datum → Option String
  | str s => some s
  | _ => none

/-- A list. -/
def list? : Datum → Option (List Datum)
  | list ds => some ds
  | _ => none

/-! ## Records -/

/-- Whether a key may stand in a record. -/
def isFieldKey : Datum → Bool
  | str _ | natural _ => true
  | _ => false

/-- The field that a key denotes, by its name or by its position. -/
def fieldIndex? (names : List String) : Datum → Option Nat
  | str s => names.idxOf? s
  | natural n => if n.toNat < names.length then some n.toNat else none
  | _ => none

/-- The values that the entries of a mapping give to one field. -/
def valuesAt (names : List String) (entries : List (Datum × Datum)) (i : Nat) : List Datum :=
  (entries.filter fun e => fieldIndex? names e.1 = some i).map (·.2)

/-- At most one value. -/
def atMostOne : List Datum → Option (Option Datum)
  | [] => some none
  | [d] => some (some d)
  | _ => none

/-- The value of each field in a mapping.  Entries of other names are passed over; a field may
    not be given twice. -/
def entrySlots (names : List String) (entries : List (Datum × Datum)) :
    Option (List (Option Datum)) :=
  if entries.all fun e => e.1.isFieldKey then
    (List.range names.length).mapM fun i => atMostOne (valuesAt names entries i)
  else none

/-- The value of each field in a list of values; fields may be missing at the end. -/
def itemSlots (names : List String) (items : List Datum) : Option (List (Option Datum)) :=
  if items.length ≤ names.length then
    some (items.map some ++ List.replicate (names.length - items.length) none)
  else none

/-- The value of each field of a record. -/
def slots (names : List String) : Datum → Option (List (Option Datum))
  | map entries => entrySlots names entries
  | list items => itemSlots names items
  | _ => none

/-- The mapping of named fields. -/
def record (fields : List (String × Datum)) : Datum :=
  map (fields.map fun f => (str f.1, f.2))

/-- A field that must be given. -/
def required {α : Type} (read : Datum → Option α) (slot : Option Datum) : Option α :=
  slot.bind read

/-- A field that may be missing, or given as null. -/
def optional {α : Type} (read : Datum → Option α) : Option Datum → Option (Option α)
  | none | some null => some none
  | some d => (read d).map some

/-- A field that has a default when it is missing. -/
def orDefault {α : Type} (default : α) (read : Datum → Option α) : Option Datum → Option α
  | none => some default
  | some d => read d

/-- The datum of a field that may be missing. -/
def ofOption {α : Type} (write : α → Datum) : Option α → Datum
  | none => null
  | some a => write a

/-! ## JSON -/

mutual

/-- The data of a JSON value. -/
def ofJson : Json → Datum
  | .null => null
  | .bool b => bool b
  | .int n => (ofInt? n).getD (float (toString n))
  | .decimal text => float text
  | .str s => str s
  | .arr items => list (ofItems items)
  | .obj fields => map (ofFields fields)

/-- The data of JSON values. -/
def ofItems : List Json → List Datum
  | [] => []
  | v :: items => ofJson v :: ofItems items

/-- The data of the fields of a JSON object. -/
def ofFields : List (String × Json) → List (Datum × Datum)
  | [] => []
  | (k, v) :: fields => (str k, ofJson v) :: ofFields fields

end

mutual

/-- The JSON value of data.  The keys of its mappings must be texts. -/
def toJson : Datum → Json
  | null => .null
  | bool b => .bool b
  | natural n => .int n.toNat
  | negative n => .int n.toInt
  | float text => .decimal text
  | str s => .str s
  | list items => .arr (toItems items)
  | map entries => .obj (toFields entries)

/-- The JSON values of data. -/
def toItems : List Datum → List Json
  | [] => []
  | d :: items => toJson d :: toItems items

/-- The fields of the JSON object of a mapping. -/
def toFields : List (Datum × Datum) → List (String × Json)
  | [] => []
  | (k, d) :: entries => (k.str?.getD "", toJson d) :: toFields entries

end

theorem ofItems_eq_map (items : List Json) : ofItems items = items.map ofJson := by
  induction items with
  | nil => rfl
  | cons v items ih => rw [ofItems, ih, List.map_cons]

theorem ofFields_eq_map (fields : List (String × Json)) :
    ofFields fields = fields.map fun f => (str f.1, ofJson f.2) := by
  induction fields with
  | nil => rfl
  | cons f fields ih => rw [ofFields, ih, List.map_cons]

theorem toItems_eq_map (items : List Datum) : toItems items = items.map toJson := by
  induction items with
  | nil => rfl
  | cons d items ih => rw [toItems, ih, List.map_cons]

/-- The object of a record has its fields. -/
theorem toJson_record (fields : List (String × Datum)) :
    (record fields).toJson = .obj (fields.map fun f => (f.1, f.2.toJson)) := by
  have hfields : toFields (fields.map fun f => (str f.1, f.2))
      = fields.map fun f => (f.1, f.2.toJson) := by
    induction fields with
    | nil => rfl
    | cons f fields ih =>
        rw [List.map_cons, List.map_cons, toFields, ih]
        rfl
  rw [record, toJson, hfields]

end Datum

end GestureTimeline
