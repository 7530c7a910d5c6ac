/-! # JSON values

    Objects keep their fields in the order in which they were written.  Where that order does
    not matter two values are compared by their sorted forms, in which the fields of every
    object stand in the order of their keys and each key stands once. -/

namespace GestureTimeline

/-- A JSON value.  A whole number of at most 64 bits is an `int`; any other number keeps the
    text it was written with. -/
inductive Json where
  | null
  | bool (value : Bool)
  | int (value : Int)
  | decimal (text : String)
  | str (value : String)
  | arr (items : List Json)
  | obj (fields : List (String × Json))
  deriving Inhabited

namespace Json

/-- Puts a field into fields that are sorted by key, unless its key is there already. -/
def insertField (key : String) (value : Json) : List (String × Json) → List (String × Json)
  | [] => [(key, value)]
  | (k, v) :: fields =>
      if key < k then (key, value) :: (k, v) :: fields
      else if key = k then (k, v) :: fields
      else (k, v) :: insertField key value fields

mutual

/-- The form of a value that forgets the order of fields.  Of two fields with one key the later
    stays. -/
def sorted : Json → Json
  | arr items => arr (sortedItems items)
  | obj fields => obj (sortedFields fields)
  | v => v

/-- The sorted forms of a list of values. -/
def sortedItems : List Json → List Json
  | [] => []
  | v :: items => v.sorted :: sortedItems items

/-- The fields of an object in the order of their keys, with sorted values. -/
def sortedFields : List (String × Json) → List (String × Json)
  | [] => []
  | (k, v) :: fields => insertField k v.sorted (sortedFields fields)

end

/-- Items are sorted one by one. -/
theorem sortedItems_eq_map (items : List Json) : sortedItems items = items.map sorted := by
  induction items with
  | nil => rfl
  | cons v items ih => rw [sortedItems, ih, List.map_cons]

/-- A field of a new key is put somewhere among the others. -/
theorem insertField_perm {key : String} {value : Json} {fields : List (String × Json)}
    (h : key ∉ fields.map Prod.fst) :
    (insertField key value fields).Perm ((key, value) :: fields) := by
  induction fields with
  | nil => exact List.Perm.refl _
  | cons f fields ih =>
      rw [List.map_cons, List.mem_cons, not_or] at h
      rw [insertField]
      by_cases hlt : key < f.1
      · rw [if_pos hlt]
      · rw [if_neg hlt, if_neg h.1]
        exact ((ih h.2).cons f).trans (List.Perm.swap _ _ _)

/-- Where no key stands twice, sorting keeps all fields, with their values sorted. -/
theorem sortedFields_perm {fields : List (String × Json)} (h : (fields.map Prod.fst).Nodup) :
    (sortedFields fields).Perm (fields.map fun f => (f.1, f.2.sorted)) := by
  induction fields with
  | nil => exact List.Perm.refl _
  | cons f fields ih =>
      rw [List.map_cons, List.nodup_cons] at h
      have hrest := ih h.2
      have hkeys : (fields.map fun f => (f.1, f.2.sorted)).map Prod.fst
          = fields.map Prod.fst := by
        rw [List.map_map]
        rfl
      have hnew : f.1 ∉ (sortedFields fields).map Prod.fst := by
        rw [(hrest.map Prod.fst).mem_iff, hkeys]
        exact h.1
      rw [sortedFields, List.map_cons]
      exact (insertField_perm hnew).trans (hrest.cons _)

/-- The value of the last field with a key, if an object has one. -/
def field? (key : String) : Json → Option Json
  | obj fields => fields.reverse.lookup key
  | _ => none

/-- An array of texts. -/
def ofTexts (texts : List String) : Json := arr (texts.map str)

end Json

end GestureTimeline
