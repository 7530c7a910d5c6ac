import GestureTimeline.Datum
import Mathlib.Data.List.Forall2

/-! # Records in any order

    A mapping that writes a record may give its fields in any order, may leave out what is null,
    and may have entries of other names.  What is read from it depends on none of this: the slots
    of the fields are those that it gives (`Gives.entrySlots_eq`).  A list of values, which may end
    early, comes down to slots of the same kind (`exists_itemSlots`), so what holds of the slots of
    a record holds of both ways to write it. -/

namespace GestureTimeline

/-- Reading a list item by item succeeds as a whole, or not at all. -/
theorem mapM_eq_some_iff_map_eq {α β : Type} {f : α → Option β} {as : List α} {bs : List β} :
    as.mapM f = some bs ↔ as.map f = bs.map some := by
  induction as generalizing bs with
  | nil => cases bs <;> simp
  | cons a as ih =>
      rw [List.mapM_cons, List.map_cons]
      cases hfa : f a with
      | none => cases bs <;> simp
      | some b =>
          cases bs with
          | nil => cases as.mapM f <;> simp
          | cons c bs =>
              rw [List.map_cons, List.cons.injEq, Option.some.injEq, ← ih]
              cases as.mapM f <;> simp

namespace Datum

/-! ## What is given -/

/-- A slot tells the value of a field: it holds the value, or the value is null and left out. -/
def Told (d : Datum) (slot : Option Datum) : Prop := slot = some d ∨ slot = none ∧ d = null

/-- The entries of a mapping that give fields the values in their slots. -/
def givenEntries : List String → List (Option Datum) → List (Datum × Datum)
  | name :: names, slot :: slots =>
      (slot.map fun d => (str name, d)).toList ++ givenEntries names slots
  | _, _ => []

/-- An entry that is named by a text, but not like any field. -/
def IsUnknown (names : List String) (e : Datum × Datum) : Prop :=
  ∃ name, e.1 = str name ∧ name ∉ names

/-- A mapping gives the fields what is in their slots: besides the entries for it there are only
    unknown ones, and the order is any. -/
def Gives (names : List String) (slots : List (Option Datum)) (entries : List (Datum × Datum)) :
    Prop :=
  ∃ unknown, (∀ e ∈ unknown, IsUnknown names e)
    ∧ entries.Perm (givenEntries names slots ++ unknown)

/-- The entries of fields are named like them. -/
theorem exists_name_of_mem_givenEntries {names : List String} {slots : List (Option Datum)}
    {e : Datum × Datum} (h : e ∈ givenEntries names slots) : ∃ name ∈ names, e.1 = str name := by
  induction names generalizing slots with
  | nil => exact nomatch h
  | cons name names ih =>
      cases slots with
      | nil => exact nomatch h
      | cons slot slots =>
          rcases List.mem_append.mp h with hfirst | hrest
          · cases slot with
            | none => exact nomatch hfirst
            | some d =>
                rw [List.mem_singleton.mp hfirst]
                exact ⟨name, List.mem_cons_self, rfl⟩
          · obtain ⟨other, hother, he⟩ := ih hrest
            exact ⟨other, List.mem_cons_of_mem name hother, he⟩

/-- When every field has a value, all of them are given. -/
theorem givenEntries_map_some (names : List String) (ds : List Datum) :
    givenEntries names (ds.map some) = (names.zip ds).map fun f => (str f.1, f.2) := by
  induction names generalizing ds with
  | nil => rfl
  | cons name names ih =>
      cases ds with
      | nil => rfl
      | cons d ds =>
          rw [List.map_cons, givenEntries, ih]
          rfl

/-- A record gives all its fields, and nothing else. -/
theorem gives_zip (names : List String) (ds : List Datum) :
    Gives names (ds.map some) ((names.zip ds).map fun f => (str f.1, f.2)) := by
  refine ⟨[], (fun e he => nomatch he), ?_⟩
  rw [givenEntries_map_some, List.append_nil]

/-! ## Looking a field up -/

/-- At most one value is the same value in any order. -/
theorem atMostOne_perm {ds es : List Datum} (h : ds.Perm es) : atMostOne ds = atMostOne es := by
  match ds, es, h.length_eq with
  | [], [], _ => rfl
  | [d], [e], _ => rw [List.perm_singleton.mp h]
  | _ :: _ :: _, _ :: _ :: _, _ => rfl

/-- A slot is what is found of its content. -/
theorem atMostOne_toList (slot : Option Datum) : atMostOne slot.toList = some slot := by
  cases slot <;> rfl

theorem valuesAt_perm {names : List String} {es fs : List (Datum × Datum)} (h : es.Perm fs)
    (i : Nat) : (valuesAt names es i).Perm (valuesAt names fs i) :=
  (h.filter _).map _

theorem valuesAt_append (names : List String) (es fs : List (Datum × Datum)) (i : Nat) :
    valuesAt names (es ++ fs) i = valuesAt names es i ++ valuesAt names fs i := by
  rw [valuesAt, List.filter_append, List.map_append]
  rfl

/-- Entries that denote no field give nothing to any. -/
theorem valuesAt_eq_nil {names : List String} {es : List (Datum × Datum)} {i : Nat}
    (h : ∀ e ∈ es, fieldIndex? names e.1 ≠ some i) : valuesAt names es i = [] := by
  have hnone : es.filter (fun e => fieldIndex? names e.1 = some i) = [] := by
    rw [List.filter_eq_nil_iff]
    intro e he
    rw [decide_eq_true_eq]
    exact h e he
  rw [valuesAt, hnone, List.map_nil]

theorem valuesAt_of_unknown {names : List String} {es : List (Datum × Datum)}
    (h : ∀ e ∈ es, IsUnknown names e) (i : Nat) : valuesAt names es i = [] := by
  refine valuesAt_eq_nil fun e he => ?_
  obtain ⟨name, hname, hnot⟩ := h e he
  rw [hname, fieldIndex?, List.idxOf?_eq_none_iff.mpr hnot]
  exact nofun

theorem fieldIndex?_cons_self (name : String) (names : List String) :
    fieldIndex? (name :: names) (str name) = some 0 := by
  rw [fieldIndex?, List.idxOf?_cons, if_pos (beq_self_eq_true name)]

/-- A further field in front moves the others back. -/
theorem fieldIndex?_cons_of_ne {name other : String} (h : other ≠ name) (names : List String) :
    fieldIndex? (name :: names) (str other) = (fieldIndex? names (str other)).map (· + 1) := by
  rw [fieldIndex?, fieldIndex?, List.idxOf?_cons, if_neg (by simpa using h.symm)]

section

variable {name : String} {names : List String} {es : List (Datum × Datum)}

/-- Entries that are named unlike a first field give it nothing. -/
theorem valuesAt_cons_zero (h : ∀ e ∈ es, ∃ other, other ≠ name ∧ e.1 = str other) :
    valuesAt (name :: names) es 0 = [] := by
  refine valuesAt_eq_nil fun e he => ?_
  obtain ⟨other, hne, hother⟩ := h e he
  rw [hother, fieldIndex?_cons_of_ne hne]
  cases fieldIndex? names (str other) <;> simp

/-- Behind a first field, the entries of the others give the same to the same fields. -/
theorem valuesAt_cons_succ (h : ∀ e ∈ es, ∃ other, other ≠ name ∧ e.1 = str other) (i : Nat) :
    valuesAt (name :: names) es (i + 1) = valuesAt names es i := by
  have hfilter : es.filter (fun e => fieldIndex? (name :: names) e.1 = some (i + 1))
      = es.filter fun e => fieldIndex? names e.1 = some i := by
    refine List.filter_congr fun e he => ?_
    obtain ⟨other, hne, hother⟩ := h e he
    rw [hother, fieldIndex?_cons_of_ne hne]
    cases fieldIndex? names (str other) <;> simp
  rw [valuesAt, hfilter]
  rfl

end

/-- The entry of a first field gives it what is in its slot. -/
theorem valuesAt_first (name : String) (names : List String) (slot : Option Datum) (i : Nat) :
    valuesAt (name :: names) ((slot.map fun d => (str name, d)).toList) i
      = if i = 0 then slot.toList else [] := by
  cases slot with
  | none => cases i <;> rfl
  | some d => cases i <;> simp [valuesAt, fieldIndex?_cons_self]

/-- The entries of fields give each what is in its slot. -/
theorem valuesAt_givenEntries {names : List String} (hnames : names.Nodup)
    {slots : List (Option Datum)} (hlength : slots.length = names.length) {i : Nat}
    {slot : Option Datum} (hslot : slots[i]? = some slot) :
    valuesAt names (givenEntries names slots) i = slot.toList := by
  induction names generalizing slots i with
  | nil =>
      rw [List.length_eq_zero_iff.mp hlength] at hslot
      exact nomatch hslot
  | cons name names ih =>
      obtain ⟨hname, hnames⟩ := List.nodup_cons.mp hnames
      cases slots with
      | nil => exact nomatch hslot
      | cons first slots =>
          -- the entries behind the first field are named like other fields
          have hothers : ∀ e ∈ givenEntries names slots,
              ∃ other, other ≠ name ∧ e.1 = str other := by
            intro e he
            obtain ⟨other, hother, hkey⟩ := exists_name_of_mem_givenEntries he
            exact ⟨other, fun heq => hname (heq ▸ hother), hkey⟩
          rw [givenEntries, valuesAt_append, valuesAt_first]
          cases i with
          | zero =>
              obtain rfl : first = slot := Option.some.inj hslot
              rw [valuesAt_cons_zero hothers, if_pos rfl, List.append_nil]
          | succ i =>
              rw [valuesAt_cons_succ hothers, if_neg (Nat.succ_ne_zero i), List.nil_append]
              exact ih hnames (Nat.succ.inj hlength) hslot

/-! ## The slots of a record -/

/-- **A mapping is read as the slots that it gives.** -/
theorem Gives.entrySlots_eq {names : List String} {slots : List (Option Datum)}
    {entries : List (Datum × Datum)} (h : Gives names slots entries) (hnames : names.Nodup)
    (hlength : slots.length = names.length) : entrySlots names entries = some slots := by
  obtain ⟨unknown, hunknown, hperm⟩ := h
  have hkeys : entries.all (fun e => e.1.isFieldKey) = true := by
    rw [List.all_eq_true]
    intro e he
    rcases List.mem_append.mp (hperm.mem_iff.mp he) with hgiven | hother
    · obtain ⟨name, -, hname⟩ := exists_name_of_mem_givenEntries hgiven
      rw [hname, isFieldKey]
    · obtain ⟨name, hname, -⟩ := hunknown e hother
      rw [hname, isFieldKey]
  rw [entrySlots, if_pos hkeys, mapM_eq_some_iff_map_eq]
  refine List.ext_getElem (by simp [hlength]) fun i hi hi' => ?_
  rw [List.length_map] at hi'
  have hvalues := valuesAt_givenEntries hnames hlength (List.getElem?_eq_getElem hi')
  rw [List.getElem_map, List.getElem_map, List.getElem_range,
    atMostOne_perm (valuesAt_perm hperm i), valuesAt_append, hvalues,
    valuesAt_of_unknown hunknown, List.append_nil, atMostOne_toList]

/-- A value that is found alone makes up what was searched. -/
theorem eq_toList_of_atMostOne {ds : List Datum} {slot : Option Datum}
    (h : atMostOne ds = some slot) : ds = slot.toList := by
  match ds with
  | [] =>
      rw [← Option.some.inj h]
      rfl
  | [d] =>
      rw [← Option.some.inj h]
      rfl
  | _ :: _ :: _ => exact nomatch h

/-- A text denotes a single field if it is the field's name. -/
theorem fieldIndex?_singleton_iff {name other : String} :
    fieldIndex? [name] (str other) = some 0 ↔ other = name := by
  by_cases h : other = name
  · rw [h]
    exact iff_of_true (fieldIndex?_cons_self name []) rfl
  · rw [fieldIndex?_cons_of_ne h]
    exact iff_of_false nofun h

/-- A record of one field, written with texts as keys, gives what is found for the field. -/
theorem gives_of_entrySlots_singleton {name : String} {slot : Option Datum}
    {entries : List (Datum × Datum)} (hkeys : ∀ e ∈ entries, ∃ other, e.1 = str other)
    (h : entrySlots [name] entries = some [slot]) : Gives [name] [slot] entries := by
  have hvalues : valuesAt [name] entries 0 = slot.toList := by
    rw [entrySlots] at h
    split at h
    · have hmap := mapM_eq_some_iff_map_eq.mp h
      exact eq_toList_of_atMostOne (List.cons.inj hmap).1
    · exact nomatch h
  let isField (e : Datum × Datum) : Bool := fieldIndex? [name] e.1 = some 0
  have hsplit := List.filter_append_perm isField entries
  refine ⟨entries.filter (!isField ·), ?_, ?_⟩
  · intro e he
    obtain ⟨hin, hnot⟩ := List.mem_filter.mp he
    obtain ⟨other, hother⟩ := hkeys e hin
    refine ⟨other, hother, fun heq => ?_⟩
    have his : isField e = true := by
      rw [decide_eq_true_iff, hother]
      exact fieldIndex?_singleton_iff.mpr (List.mem_singleton.mp heq)
    rw [his] at hnot
    exact nomatch hnot
  · -- what is found under the field's name is at most one entry
    have hfield : entries.filter isField = givenEntries [name] [slot] := by
      have hname : ∀ e ∈ entries.filter isField, e.1 = str name := by
        intro e he
        obtain ⟨hin, his⟩ := List.mem_filter.mp he
        obtain ⟨other, hother⟩ := hkeys e hin
        rw [decide_eq_true_iff, hother] at his
        rw [hother, fieldIndex?_singleton_iff.mp his]
      have hfound : (entries.filter isField).map Prod.snd = slot.toList := hvalues
      generalize entries.filter isField = named at hfound hname ⊢
      cases slot with
      | none => exact List.map_eq_nil_iff.mp hfound
      | some d =>
          obtain ⟨e, rfl, rfl⟩ := List.map_eq_singleton_iff.mp hfound
          show [e] = [(str name, e.2)]
          rw [← hname e List.mem_cons_self]
    rw [← hfield]
    exact hsplit.symm

/-- A list of values that ends where only nulls would follow is read as slots that tell all of
    them. -/
theorem exists_itemSlots {names : List String} {ds : List Datum}
    (hlength : ds.length = names.length) {given : Nat} (hnull : ∀ d ∈ ds.drop given, d = null) :
    ∃ slots, itemSlots names (ds.take given) = some slots ∧ List.Forall₂ Told ds slots := by
  have hle : (ds.take given).length ≤ names.length := by
    rw [List.length_take, hlength]
    exact Nat.min_le_right _ _
  have hrest : names.length - (ds.take given).length = (ds.drop given).length := by
    rw [List.length_take, List.length_drop]
    omega
  refine ⟨_, by rw [itemSlots, if_pos hle], ?_⟩
  have htold : List.Forall₂ Told (ds.take given ++ ds.drop given)
      ((ds.take given).map some ++ List.replicate (ds.drop given).length none) := by
    refine List.rel_append ?_ ?_
    · rw [List.forall₂_map_right_iff, List.forall₂_same]
      exact fun d _ => Or.inl rfl
    · rw [← List.map_const', List.forall₂_map_right_iff, List.forall₂_same]
      exact fun d hd => Or.inr ⟨rfl, hnull d hd⟩
  rwa [List.take_append_drop, ← hrest] at htold

/-! ## Fields -/

/-- Reading undoes writing, and null is nothing that is read. -/
structure Undoes {α : Type} (read : Datum → Option α) (write : α → Datum) : Prop where
  read_write : ∀ a, read (write a) = some a
  read_null : read null = none

namespace Undoes

variable {α : Type} {read : Datum → Option α} {write : α → Datum}

theorem write_ne_null (h : Undoes read write) (a : α) : write a ≠ null := by
  intro hnull
  have hread := h.read_write a
  rw [hnull, h.read_null] at hread
  exact nomatch hread

/-- A field that must be given is read as what its slot tells. -/
theorem required (h : Undoes read write) {a : α} {slot : Option Datum}
    (htold : Told (write a) slot) : Datum.required read slot = some a := by
  rcases htold with rfl | ⟨-, hnull⟩
  · exact h.read_write a
  · exact absurd hnull (h.write_ne_null a)

/-- A field that may be missing is read as what its slot tells. -/
theorem optional (h : Undoes read write) {a : Option α} {slot : Option Datum}
    (htold : Told (ofOption write a) slot) : Datum.optional read slot = some a := by
  cases a with
  | none => rcases htold with rfl | ⟨rfl, -⟩ <;> rfl
  | some a =>
      rcases htold with rfl | ⟨-, hnull⟩
      · have hread : (read (write a)).map some = some (some a) := by
          rw [h.read_write]
          rfl
        -- what is given is not null, so it is read
        show Datum.optional read (some (write a)) = _
        unfold Datum.optional
        split
        · next heq => cases heq
        · next heq => exact absurd (Option.some.inj heq) (h.write_ne_null a)
        · next d heq =>
            rw [← Option.some.inj heq]
            exact hread
      · exact absurd hnull (h.write_ne_null a)

end Undoes

end Datum

end GestureTimeline
