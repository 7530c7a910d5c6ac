import GestureTimeline.Json.Reader
import GestureTimeline.Wire
import Mathlib.Data.List.TakeDrop

/-! # Payload texts read back

    The text of a value is read as that value, whatever texts stand in it and on however many
    lines it is spread (`Json.OfWords.read?_write`): an escape is undone where it stands, a number
    ends where no digit follows, and behind a value there is nothing, a line break, a comma or the
    mark that closes what it is in.  One level deeper the same is known of every item, so that the
    proof follows the value.

    Numbers of more than 64 bits would be read as texts of decimals; a payload has none. -/

namespace GestureTimeline

namespace Text

theorem isDigit_of_mem_decimal {n : Nat} {c : Char} (h : c ∈ decimal n) : c.isDigit = true :=
  Nat.isDigit_of_mem_toDigits (by decide) (by decide) h

/-- Only zero is written with a leading zero. -/
theorem exists_decimal_eq_cons (n : Nat) :
    ∃ c cs, decimal n = c :: cs ∧ (c = '0' → n = 0 ∧ cs = []) := by
  induction n using Nat.strongRecOn with
  | ind n ih =>
    by_cases h : n < 10
    · have first : ∀ m < 10, Nat.digitChar m = '0' → m = 0 := by decide
      refine ⟨Nat.digitChar n, [], Nat.toDigits_of_lt_base h, ?_⟩
      intro hc
      exact ⟨first n h hc, rfl⟩
    · obtain ⟨c, cs, hfront, hzero⟩ := ih (n / 10) (by omega)
      rw [decimal] at hfront
      refine ⟨c, cs ++ [Nat.digitChar (n % 10)], ?_, ?_⟩
      · rw [decimal, Nat.toDigits_of_base_le (by omega) (by omega), hfront, List.cons_append]
      · intro hc
        have := (hzero hc).1
        omega

end Text

namespace Json

/-! ## Texts -/

theorem unescape?_of_escapeLetter? {c l : Char} (h : escapeLetter? c = some l) :
    l ≠ 'u' ∧ unescape? l = some c := by
  unfold escapeLetter? at h
  split at h
  all_goals first
    | (obtain rfl := Option.some.inj h; exact ⟨by decide, rfl⟩)
    | cases h

theorem unit?_of_lt {n : Nat} (h : n < 32) :
    unit? '0' '0' (Nat.digitChar (n / 16)) (Nat.digitChar (n % 16)) = some n := by
  have hall : ∀ m < 32,
      unit? '0' '0' (Nat.digitChar (m / 16)) (Nat.digitChar (m % 16)) = some m := by decide
  exact hall n h

theorem textBody_of_letter {l c : Char} (hu : l ≠ 'u') (hc : unescape? l = some c)
    (rest : List Char) : textBody ('\\' :: l :: rest) = withChar c (textBody rest) := by
  rw [textBody]
  · rw [hc]
  · intro _ _ _ _ _ hl
    exact absurd hl hu

theorem textBody_of_unit {a b x y : Char} {n : Nat} (hn : n < 32) (hunit : unit? a b x y = some n)
    (rest : List Char) :
    textBody ('\\' :: 'u' :: a :: b :: x :: y :: rest)
      = withChar (Char.ofNat n) (textBody rest) := by
  have hlow : isLowUnit n = false := by simp [isLowUnit]; omega
  have hhigh : isHighUnit n = false := by simp [isHighUnit]; omega
  rw [textBody, hunit]
  simp only [hlow, hhigh, Bool.false_eq_true, if_false]

theorem textBody_of_plain {c : Char} (hquote : c ≠ '"') (hslash : c ≠ '\\')
    (hc : ¬ c.toNat < 32) (rest : List Char) :
    textBody (c :: rest) = withChar c (textBody rest) := by
  rw [textBody]
  · rw [if_neg hc]
  · exact hquote
  · intro _ _ _ _ _ h
    exact absurd h hslash
  · intro _ _ h
    exact absurd h hslash

theorem textBody_escaped (c : Char) (rest : List Char) :
    textBody (escaped c ++ rest) = withChar c (textBody rest) := by
  rw [escaped]
  cases hl : escapeLetter? c with
  | some l =>
      obtain ⟨hu, hc⟩ := unescape?_of_escapeLetter? hl
      exact textBody_of_letter hu hc rest
  | none =>
      by_cases hc : c.toNat < 32
      · rw [if_pos hc]
        have hread := textBody_of_unit hc (unit?_of_lt hc) rest
        rw [Char.ofNat_toNat] at hread
        exact hread
      · rw [if_neg hc]
        refine textBody_of_plain ?_ ?_ hc rest
        · rintro rfl
          cases hl
        · rintro rfl
          cases hl

/-- A text is read up to the quote behind it, however many quotes there are in it. -/
theorem textBody_quoted (cs rest : List Char) :
    textBody (cs.flatMap escaped ++ '"' :: rest) = some (cs, rest) := by
  induction cs with
  | nil => rfl
  | cons c cs ih =>
      rw [List.flatMap_cons, List.append_assoc, textBody_escaped, ih]
      rfl

/-! ## Numbers -/

/-- What may stand behind a value. -/
def Ends (rest : List Char) : Prop := ∀ c ∈ rest.head?, c ∈ [',', ']', '\x7d', '\n']

theorem ends_nil : Ends [] := by
  intro c hc
  cases hc

theorem ends_cons {c : Char} (h : c ∈ [',', ']', '\x7d', '\n']) (rest : List Char) :
    Ends (c :: rest) := by
  rintro d hd
  obtain rfl := Option.some.inj hd
  exact h

theorem Ends.not_isDigit {rest : List Char} (h : Ends rest) :
    ∀ c ∈ rest.head?, c.isDigit = false := by
  have hall : ∀ c ∈ [',', ']', '\x7d', '\n'], c.isDigit = false := by simp
  exact fun c hc => hall c (h c hc)

theorem digitRun_append {ds rest : List Char} (hds : ∀ d ∈ ds, d.isDigit = true)
    (h : ∀ c ∈ rest.head?, c.isDigit = false) : digitRun (ds ++ rest) = (ds, rest) := by
  rw [digitRun, List.span_eq_takeWhile_dropWhile, List.takeWhile_append_of_pos hds,
    List.dropWhile_append_of_pos hds]
  cases rest with
  | nil => simp
  | cons c rest =>
      have hc := h c rfl
      simp [hc]

theorem wholePart_decimal (n : Nat) {rest : List Char} (h : Ends rest) :
    wholePart (Text.decimal n ++ rest) = some (Text.decimal n, rest) := by
  have hrun := digitRun_append (fun _ => Text.isDigit_of_mem_decimal (n := n)) h.not_isDigit
  obtain ⟨c, cs, hdecimal, hzero⟩ := Text.exists_decimal_eq_cons n
  rw [hdecimal] at hrun ⊢
  rw [wholePart, hrun]
  split
  · next heq => cases heq
  · next heq =>
      obtain ⟨⟨rfl, rfl⟩, -⟩ := Prod.mk.inj heq |>.imp_left List.cons.inj
      exact absurd (hzero rfl).2 (List.cons_ne_nil _ _)
  · next heq =>
      obtain ⟨rfl, rfl⟩ := Prod.mk.inj heq
      rfl

theorem fractionPart_of_ends {rest : List Char} (h : Ends rest) :
    fractionPart rest = some ([], rest) := by
  rw [fractionPart]
  rintro s rfl
  exact absurd (h '.' rfl) (by decide)

theorem exponentPart_of_ends {rest : List Char} (h : Ends rest) :
    exponentPart rest = some ([], rest) := by
  cases rest with
  | nil => rfl
  | cons c rest =>
      have hc : ¬ (c = 'e' ∨ c = 'E') := by
        have hall : ∀ d ∈ [',', ']', '\x7d', '\n'], ¬ (d = 'e' ∨ d = 'E') := by simp
        exact hall c (h c rfl)
      exact if_neg hc

/-- A number that a payload may hold: one of at most 64 bits. -/
def IsWord (n : Int) : Prop := -9223372036854775808 ≤ n ∧ n < 18446744073709551616

theorem unsignedNumber_decimal (negative : Bool) {n : Nat} {rest : List Char} (h : Ends rest)
    (hn : if negative then 0 < n ∧ n ≤ 9223372036854775808 else n < UInt64.size) :
    unsignedNumber negative (Text.decimal n ++ rest)
      = some (.int (if negative then -n else n), rest) := by
  rw [unsignedNumber, wholePart_decimal n h]
  show (fractionPart rest >>= _) = _
  rw [fractionPart_of_ends h]
  show (exponentPart rest >>= _) = _
  rw [exponentPart_of_ends h]
  cases negative with
  | true =>
      have hfits : (decide (0 < n) && decide (n ≤ 9223372036854775808)) = true := by
        rw [Bool.and_eq_true, decide_eq_true_eq, decide_eq_true_eq]
        exact hn
      show (if (decide (0 < Text.digitsValue 10 (Text.decimal n)) && _) = true then _ else _) = _
      rw [Text.digitsValue_decimal, hfits]
      rfl
  | false =>
      have hfits : decide (n < UInt64.size) = true := decide_eq_true hn
      show (if decide (Text.digitsValue 10 (Text.decimal n) < _) = true then _ else _) = _
      rw [Text.digitsValue_decimal, hfits]
      rfl

theorem number_signedDecimal {n : Int} (hn : IsWord n) {rest : List Char} (h : Ends rest) :
    number (Text.signedDecimal n ++ rest) = some (.int n, rest) := by
  obtain ⟨hlo, hhi⟩ := hn
  rw [Text.signedDecimal]
  by_cases hneg : n < 0
  · rw [if_pos hneg]
    have hread := unsignedNumber_decimal true (n := n.natAbs) h
      (by simp; omega)
    show unsignedNumber true (Text.decimal n.natAbs ++ rest) = _
    have habs : -(n.natAbs : Int) = n := by omega
    rw [hread, if_pos rfl, habs]
  · rw [if_neg hneg]
    have hread := unsignedNumber_decimal false (n := n.natAbs) h
      (by simp [UInt64.size]; omega)
    obtain ⟨c, cs, hdecimal, -⟩ := Text.exists_decimal_eq_cons n.natAbs
    have hminus : c ≠ '-' := by
      have hc : c.isDigit = true := Text.isDigit_of_mem_decimal (hdecimal ▸ List.mem_cons_self)
      rintro rfl
      exact absurd hc (by decide)
    rw [hdecimal] at hread ⊢
    rw [List.cons_append, number]
    · rw [← List.cons_append, hread, if_neg Bool.false_ne_true, Int.natAbs_of_nonneg (by omega)]
    · intro s heq
      exact hminus (List.cons.inj heq).1

/-! ## Values -/

/-- A value whose numbers are all of at most 64 bits. -/
inductive OfWords : Json → Prop where
  | null : OfWords null
  | bool (b : Bool) : OfWords (bool b)
  | int {n : Int} (hn : IsWord n) : OfWords (int n)
  | str (s : String) : OfWords (str s)
  | arr {items : List Json} (hitems : ∀ v ∈ items, OfWords v) : OfWords (arr items)
  | obj {fields : List (String × Json)} (hfields : ∀ f ∈ fields, OfWords f.2) :
      OfWords (obj fields)

theorem skipBlanks_lineBreak (layout : Layout) (depth : Nat) (s : List Char) :
    skipBlanks (layout.lineBreak depth ++ s) = skipBlanks s := by
  have hblank : ∀ c ∈ layout.lineBreak depth, isBlank c = true := by
    intro c hc
    cases layout with
    | compact => cases hc
    | pretty =>
        rcases List.mem_cons.mp hc with rfl | hc
        · rfl
        · rw [List.eq_of_mem_replicate hc]
          rfl
  exact List.dropWhile_append_of_pos hblank

theorem skipBlanks_cons {c : Char} (h : isBlank c = false) (s : List Char) :
    skipBlanks (c :: s) = c :: s := by
  rw [skipBlanks, List.dropWhile_cons_of_neg (by rw [h]; exact Bool.false_ne_true)]

/-- Behind a line break the next mark is found. -/
theorem skipBlanks_lineBreak_cons (layout : Layout) (depth : Nat) {c : Char}
    (h : isBlank c = false) (s : List Char) :
    skipBlanks (layout.lineBreak depth ++ c :: s) = c :: s := by
  rw [skipBlanks_lineBreak]
  exact skipBlanks_cons h s

theorem ends_lineBreak (layout : Layout) (depth : Nat) {s : List Char} (h : Ends s) :
    Ends (layout.lineBreak depth ++ s) := by
  cases layout with
  | compact => exact h
  | pretty => exact ends_cons (by decide) _

theorem exists_signedDecimal_eq_cons (n : Int) :
    ∃ c cs, Text.signedDecimal n = c :: cs ∧ (c.isDigit = true ∨ c = '-') := by
  rw [Text.signedDecimal]
  by_cases hneg : n < 0
  · rw [if_pos hneg]
    exact ⟨'-', _, rfl, Or.inr rfl⟩
  · rw [if_neg hneg]
    obtain ⟨c, cs, hdecimal, -⟩ := Text.exists_decimal_eq_cons n.natAbs
    have hdigit : c.isDigit = true :=
      Text.isDigit_of_mem_decimal (hdecimal ▸ List.mem_cons_self)
    exact ⟨c, cs, hdecimal, Or.inl hdigit⟩

/-- A value begins with a mark of its own: no blank, and no bracket that closes an array. -/
theorem exists_chars_eq_cons (layout : Layout) (depth : Nat) {v : Json} (h : OfWords v) :
    ∃ c cs, chars layout depth v = c :: cs ∧ isBlank c = false ∧ c ≠ ']' := by
  cases h with
  | null => exact ⟨'n', _, rfl, by decide, by decide⟩
  | bool b =>
      cases b with
      | true => exact ⟨'t', _, rfl, by decide, by decide⟩
      | false => exact ⟨'f', _, rfl, by decide, by decide⟩
  | @int n hn =>
      obtain ⟨c, cs, hchars, hc⟩ := exists_signedDecimal_eq_cons n
      have hall : ∀ d ∈ [' ', '\n', '\t', '\r', ']'], ¬ (d.isDigit = true ∨ d = '-') := by
        simp
      refine ⟨c, cs, hchars, ?_, ?_⟩
      · rw [Bool.eq_false_iff]
        intro hblank
        simp only [isBlank, Bool.or_eq_true, beq_iff_eq, or_assoc] at hblank
        rcases hblank with rfl | rfl | rfl | rfl
        all_goals exact hall _ (by decide) hc
      · rintro rfl
        exact hall _ (by decide) hc
  | str s => exact ⟨'"', _, rfl, by decide, by decide⟩
  | @arr items _ =>
      cases items with
      | nil => exact ⟨'[', _, rfl, by decide, by decide⟩
      | cons v vs => exact ⟨'[', _, rfl, by decide, by decide⟩
  | @obj fields _ =>
      cases fields with
      | nil => exact ⟨'\x7b', _, rfl, by decide, by decide⟩
      | cons f fs => exact ⟨'\x7b', _, rfl, by decide, by decide⟩

/-- A value is read off its text at any level, whatever ends it there.  Two steps for each
    character are more than enough. -/
def IsRead (layout : Layout) (v : Json) : Prop :=
  ∀ depth steps rest, 2 * (chars layout depth v).length ≤ steps → Ends rest →
    value (steps + 1) (chars layout depth v ++ rest) = some (v, rest)

theorem value_number {c : Char} {cs : List Char} (h : c.isDigit = true ∨ c = '-') (steps : Nat) :
    value (steps + 1) (c :: cs) = number (c :: cs) := by
  have hall : ∀ d ∈ ['n', 't', 'f', '"', '[', '\x7b'], ¬ (d.isDigit = true ∨ d = '-') := by
    simp
  have hne : ∀ d ∈ ['n', 't', 'f', '"', '[', '\x7b'], c ≠ d := by
    rintro d hd rfl
    exact hall c hd h
  rw [value]
  all_goals
    intro rest heq
    exact hne _ (by decide) (List.cons.inj heq).1

theorem skipBlanks_chars (layout : Layout) (depth : Nat) {v : Json} (h : OfWords v)
    (rest : List Char) :
    skipBlanks (chars layout depth v ++ rest) = chars layout depth v ++ rest := by
  obtain ⟨c, cs, hchars, hblank, -⟩ := exists_chars_eq_cons layout depth h
  rw [hchars, List.cons_append, skipBlanks_cons hblank]

section Items

variable {layout : Layout} {depth steps : Nat} {v : Json} {s rest close : List Char}

theorem items_of_comma (h : value steps s = some (v, ',' :: rest)) :
    items (steps + 1) s
      = (items steps (skipBlanks rest)).map fun (vs, rest) => (v :: vs, rest) := by
  rw [items, h]
  rfl

theorem items_of_close (h : value steps s = some (v, close))
    (hclose : skipBlanks close = ']' :: rest) : items (steps + 1) s = some ([v], rest) := by
  rw [items, h]
  simp only [hclose]

theorem items_chars {vs : List Json} (hread : ∀ w ∈ v :: vs, OfWords w ∧ IsRead layout w)
    (hsteps : 2 * (chars layout depth v ++ itemChars layout depth vs).length + 2 ≤ steps)
    (hclose : skipBlanks close = ']' :: rest) (hends : Ends close) :
    items steps (chars layout depth v ++ (itemChars layout depth vs ++ close))
      = some (v :: vs, rest) := by
  induction vs generalizing v steps with
  | nil =>
      obtain ⟨-, hv⟩ := hread v List.mem_cons_self
      obtain ⟨steps, rfl⟩ := Nat.exists_eq_add_of_le' (Nat.le_of_add_left_le hsteps)
      rw [itemChars, List.append_nil] at hsteps
      exact items_of_close (hv depth steps close (by omega) hends) hclose
  | cons w ws ih =>
      obtain ⟨-, hv⟩ := hread v List.mem_cons_self
      obtain ⟨hwords, -⟩ := hread w (List.mem_cons_of_mem v List.mem_cons_self)
      obtain ⟨steps, rfl⟩ := Nat.exists_eq_add_of_le' (Nat.le_of_add_left_le hsteps)
      -- behind the first item there is a comma, a line break and the text of the others
      let others := chars layout depth w ++ (itemChars layout depth ws ++ close)
      have hbehind : itemChars layout depth (w :: ws) ++ close
          = ',' :: (layout.lineBreak depth ++ others) := by
        simp only [itemChars, List.cons_append, List.append_assoc, others]
      have hskip : skipBlanks (layout.lineBreak depth ++ others) = others := by
        rw [skipBlanks_lineBreak, skipBlanks_chars layout depth hwords]
      simp only [itemChars, List.cons_append, List.length_cons, List.length_append] at hsteps
      have hvalue := hv depth steps (',' :: (layout.lineBreak depth ++ others)) (by omega)
        (ends_cons (by decide) _)
      have hrest : items (steps + 1) others = some (w :: ws, rest) := by
        refine ih (fun u hu => hread u (List.mem_cons_of_mem v hu)) ?_
        rw [List.length_append]
        omega
      rw [hbehind, items_of_comma hvalue, hskip, hrest]
      rfl

end Items

section Fields

variable {layout : Layout} {depth steps : Nat} {key : String} {v : Json}
  {s rest close : List Char}

/-- Behind the quotes of a key there are a colon and, perhaps, a blank. -/
theorem exists_text_of_key (layout : Layout) (key : String) (s : List Char) :
    ∃ behind, quotedChars key ++ (layout.colon ++ s)
        = '"' :: (key.toList.flatMap escaped ++ '"' :: ':' :: behind)
      ∧ skipBlanks behind = skipBlanks s := by
  cases layout with
  | compact =>
      refine ⟨s, ?_, rfl⟩
      simp [quotedChars, Layout.colon]
  | pretty =>
      refine ⟨' ' :: s, ?_, rfl⟩
      simp [quotedChars, Layout.colon]

theorem fields_of_comma (h : value steps (skipBlanks s) = some (v, ',' :: rest)) :
    fields (steps + 1) (quotedChars key ++ (layout.colon ++ s))
      = (fields steps (skipBlanks rest)).map fun (fs, rest) => ((key, v) :: fs, rest) := by
  obtain ⟨behind, htext, hskip⟩ := exists_text_of_key layout key s
  rw [htext, fields, textBody_quoted]
  simp only [skipBlanks_cons (c := ':') rfl, hskip, h, String.ofList_toList]
  rfl

theorem fields_of_close (h : value steps (skipBlanks s) = some (v, close))
    (hclose : skipBlanks close = '\x7d' :: rest) :
    fields (steps + 1) (quotedChars key ++ (layout.colon ++ s)) = some ([(key, v)], rest) := by
  obtain ⟨behind, htext, hskip⟩ := exists_text_of_key layout key s
  rw [htext, fields, textBody_quoted]
  simp only [skipBlanks_cons (c := ':') rfl, hskip, h, hclose, String.ofList_toList]

theorem fields_chars {fs : List (String × Json)}
    (hread : ∀ f ∈ (key, v) :: fs, OfWords f.2 ∧ IsRead layout f.2)
    (hsteps : 2 * (chars layout depth v ++ fieldChars layout depth fs).length + 2 ≤ steps)
    (hclose : skipBlanks close = '\x7d' :: rest) (hends : Ends close) :
    fields steps (quotedChars key ++ (layout.colon
        ++ (chars layout depth v ++ (fieldChars layout depth fs ++ close))))
      = some ((key, v) :: fs, rest) := by
  induction fs generalizing key v steps with
  | nil =>
      obtain ⟨hwords, hv⟩ : OfWords v ∧ IsRead layout v := hread (key, v) List.mem_cons_self
      obtain ⟨steps, rfl⟩ := Nat.exists_eq_add_of_le' (Nat.le_of_add_left_le hsteps)
      rw [fieldChars, List.append_nil] at hsteps
      have hvalue := hv depth steps close (by omega) hends
      rw [← skipBlanks_chars layout depth hwords] at hvalue
      exact fields_of_close hvalue hclose
  | cons f fs ih =>
      obtain ⟨hwords, hv⟩ : OfWords v ∧ IsRead layout v := hread (key, v) List.mem_cons_self
      obtain ⟨steps, rfl⟩ := Nat.exists_eq_add_of_le' (Nat.le_of_add_left_le hsteps)
      let others := quotedChars f.1 ++ (layout.colon
        ++ (chars layout depth f.2 ++ (fieldChars layout depth fs ++ close)))
      have hbehind : fieldChars layout depth (f :: fs) ++ close
          = ',' :: (layout.lineBreak depth ++ others) := by
        simp only [fieldChars, List.cons_append, List.append_assoc, others]
      have hskip : skipBlanks (layout.lineBreak depth ++ others) = others :=
        skipBlanks_lineBreak_cons layout depth rfl _
      simp only [fieldChars, List.cons_append, List.length_cons, List.length_append] at hsteps
      have hvalue := hv depth steps (',' :: (layout.lineBreak depth ++ others)) (by omega)
        (ends_cons (by decide) _)
      rw [← skipBlanks_chars layout depth hwords] at hvalue
      have hrest : fields (steps + 1) others = some (f :: fs, rest) := by
        refine ih (fun u hu => hread u (List.mem_cons_of_mem _ hu)) ?_
        rw [List.length_append]
        omega
      rw [hbehind, fields_of_comma hvalue, hskip, hrest]
      rfl

end Fields

theorem value_arr {s cs : List Char} {c : Char} (hs : skipBlanks s = c :: cs) (hc : c ≠ ']')
    (steps : Nat) :
    value (steps + 1) ('[' :: s)
      = (items steps (c :: cs)).map fun (vs, rest) => (.arr vs, rest) := by
  rw [value, hs]
  split
  · next heq => exact absurd (List.cons.inj heq).1 hc
  · rfl

theorem value_obj {s cs : List Char} (hs : skipBlanks s = '"' :: cs) (steps : Nat) :
    value (steps + 1) ('\x7b' :: s)
      = (fields steps ('"' :: cs)).map fun (fs, rest) => (.obj fs, rest) := by
  rw [value, hs]
  rfl

/-- An array is read if its items are. -/
theorem isRead_arr {layout : Layout} {vs : List Json}
    (hread : ∀ v ∈ vs, OfWords v ∧ IsRead layout v) : IsRead layout (.arr vs) := by
  intro depth steps rest hsteps _
  cases vs with
  | nil => rfl
  | cons v vs =>
      obtain ⟨hv, -⟩ := hread v List.mem_cons_self
      let close := layout.lineBreak depth ++ ']' :: rest
      have hclose : skipBlanks close = ']' :: rest :=
        skipBlanks_lineBreak_cons layout depth rfl rest
      have hclosed : Ends close := ends_lineBreak layout depth (ends_cons (by decide) rest)
      let inside := chars layout (depth + 1) v ++ (itemChars layout (depth + 1) vs ++ close)
      have htext : chars layout depth (.arr (v :: vs)) ++ rest
          = '[' :: (layout.lineBreak (depth + 1) ++ inside) := by
        simp only [chars, List.cons_append, List.append_assoc, List.nil_append, inside, close]
      have hinside : skipBlanks (layout.lineBreak (depth + 1) ++ inside) = inside := by
        rw [skipBlanks_lineBreak, skipBlanks_chars _ _ hv]
      -- the first item does not look like the bracket of an empty array
      obtain ⟨c, cs, hfirst, -, hbracket⟩ := exists_chars_eq_cons layout (depth + 1) hv
      have hcons : inside = c :: (cs ++ (itemChars layout (depth + 1) vs ++ close)) := by
        simp only [inside, hfirst, List.cons_append]
      have hitems : items steps inside = some (v :: vs, rest) := by
        refine items_chars hread ?_ hclose hclosed
        simp only [chars, List.cons_append, List.length_cons, List.length_append,
          List.length_nil] at hsteps ⊢
        omega
      rw [htext, value_arr (hinside.trans hcons) hbracket, ← hcons, hitems]
      rfl

/-- An object is read if its fields are. -/
theorem isRead_obj {layout : Layout} {fs : List (String × Json)}
    (hread : ∀ f ∈ fs, OfWords f.2 ∧ IsRead layout f.2) : IsRead layout (.obj fs) := by
  intro depth steps rest hsteps _
  cases fs with
  | nil => rfl
  | cons f fs =>
      obtain ⟨key, v⟩ := f
      let close := layout.lineBreak depth ++ '\x7d' :: rest
      have hclose : skipBlanks close = '\x7d' :: rest :=
        skipBlanks_lineBreak_cons layout depth rfl rest
      have hclosed : Ends close := ends_lineBreak layout depth (ends_cons (by decide) rest)
      let behindKey := chars layout (depth + 1) v ++ (fieldChars layout (depth + 1) fs ++ close)
      let inside := quotedChars key ++ (layout.colon ++ behindKey)
      have htext : chars layout depth (.obj ((key, v) :: fs)) ++ rest
          = '\x7b' :: (layout.lineBreak (depth + 1) ++ inside) := by
        simp only [chars, List.cons_append, List.append_assoc, List.nil_append, inside, behindKey,
          close]
      have hinside : skipBlanks (layout.lineBreak (depth + 1) ++ inside) = inside :=
        skipBlanks_lineBreak_cons layout (depth + 1) rfl _
      obtain ⟨behind, hkey, -⟩ := exists_text_of_key layout key behindKey
      have hfields : fields steps inside = some ((key, v) :: fs, rest) := by
        refine fields_chars hread ?_ hclose hclosed
        simp only [chars, List.cons_append, List.length_cons, List.length_append,
          List.length_nil] at hsteps ⊢
        omega
      rw [htext, value_obj (hinside.trans hkey), ← hkey, hfields]
      rfl

/-- **A value is read off its text.** -/
theorem OfWords.isRead (layout : Layout) {v : Json} (h : OfWords v) : IsRead layout v := by
  induction h with
  | null =>
      intro depth steps rest _ _
      rfl
  | bool b =>
      intro depth steps rest _ _
      cases b with
      | true | false => rfl
  | @int n hn =>
      intro depth steps rest _ hends
      have hread := number_signedDecimal hn hends
      obtain ⟨c, cs, hchars, hc⟩ := exists_signedDecimal_eq_cons n
      rw [chars, ← hread, hchars]
      exact value_number hc steps
  | str s =>
      intro depth steps rest _ _
      have htext : chars layout depth (.str s) ++ rest
          = '"' :: (s.toList.flatMap escaped ++ '"' :: rest) := by
        simp only [chars, quotedChars, List.cons_append, List.append_assoc, List.nil_append]
      rw [htext, value, textBody_quoted, Option.map_some]
      show some (Json.str (String.ofList s.toList), rest) = _
      rw [String.ofList_toList]
  | arr hwords ih => exact isRead_arr fun v hv => ⟨hwords v hv, ih v hv⟩
  | obj hwords ih => exact isRead_obj fun f hf => ⟨hwords f hf, ih f hf⟩

/-- **Writing a value and reading the text gives the value back.** -/
theorem OfWords.read?_write (layout : Layout) {v : Json} (h : OfWords v) :
    read? (v.write layout) = some v := by
  have hlength : (v.write layout).length = (chars layout 0 v).length := by
    rw [write, String.length_ofList]
  have hstart : skipBlanks (chars layout 0 v) = chars layout 0 v := by
    have hskip := skipBlanks_chars layout 0 h []
    rw [List.append_nil] at hskip
    exact hskip
  have hvalue := h.isRead layout 0 (2 * (chars layout 0 v).length + 1) [] (by omega)
    ends_nil
  rw [List.append_nil] at hvalue
  rw [read?, hlength, write, String.toList_ofList, hstart, hvalue]
  rfl

/-- One number more is read as the text it is written with. -/
example : read? ((int 18446744073709551616).write .pretty)
    = some (.decimal "18446744073709551616") := rfl

/-! ## Payloads -/

theorem isWord_natCast {n : Nat} (h : n < UInt64.size) : IsWord n := by
  rw [UInt64.size] at h
  constructor
  · omega
  · omega

theorem ofWords_wireMillis (d : Span) : OfWords (.int d.wireMillis) := by
  have hlt : d.wireMillis < UInt64.size := by
    have hle : d.wireMillis ≤ UInt64.size - 1 := Nat.min_le_right d.millis (UInt64.size - 1)
    rw [UInt64.size] at hle ⊢
    omega
  exact .int (isWord_natCast hlt)

theorem ofWords_button (button : UInt32) : OfWords (.int button.toNat) := by
  have hlt := button.toNat_lt
  refine .int (isWord_natCast ?_)
  rw [UInt64.size]
  omega

theorem ofWords_offset (n : Int32) : OfWords (.int n.toInt) := by
  have hle := n.minValue_le_toInt
  have hlt := n.toInt_lt
  refine .int ⟨?_, ?_⟩
  · have hmin : Int32.minValue.toInt = -2147483648 := rfl
    omega
  · omega

end Json

open Json (OfWords)

theorem Origin.ofWords_toJson (o : Origin) : OfWords o.toJson := by
  cases o with
  | viewport => exact .str "viewport"
  | pointer => exact .str "pointer"
  | element e =>
      refine .obj ?_
      rw [List.forall_mem_singleton]
      exact .str e.id

theorem Interaction.ofWords_tagged (type : String) {fields : List (String × Json)}
    (h : ∀ f ∈ fields, OfWords f.2) : OfWords (tagged type fields) := by
  refine .obj ?_
  rw [List.forall_mem_cons]
  exact ⟨.str type, h⟩

theorem Interaction.ofWords_toJson (i : Interaction) : OfWords i.toJson := by
  cases i with
  | pointerDown button | pointerUp button =>
      refine ofWords_tagged _ ?_
      rw [List.forall_mem_singleton]
      exact Json.ofWords_button button
  | pointerMove duration origin x y =>
      refine ofWords_tagged _ ?_
      simp only [List.forall_mem_cons]
      exact ⟨Json.ofWords_wireMillis duration, origin.ofWords_toJson, Json.ofWords_offset x,
        Json.ofWords_offset y, List.forall_mem_nil _⟩
  | keyDown value | keyUp value =>
      refine ofWords_tagged _ ?_
      rw [List.forall_mem_singleton]
      exact .str _
  | pause duration =>
      refine ofWords_tagged _ ?_
      rw [List.forall_mem_singleton]
      exact Json.ofWords_wireMillis duration

theorem Source.ofWords_header (s : Source) : ∀ f ∈ s.header, OfWords f.2 := by
  rw [header]
  cases s.pointerKind? with
  | none =>
      simp only [List.forall_mem_cons]
      exact ⟨.str "key", .str s.id, List.forall_mem_nil _⟩
  | some kind =>
      have hparameters : OfWords (.obj [("pointerType", .str kind.name)]) := by
        refine .obj ?_
        rw [List.forall_mem_singleton]
        exact .str kind.name
      simp only [List.forall_mem_cons]
      exact ⟨.str "pointer", .str s.id, hparameters, List.forall_mem_nil _⟩

theorem Source.ofWords_toJson (s : Source) : OfWords s.toJson := by
  have hactions : OfWords (.arr (s.actions.map Interaction.toJson)) := by
    refine .arr ?_
    rw [List.forall_mem_map]
    exact fun i _ => i.ofWords_toJson
  refine .obj ?_
  rw [List.forall_mem_append, List.forall_mem_singleton]
  exact ⟨s.ofWords_header, hactions⟩

namespace Plan

theorem ofWords_toJson (p : Plan) : OfWords p.toJson := by
  have hsources : OfWords p.actionsJson := by
    refine .arr ?_
    rw [List.forall_mem_map]
    exact fun s _ => s.ofWords_toJson
  refine .obj ?_
  rw [List.forall_mem_singleton]
  exact hsources

/-- **The text of a plan and its value tell the same.**  Reading the text gives the payload with
    its fields in the order in which they were written, and so, where that order means nothing,
    the value of the plan. -/
theorem toText_reads_as_toValue (p : Plan) :
    Json.read? p.toText = some p.toJson
      ∧ (Json.read? p.toText).map Json.sorted = some p.toValue := by
  have hread : Json.read? p.toText = some p.toJson := p.ofWords_toJson.read?_write .pretty
  refine ⟨hread, ?_⟩
  rw [hread]
  rfl

end Plan

end GestureTimeline
