import GestureTimeline.Json.Basic
import GestureTimeline.Text.Digits

/-! # Reading JSON

    A reading step takes the characters ahead and returns what it read with the characters that
    are left.  A text is read by a bound on the number of steps that its length provides. -/

namespace GestureTimeline.Json

/-- The characters that may stand between tokens. -/
def isBlank (c : Char) : Bool := c == ' ' || c == '\n' || c == '\t' || c == '\r'

/-- The characters ahead without leading blanks. -/
def skipBlanks (s : List Char) : List Char := s.dropWhile isBlank

/-- The number of four hexadecimal digits. -/
def unit? (a b c d : Char) : Option Nat := Text.number? 16 [a, b, c, d]

/-- The character that a letter stands for behind a backslash. -/
def unescape? : Char → Option Char
  | '"' => some '"'
  | '\\' => some '\\'
  | '/' => some '/'
  | 'b' => some '\x08'
  | 'f' => some '\x0c'
  | 'n' => some '\n'
  | 'r' => some '\r'
  | 't' => some '\t'
  | _ => none

/-- A reading with one more character in front. -/
def withChar (c : Char) (r : Option (List Char × List Char)) : Option (List Char × List Char) :=
  r.map fun (cs, rest) => (c :: cs, rest)

/-- The first unit of a pair that stands for one character. -/
def isHighUnit (u : Nat) : Bool := 0xd800 ≤ u && u < 0xdc00

/-- The second unit of a pair that stands for one character. -/
def isLowUnit (u : Nat) : Bool := 0xdc00 ≤ u && u < 0xe000

/-- The character of a pair of units. -/
def pairChar (high low : Nat) : Char :=
  Char.ofNat (0x10000 + (high - 0xd800) * 0x400 + (low - 0xdc00))

/-- The characters of a text up to its closing quote.  A unit of a pair may not stand alone. -/
def textBody : List Char → Option (List Char × List Char)
  | [] => none
  | '"' :: rest => some ([], rest)
  | '\\' :: 'u' :: a :: b :: c :: d :: rest =>
      match unit? a b c d with
      | none => none
      | some u =>
          if isLowUnit u then none
          else if isHighUnit u then
            match rest with
            | '\\' :: 'u' :: a :: b :: c :: d :: rest =>
                match unit? a b c d with
                | none => none
                | some v =>
                    if isLowUnit v then withChar (pairChar u v) (textBody rest) else none
            | _ => none
          else withChar (Char.ofNat u) (textBody rest)
  | '\\' :: l :: rest =>
      match unescape? l with
      | some c => withChar c (textBody rest)
      | none => none
  | c :: rest => if c.toNat < 32 then none else withChar c (textBody rest)

/-- The decimal digits ahead. -/
def digitRun (s : List Char) : List Char × List Char := s.span Char.isDigit

/-- The digits before the point: no further digit follows a leading zero. -/
def wholePart (s : List Char) : Option (List Char × List Char) :=
  match digitRun s with
  | ([], _) => none
  | ('0' :: _ :: _, _) => none
  | (ds, rest) => some (ds, rest)

/-- A point with the digits behind it, or nothing. -/
def fractionPart : List Char → Option (List Char × List Char)
  | '.' :: s =>
      match digitRun s with
      | ([], _) => none
      | (ds, rest) => some ('.' :: ds, rest)
  | s => some ([], s)

/-- An exponent, or nothing. -/
def exponentPart : List Char → Option (List Char × List Char)
  | [] => some ([], [])
  | e :: s =>
      if e = 'e' ∨ e = 'E' then
        let (sign, s) := match s with
          | '+' :: r => (['+'], r)
          | '-' :: r => (['-'], r)
          | r => ([], r)
        match digitRun s with
        | ([], _) => none
        | (ds, rest) => some (e :: sign ++ ds, rest)
      else some ([], e :: s)

/-- A number without its sign.  One that is no whole number of 64 bits, and minus zero, keeps
    its text. -/
def unsignedNumber (negative : Bool) (s : List Char) : Option (Json × List Char) := do
  let (whole, rest) ← wholePart s
  let (fraction, rest) ← fractionPart rest
  let (exponent, rest) ← exponentPart rest
  let n := Text.digitsValue 10 whole
  if fraction.isEmpty && exponent.isEmpty
      && (if negative then 0 < n && n ≤ 9223372036854775808 else n < UInt64.size) then
    return (.int (if negative then -n else n), rest)
  else
    let sign := if negative then ['-'] else []
    return (.decimal (String.ofList (sign ++ whole ++ fraction ++ exponent)), rest)

/-- A number. -/
def number : List Char → Option (Json × List Char)
  | '-' :: s => unsignedNumber true s
  | s => unsignedNumber false s

mutual

/-- The value ahead. -/
def value : Nat → List Char → Option (Json × List Char)
  | 0, _ => none
  | steps + 1, s =>
      match s with
      | 'n' :: 'u' :: 'l' :: 'l' :: rest => some (.null, rest)
      | 't' :: 'r' :: 'u' :: 'e' :: rest => some (.bool true, rest)
      | 'f' :: 'a' :: 'l' :: 's' :: 'e' :: rest => some (.bool false, rest)
      | '"' :: rest => (textBody rest).map fun (cs, rest) => (.str (String.ofList cs), rest)
      | '[' :: rest =>
          match skipBlanks rest with
          | ']' :: rest => some (.arr [], rest)
          | rest => (items steps rest).map fun (vs, rest) => (.arr vs, rest)
      | '\x7b' :: rest =>
          match skipBlanks rest with
          | '\x7d' :: rest => some (.obj [], rest)
          | rest => (fields steps rest).map fun (fs, rest) => (.obj fs, rest)
      | s => number s

/-- The items ahead, up to the bracket that closes their array. -/
def items : Nat → List Char → Option (List Json × List Char)
  | 0, _ => none
  | steps + 1, s =>
      match value steps s with
      | none => none
      | some (v, rest) =>
          match skipBlanks rest with
          | ',' :: rest => (items steps (skipBlanks rest)).map fun (vs, rest) => (v :: vs, rest)
          | ']' :: rest => some ([v], rest)
          | _ => none

/-- The fields ahead, up to the brace that closes their object. -/
def fields : Nat → List Char → Option (List (String × Json) × List Char)
  | 0, _ => none
  | steps + 1, s =>
      match s with
      | '"' :: rest =>
          match textBody rest with
          | none => none
          | some (key, rest) =>
              match skipBlanks rest with
              | ':' :: rest =>
                  match value steps (skipBlanks rest) with
                  | none => none
                  | some (v, rest) =>
                      match skipBlanks rest with
                      | ',' :: rest =>
                          (fields steps (skipBlanks rest)).map fun (fs, rest) =>
                            ((String.ofList key, v) :: fs, rest)
                      | '\x7d' :: rest => some ([(String.ofList key, v)], rest)
                      | _ => none
              | _ => none
      | _ => none

end

/-- The value that a text writes, if it writes exactly one. -/
def read? (text : String) : Option Json :=
  match value (2 * text.length + 2) (skipBlanks text.toList) with
  | some (v, rest) => if (skipBlanks rest).isEmpty then some v else none
  | none => none

end GestureTimeline.Json
