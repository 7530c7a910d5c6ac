import GestureTimeline.Datum
import GestureTimeline.Yaml.Scalar

/-! # What plain scalars mean

    A plain scalar is null, a flag, a number or a text.  Whole numbers are decimal, without
    leading zeros, or have a base of sixteen, eight or two; a sign may stand in front. -/

namespace GestureTimeline.Yaml

/-- Whether a scalar writes null by a word. -/
def isNullWord (s : List Char) : Bool :=
  ["~", "null", "Null", "NULL"].contains (String.ofList s)

/-- The flag that a scalar writes. -/
def flag? (s : List Char) : Option Bool :=
  let word := String.ofList s
  if ["true", "True", "TRUE"].contains word then some true
  else if ["false", "False", "FALSE"].contains word then some false
  else none

/-! ## Whole numbers -/

/-- A scalar without one leading sign. -/
def withoutSign : List Char → List Char
  | '-' :: s => s
  | '+' :: s => s
  | s => s

/-- Whether a scalar has only digits and starts with a zero that is not its last digit; such a
    scalar is no number. -/
def hasLeadingZero (s : List Char) : Bool :=
  match withoutSign s with
  | '0' :: d :: ds => (d :: ds).all Char.isDigit
  | _ => false

/-- The number of a scalar that has no sign. -/
def magnitude? : List Char → Option Nat
  | '0' :: 'x' :: ds => Text.number? 16 ds
  | '0' :: 'o' :: ds => Text.number? 8 ds
  | '0' :: 'b' :: ds => Text.number? 2 ds
  | ds => if hasLeadingZero ds then none else Text.number? 10 ds

/-- A whole number without a minus sign. -/
def natural? : List Char → Option Nat
  | '+' :: s => magnitude? s
  | s => magnitude? s

/-- The negated number of a scalar with a minus sign. -/
def negated? : List Char → Option Nat
  | '-' :: s => magnitude? s
  | _ => none

/-- A whole number with or without a minus sign. -/
def whole? (s : List Char) : Option Int :=
  match natural? s with
  | some n => some n
  | none => (negated? s).map fun n => -n

/-! ## Other numbers -/

/-- The least number that is rounded to infinity. -/
def overflowBound : Nat := Nat.pow 2 1024 - Nat.pow 2 970

/-- Whether decimal digits, scaled by a power of ten, stay below the largest numbers. -/
def isFinite (digits : List Char) (exponent : Int) : Bool :=
  let ds := digits.dropWhile (· == '0')
  let point : Int := ds.length + exponent
  if ds.isEmpty || point < 300 then true
  else if 310 < point then false
  else
    let n := Text.digitsValue 10 ds
    if 0 ≤ exponent then n * Nat.pow 10 exponent.toNat < overflowBound
    else n < overflowBound * Nat.pow 10 (-exponent).toNat

/-- The exponent behind the digits of a number, if nothing else stands there. -/
def exponent? : List Char → Option Int
  | [] => some 0
  | e :: s =>
      if e == 'e' || e == 'E' then
        let n := Text.number? 10 (withoutSign s)
        if s.head? == some '-' then n.map fun n => -(n : Int) else n.map fun n => (n : Int)
      else none

/-- Whether a scalar without sign writes a finite number in decimal notation. -/
def isDecimal (s : List Char) : Bool :=
  let (whole, rest) := s.span Char.isDigit
  let (fraction, rest) := match rest with
    | '.' :: rest => rest.span Char.isDigit
    | rest => ([], rest)
  match exponent? rest with
  | some e => !(whole ++ fraction).isEmpty && isFinite (whole ++ fraction) (e - fraction.length)
  | none => false

/-- Whether a scalar writes a number, infinity or no number at all included. -/
def isFloat (s : List Char) : Bool :=
  let word := String.ofList s
  [".inf", ".Inf", ".INF", "+.inf", "+.Inf", "+.INF", "-.inf", "-.Inf", "-.INF",
    ".nan", ".NaN", ".NAN"].contains word
    || isDecimal (withoutSign s)

/-! ## Data of scalars -/

/-- What a scalar means as a whole number. -/
inductive Whole where
  /-- It is none. -/
  | absent
  /-- It is one of at most 64 bits. -/
  | datum (d : Datum)
  /-- It is one of more bits, which no datum can hold. -/
  | tooLarge

/-- The whole number of a scalar.  Beyond 128 bits it counts as none. -/
def Whole.ofText (s : List Char) : Whole :=
  match natural? s, negated? s with
  | some n, _ =>
      if n < UInt64.size then .datum (.natural (UInt64.ofNat n))
      else if n < UInt64.size * UInt64.size then .tooLarge
      else .absent
  | none, some n =>
      if 2 * n ≤ UInt64.size then .datum (.negative (Int64.ofInt (-n)))
      else if 2 * n ≤ UInt64.size * UInt64.size then .tooLarge
      else .absent
  | none, none => .absent

/-- The datum of a plain scalar, if there is one. -/
def plainDatum? (s : List Char) : Option Datum :=
  if s.isEmpty || isNullWord s then some .null
  else
    match flag? s, Whole.ofText s with
    | some b, _ => some (.bool b)
    | none, .datum d => some d
    | none, .tooLarge => none
    | none, .absent =>
        if !hasLeadingZero s && isFloat s then some (.float (String.ofList s))
        else some (.str (String.ofList s))

end GestureTimeline.Yaml
