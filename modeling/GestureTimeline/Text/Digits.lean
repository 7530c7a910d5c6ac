/-! # Digits

    Numbers written in a base of at most sixteen.  Letters of either case continue the decimal
    digits when a number is read. -/

namespace GestureTimeline.Text

/-- The decimal digits of a number, without leading zeros. -/
def decimal (n : Nat) : List Char :=
  Nat.toDigits 10 n

/-- A number in decimal digits, behind a minus sign if it is negative. -/
def signedDecimal (n : Int) : List Char :=
  if n < 0 then '-' :: decimal n.natAbs else decimal n.natAbs

/-- The hexadecimal digits of a number, in lower case and without leading zeros. -/
def hexDigits (n : Nat) : List Char :=
  Nat.toDigits 16 n

/-- A number in upper-case hexadecimal, filled up with zeros on the left to a least width. -/
def paddedHex (width n : Nat) : List Char :=
  let digits := (hexDigits n).map Char.toUpper
  List.replicate (width - digits.length) '0' ++ digits

/-- The value of a digit. -/
def digitValue? (c : Char) : Option Nat :=
  if c.isDigit then some (c.toNat - '0'.toNat)
  else if 'a' ≤ c ∧ c ≤ 'f' then some (c.toNat - 'a'.toNat + 10)
  else if 'A' ≤ c ∧ c ≤ 'F' then some (c.toNat - 'A'.toNat + 10)
  else none

/-- Whether a character is a digit of a base. -/
def isDigitOf (base : Nat) (c : Char) : Bool := (digitValue? c).any (· < base)

/-- The number that digits of a base write. -/
def digitsValue (base : Nat) (ds : List Char) : Nat :=
  ds.foldl (fun n d => base * n + (digitValue? d).getD 0) 0

/-- The decimal digits of a number write that number. -/
theorem digitsValue_decimal (n : Nat) : digitsValue 10 (decimal n) = n := by
  induction n using Nat.strongRecOn with
  | ind n ih =>
    by_cases h : n < 10
    · have small : ∀ m < 10, digitsValue 10 [Nat.digitChar m] = m := by decide
      rw [decimal, Nat.toDigits_of_lt_base h]
      exact small n h
    · have last : ∀ m < 10, (digitValue? (Nat.digitChar m)).getD 0 = m := by decide
      have front := ih (n / 10) (by omega)
      rw [decimal, Nat.toDigits_of_base_le (by omega) (by omega)]
      simp only [digitsValue, decimal] at front ⊢
      rw [List.foldl_append, front]
      simp only [List.foldl_cons, List.foldl_nil, last (n % 10) (by omega)]
      omega

/-- The number that a text writes in a base, if it has at least one digit and nothing else. -/
def number? (base : Nat) (ds : List Char) : Option Nat :=
  if !ds.isEmpty && ds.all (isDigitOf base) then some (digitsValue base ds) else none

end GestureTimeline.Text
