/-! # Spans of time

    A span is a whole number of nanoseconds whose seconds fit 64 bits.  Its two views are the
    whole milliseconds, which the protocols speak, and the text of messages, which uses the
    largest unit that the span reaches and drops trailing zeros. -/

namespace GestureTimeline

/-- A length of time with nanosecond resolution; its whole seconds fit 64 bits. -/
structure Span where
  nanos : Nat
  nanos_lt : nanos < 18446744073709551616 * 1000000000
  deriving DecidableEq

namespace Span

/-- The empty span. -/
def zero : Span := ⟨0, by decide⟩

instance : Inhabited Span := ⟨zero⟩

/-- The span of a whole number of milliseconds. -/
def ofMillis (ms : UInt64) : Span :=
  ⟨ms.toNat * 1000000, by have := ms.toNat_lt; omega⟩

/-- The span of whole seconds and further nanoseconds; absent beyond the range of seconds. -/
def ofParts? (seconds nanos : Nat) : Option Span :=
  if h : seconds * 1000000000 + nanos < 18446744073709551616 * 1000000000 then
    some ⟨seconds * 1000000000 + nanos, h⟩
  else none

/-- The whole seconds of a span. -/
def seconds (d : Span) : Nat := d.nanos / 1000000000

/-- The nanoseconds beyond the whole seconds. -/
def subsecondNanos (d : Span) : Nat := d.nanos % 1000000000

/-- The whole milliseconds of a span. -/
def millis (d : Span) : Nat := d.nanos / 1000000

/-- The whole seconds and the nanoseconds beyond them make up a span. -/
theorem seconds_add_subsecondNanos (d : Span) :
    d.seconds * 1000000000 + d.subsecondNanos = d.nanos := by
  simp only [seconds, subsecondNanos]
  omega

/-- A span of whole milliseconds has that many of them. -/
@[simp] theorem millis_ofMillis (ms : UInt64) : (ofMillis ms).millis = ms.toNat := by
  simp [millis, ofMillis]

/-- The digits of a fraction of `width` decimal places, without trailing zeros. -/
def fractionDigits (width value : Nat) : List Char :=
  let digits := Nat.toDigits 10 value
  let all := List.replicate (width - digits.length) '0' ++ digits
  (all.reverse.dropWhile (· == '0')).reverse

/-- A quantity with up to `width` decimal places, and its unit. -/
def withFraction (whole fraction width : Nat) (unit : String) : String :=
  match fractionDigits width fraction with
  | [] => toString whole ++ unit
  | ds => toString whole ++ "." ++ String.ofList ds ++ unit

/-- The text of a span: seconds, milliseconds, microseconds or nanoseconds, whichever is the
    largest unit that the span reaches, with the rest as a decimal fraction. -/
def text (d : Span) : String :=
  if 1000000000 ≤ d.nanos then withFraction d.seconds d.subsecondNanos 9 "s"
  else if 1000000 ≤ d.nanos then withFraction (d.nanos / 1000000) (d.nanos % 1000000) 6 "ms"
  else if 1000 ≤ d.nanos then withFraction (d.nanos / 1000) (d.nanos % 1000) 3 "µs"
  else withFraction d.nanos 0 0 "ns"

end Span

end GestureTimeline
