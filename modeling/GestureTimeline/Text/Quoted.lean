import GestureTimeline.Text.Digits
import GestureTimeline.Text.Extender

/-! # Quoted text

    Text and single characters as messages show them: between quotes, with a backslash letter
    for the common controls and `\u{…}` for every other character that has no printed form.
    Reading a quoted text from its left, a quote that is not behind a backslash ends it. -/

namespace GestureTimeline.Text

/-- The `\u{…}` form of a character. -/
def escapedCode (c : Char) : List Char :=
  ['\\', 'u', '\x7b'] ++ hexDigits c.toNat ++ ['\x7d']

/-- The letter that stands behind a backslash for a character, if it has one. -/
def escapeLetter? : Char → Option Char
  | '\x00' => some '0'
  | '\t' => some 't'
  | '\n' => some 'n'
  | '\r' => some 'r'
  | '\\' => some '\\'
  | _ => none

/-- One character inside quotes of the given kind. -/
def escapedChar (quote c : Char) : List Char :=
  match escapeLetter? c with
  | some l => ['\\', l]
  | none => if c = quote then ['\\', c] else if isUnprintable c then escapedCode c else [c]

/-- One character of a quoted text: an extender is written by its code as well, since it
    would join the character before it. -/
def quotedTextChar (c : Char) : List Char :=
  if isExtender c then escapedCode c else escapedChar '"' c

/-- A text between double quotes. -/
def quoted (s : String) : String :=
  String.ofList ('"' :: s.toList.flatMap quotedTextChar ++ ['"'])

/-- A character between single quotes. -/
def quotedChar (c : Char) : String :=
  String.ofList ('\'' :: (if isExtender c then escapedCode c else escapedChar '\'' c) ++ ['\''])

end GestureTimeline.Text
