import GestureTimeline.Json.Basic
import GestureTimeline.Text.Digits

/-! # Writing JSON

    A value is written on one line, or spread over lines with two blanks for each level.  Text
    is written as it stands but for quotes, backslashes and control characters. -/

namespace GestureTimeline.Json

/-- The letter that stands behind a backslash for a character, if it has one. -/
def escapeLetter? : Char → Option Char
  | '"' => some '"'
  | '\\' => some '\\'
  | '\x08' => some 'b'
  | '\x0c' => some 'f'
  | '\n' => some 'n'
  | '\r' => some 'r'
  | '\t' => some 't'
  | _ => none

/-- One character of a text. -/
def escaped (c : Char) : List Char :=
  match escapeLetter? c with
  | some l => ['\\', l]
  | none =>
      if c.toNat < 32 then
        ['\\', 'u', '0', '0', Nat.digitChar (c.toNat / 16), Nat.digitChar (c.toNat % 16)]
      else [c]

/-- A text between quotes. -/
def quotedChars (s : String) : List Char :=
  '"' :: s.toList.flatMap escaped ++ ['"']

/-- How a value is spread over lines. -/
inductive Layout where
  | compact
  | pretty
  deriving DecidableEq, Inhabited

namespace Layout

/-- What stands between two items at a level. -/
def lineBreak : Layout → Nat → List Char
  | compact, _ => []
  | pretty, depth => '\n' :: List.replicate (2 * depth) ' '

/-- What stands between a key and its value. -/
def colon : Layout → List Char
  | compact => [':']
  | pretty => [':', ' ']

end Layout

mutual

/-- A value that stands at a level. -/
def chars (layout : Layout) (depth : Nat) : Json → List Char
  | null => ['n', 'u', 'l', 'l']
  | bool true => ['t', 'r', 'u', 'e']
  | bool false => ['f', 'a', 'l', 's', 'e']
  | int n => Text.signedDecimal n
  | decimal text => text.toList
  | str s => quotedChars s
  | arr [] => ['[', ']']
  | arr (v :: items) =>
      '[' :: layout.lineBreak (depth + 1) ++ chars layout (depth + 1) v
        ++ itemChars layout (depth + 1) items ++ layout.lineBreak depth ++ [']']
  | obj [] => ['\x7b', '\x7d']
  | obj ((k, v) :: fields) =>
      '\x7b' :: layout.lineBreak (depth + 1) ++ quotedChars k ++ layout.colon
        ++ chars layout (depth + 1) v ++ fieldChars layout (depth + 1) fields
        ++ layout.lineBreak depth ++ ['\x7d']

/-- The items behind the first one, each behind a comma. -/
def itemChars (layout : Layout) (depth : Nat) : List Json → List Char
  | [] => []
  | v :: items =>
      ',' :: layout.lineBreak depth ++ chars layout depth v ++ itemChars layout depth items

/-- The fields behind the first one, each behind a comma. -/
def fieldChars (layout : Layout) (depth : Nat) : List (String × Json) → List Char
  | [] => []
  | (k, v) :: fields =>
      ',' :: layout.lineBreak depth ++ quotedChars k ++ layout.colon ++ chars layout depth v
        ++ fieldChars layout depth fields

end

/-- The text of a value. -/
def write (layout : Layout) (v : Json) : String := String.ofList (chars layout 0 v)

/-- The text of a value on one line. -/
def compact (v : Json) : String := v.write .compact

/-- The text of a value over lines. -/
def pretty (v : Json) : String := v.write .pretty

end GestureTimeline.Json
