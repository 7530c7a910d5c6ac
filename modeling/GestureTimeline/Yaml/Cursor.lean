/-! # Places in a YAML text

    A cursor is the text ahead together with the place that it starts at.  Five characters break
    lines, and a carriage return with the line feed behind it is one break. -/

namespace GestureTimeline.Yaml

/-- The blanks that may stand inside a line. -/
def isBlank (c : Char) : Bool := c == ' ' || c == '\t'

/-- The characters that end a line. -/
def isBreak (c : Char) : Bool :=
  c == '\n' || c == '\r' || c == '\u0085' || c == '\u2028' || c == '\u2029'

/-- The break that a line's end stands for inside a scalar. -/
def breakChar (c : Char) : Char :=
  if c == '\u2028' || c == '\u2029' then c else '\n'

/-- The characters of names of anchors, handles and directives. -/
def isWordChar (c : Char) : Bool := c.isAlphanum || c == '_' || c == '-'

/-- The characters that a YAML text may hold. -/
def isAllowed (c : Char) : Bool :=
  let n := c.toNat
  n == 0x09 || n == 0x0a || n == 0x0d || (0x20 ≤ n && n ≤ 0x7e) || n == 0x85
    || (0xa0 ≤ n && n ≤ 0xd7ff) || (0xe000 ≤ n && n ≤ 0xfffd && n != 0xfeff)
    || 0x10000 ≤ n

/-- Whether a text starts with a blank or a break, or has ended. -/
def atGap : List Char → Bool
  | [] => true
  | c :: _ => isBlank c || isBreak c

/-- Whether a text starts with a break, or has ended. -/
def atLineEnd : List Char → Bool
  | [] => true
  | c :: _ => isBreak c

/-- The text ahead and the place where it starts. -/
structure Cursor where
  rest : List Char
  line : Nat
  column : Nat
  /-- The number of characters before this place. -/
  index : Nat
  deriving Inhabited

namespace Cursor

/-- The start of a text. -/
def start (text : List Char) : Cursor := ⟨text, 0, 0, 0⟩

/-- The place some characters further on the same line. -/
def advance (c : Cursor) (n : Nat) : Cursor :=
  { c with rest := c.rest.drop n, column := c.column + n, index := c.index + n }

/-- The start of the next line, for a cursor that stands before a break. -/
def nextLine (c : Cursor) : Cursor :=
  match c.rest with
  | '\r' :: '\n' :: rest => ⟨rest, c.line + 1, 0, c.index + 2⟩
  | _ :: rest => ⟨rest, c.line + 1, 0, c.index + 1⟩
  | [] => c

/-- The place behind all characters of a class; breaks must not be in it. -/
def skipWhile (c : Cursor) (p : Char → Bool) : Cursor :=
  c.advance (c.rest.takeWhile p).length

/-- The place behind a comment, if one starts here. -/
def skipComment (c : Cursor) : Cursor :=
  match c.rest with
  | '#' :: _ => c.skipWhile (!isBreak ·)
  | _ => c

/-- The place behind a break, if one stands here. -/
def skipBreak (c : Cursor) : Cursor :=
  match c.rest with
  | ch :: _ => if isBreak ch then c.nextLine else c
  | [] => c

/-- The break that stands here, as it counts inside a scalar. -/
def breakHere (c : Cursor) : List Char :=
  match c.rest with
  | ch :: _ => if isBreak ch then [breakChar ch] else []
  | [] => []

/-- The rest of a line, which may hold blanks and a comment and nothing else. -/
def lineEnd? (c : Cursor) : Option Cursor :=
  let c := (c.skipWhile isBlank).skipComment
  if atLineEnd c.rest then some c.skipBreak else none

/-- Whether a line starts here with three times the same mark and then a gap. -/
def atTripleMark (mark : Char) (c : Cursor) : Bool :=
  c.column == 0 &&
    match c.rest with
    | x :: y :: z :: rest => x == mark && y == mark && z == mark && atGap rest
    | _ => false

/-- Whether a line starts here that begins or ends a document. -/
def atDocumentMark (c : Cursor) : Bool := c.atTripleMark '-' || c.atTripleMark '.'

end Cursor

end GestureTimeline.Yaml
