import GestureTimeline.Text.Quoted
import GestureTimeline.Yaml.Schema

/-! # Writing YAML

    Values are written in blocks, two columns for each level; the items of a sequence stand at
    the column of the key that holds it.  A text is written plain where that reads back as the
    same text, else between quotes, and as a literal block when it has several lines. -/

namespace GestureTimeline.Yaml

/-! ## Texts -/

/-- Whether a character can be written as it stands; tabs, next-line marks and characters beyond
    16 bits are always escaped. -/
def isWritable (c : Char) : Bool :=
  let n := c.toNat
  n == 0x0a || (0x20 ≤ n && n ≤ 0x7e) || (0xa0 ≤ n && n ≤ 0xfffd && n != 0xfeff)

/-- Whether a text starts like a mark of a document. -/
def startsLikeMark : List Char → Bool
  | '-' :: '-' :: '-' :: _ => true
  | '.' :: '.' :: '.' :: _ => true
  | _ => false

/-- Whether the first character of a text keeps it from being plain. -/
def hasIndicatorStart : List Char → Bool
  | [] => false
  | c :: rest =>
      ['#', ',', '[', ']', '\x7b', '\x7d', '&', '*', '!', '|', '>', '\'', '"', '%', '@',
          '\x60'].contains c
        || (['?', ':', '-'].contains c && atGap rest)

/-- Whether a colon before a gap or a hash behind one keeps the rest of a text, whose character
    before is given, from being plain. -/
def hasInnerIndicator (before : Char) : List Char → Bool
  | [] => false
  | c :: rest =>
      (c == ':' && atGap rest) || (c == '#' && (isBlank before || isBreak before))
        || hasInnerIndicator c rest

/-- Whether two characters of two classes follow each other. -/
def hasPair (p q : Char → Bool) : List Char → Bool
  | a :: b :: rest => (p a && q b) || hasPair p q (b :: rest)
  | _ => false

/-- The characters that blanks are for a writer: a tab is never written as it stands. -/
def isSpace (c : Char) : Bool := c == ' '

/-- Whether a blank before a break, or a character that must be escaped, forbids every style
    but double quotes. -/
def needsEscapes (s : List Char) : Bool :=
  hasPair isSpace isBreak s || !s.all isWritable

/-- Whether a text can stand without quotes. -/
def allowsPlain : List Char → Bool
  | [] => true
  | c :: rest =>
      let s := c :: rest
      !(isSpace c || s.getLast?.any isSpace || s.any isBreak || needsEscapes s
        || startsLikeMark s || hasIndicatorStart s || hasInnerIndicator c rest)

/-- Whether a text can stand between single quotes. -/
def allowsSingle (s : List Char) : Bool := !(hasPair isBreak isSpace s || needsEscapes s)

/-- Whether a text can stand as a block. -/
def allowsBlock (s : List Char) : Bool :=
  !(s.isEmpty || s.getLast?.any isSpace || needsEscapes s)

/-- Whether a text would be read as something else, or looks like a number, when it is plain. -/
def readsAsOther (s : List Char) : Bool :=
  hasLeadingZero s ||
    match plainDatum? s with
    | some (.str _) => false
    | _ => true

/-- Blanks up to a column. -/
def blanks (column : Nat) : List Char := List.replicate column ' '

/-- The characters of a text between single quotes.  A line that follows a break is indented. -/
def singleBody (column : Nat) (broken : Bool) : List Char → List Char
  | [] => if broken then blanks column else []
  | c :: rest =>
      if isBreak c then c :: singleBody column true rest
      else
        (if broken then blanks column else []) ++ (if c == '\'' then ['\'', c] else [c])
          ++ singleBody column false rest

/-- The letter that stands behind a backslash for a character, if it has one. -/
def writtenLetter? : Char → Option Char
  | '\x00' => some '0'
  | '\x07' => some 'a'
  | '\x08' => some 'b'
  | '\t' => some 't'
  | '\n' => some 'n'
  | '\x0b' => some 'v'
  | '\x0c' => some 'f'
  | '\r' => some 'r'
  | '\x1b' => some 'e'
  | '"' => some '"'
  | '\\' => some '\\'
  | '\u0085' => some 'N'
  | '\u2028' => some 'L'
  | '\u2029' => some 'P'
  | _ => none

/-- A character between double quotes. -/
def doubleChar (c : Char) : List Char :=
  match writtenLetter? c with
  | some l => ['\\', l]
  | none =>
      if isWritable c then [c]
      else
        let n := c.toNat
        if n ≤ 0xff then '\\' :: 'x' :: Text.paddedHex 2 n
        else if n ≤ 0xffff then '\\' :: 'u' :: Text.paddedHex 4 n
        else '\\' :: 'U' :: Text.paddedHex 8 n

/-- The signs behind the mark of a literal block: the indentation when the text does not show
    it, and what becomes of the breaks at its end. -/
def literalSigns (s : List Char) : List Char :=
  let indentation := if s.head?.any fun c => isSpace c || isBreak c then ['2'] else []
  let chomping := match s.reverse with
    | [] => ['-']
    | [c] => if isBreak c then ['+'] else ['-']
    | c :: d :: _ => if !isBreak c then ['-'] else if isBreak d then ['+'] else []
  indentation ++ chomping

/-- The lines of a literal block.  A line that is not empty is indented. -/
def literalBody (column : Nat) (broken : Bool) : List Char → List Char
  | [] => []
  | c :: rest =>
      if isBreak c then c :: literalBody column true rest
      else (if broken then blanks column else []) ++ c :: literalBody column false rest

/-- A text as a scalar whose further lines stand at a column.  Also tells whether the line is
    ended by the text itself. -/
def scalarChars (column : Nat) (s : List Char) : List Char × Bool :=
  let double := '"' :: s.flatMap doubleChar ++ ['"']
  let single :=
    if allowsSingle s then '\'' :: singleBody column false s ++ ['\''] else double
  if s.contains '\n' then
    if allowsBlock s then
      ('|' :: literalSigns s ++ '\n' :: literalBody column true s, s.getLast?.any isBreak)
    else (double, false)
  else if !readsAsOther s && allowsPlain s then (s, false)
  else (single, false)

/-- A text as a scalar with the end of its line. -/
def scalarLine (column : Nat) (s : List Char) : List Char :=
  let (chars, ended) := scalarChars column s
  if ended then chars else chars ++ ['\n']

/-! ## Values -/

mutual

/-- A value behind its key, whose mapping stands at a column. -/
def valueChars (column : Nat) : Json → List Char
  | .arr [] => " []\n".toList
  | .arr (v :: items) => '\n' :: itemChars column (v :: items)
  | .obj [] => [' ', '\x7b', '\x7d', '\n']
  | .obj (f :: fields) => '\n' :: fieldChars (column + 2) true (f :: fields)
  | .str s => ' ' :: scalarLine (column + 2) s.toList
  | .null => " null\n".toList
  | .bool b => ' ' :: (toString b).toList ++ ['\n']
  | .int n => ' ' :: Text.signedDecimal n ++ ['\n']
  | .decimal text => ' ' :: text.toList ++ ['\n']

/-- The items of a sequence that stands at a column. -/
def itemChars (column : Nat) : List Json → List Char
  | [] => []
  | v :: items => blanks column ++ '-' :: ' ' :: itemBody column v ++ itemChars column items

/-- An item of a sequence, whose first line has begun. -/
def itemBody (column : Nat) : Json → List Char
  | .arr [] => "[]\n".toList
  | .arr (v :: items) => '-' :: ' ' :: itemBody (column + 2) v ++ itemChars (column + 2) items
  | .obj [] => ['\x7b', '\x7d', '\n']
  | .obj (f :: fields) => fieldChars (column + 2) false (f :: fields)
  | .str s => scalarLine (column + 2) s.toList
  | .null => "null\n".toList
  | .bool b => (toString b).toList ++ ['\n']
  | .int n => Text.signedDecimal n ++ ['\n']
  | .decimal text => text.toList ++ ['\n']

/-- The fields of a mapping that stands at a column; `indented` says whether the first of them
    has a line of its own. -/
def fieldChars (column : Nat) (indented : Bool) : List (String × Json) → List Char
  | [] => []
  | (k, v) :: fields =>
      (if indented then blanks column else []) ++ (scalarChars (column + 2) k.toList).1
        ++ ':' :: valueChars column v ++ fieldChars column true fields

end

/-- The text of a value that is a mapping. -/
def write (fields : List (String × Json)) : String :=
  String.ofList (fieldChars 0 true fields)

end GestureTimeline.Yaml
