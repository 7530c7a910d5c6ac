import GestureTimeline.Text.Digits
import GestureTimeline.Yaml.Token

/-! # The scalars of a YAML text

    A scalar may go over several lines.  In plain and quoted scalars a single break between lines
    folds into a blank and the blanks around it vanish; a block scalar is what stands at its own
    indentation.  Each reader returns the characters of the scalar and the place behind it. -/

namespace GestureTimeline.Yaml

/-! ## Gaps between words -/

/-- The blanks and breaks between two words of a scalar. -/
structure Gap where
  /-- The blanks of a gap without a break. -/
  blanks : List Char := []
  /-- Whether the gap goes over the end of a line. -/
  broken : Bool := false
  /-- The first break; a gap that began with an escaped break has none. -/
  first : List Char := []
  /-- The further breaks. -/
  more : List Char := []
  deriving Inhabited

namespace Gap

/-- What a gap contributes to its scalar. -/
def folded (g : Gap) : List Char :=
  if !g.broken then g.blanks
  else if g.first = ['\n'] then if g.more.isEmpty then [' '] else g.more
  else g.first ++ g.more

/-- A gap with a further break. -/
def addBreak (g : Gap) (b : List Char) : Gap :=
  if g.broken then { g with more := g.more ++ b }
  else { blanks := [], broken := true, first := b, more := [] }

/-- Reads on in a gap.  On a continued line no tab may stand left of the column `least`. -/
def readFrom? (least : Nat) : Nat → Gap → Cursor → Option (Gap × Cursor)
  | 0, g, c => some (g, c)
  | steps + 1, g, c =>
      match c.rest with
      | [] => some (g, c)
      | ch :: _ =>
          if isBlank ch then
            if !g.broken then
              readFrom? least steps { g with blanks := g.blanks ++ [ch] } (c.advance 1)
            else if ch == '\t' && c.column < least then none
            else readFrom? least steps g (c.advance 1)
          else if isBreak ch then readFrom? least steps (g.addBreak c.breakHere) c.nextLine
          else some (g, c)

/-- Reads a gap to its end. -/
def read? (least : Nat) (g : Gap) (c : Cursor) : Option (Gap × Cursor) :=
  readFrom? least c.rest.length g c

end Gap

/-! ## Plain scalars -/

/-- The characters that separate the parts of a flow collection. -/
def isFlowMark (c : Char) : Bool :=
  c == ',' || c == '[' || c == ']' || c == '\x7b' || c == '\x7d'

/-- The next word of a plain scalar.  It ends before a colon that a gap follows, and in a flow
    collection before its marks; there a colon may not touch a mark. -/
def plainWord? (flow : Bool) : List Char → Option (List Char)
  | [] => some []
  | ':' :: rest =>
      if flow && rest.head?.any (fun c => isFlowMark c || c == '?') then none
      else if atGap rest then some []
      else (plainWord? flow rest).map (':' :: ·)
  | c :: rest =>
      if isBlank c || isBreak c || (flow && isFlowMark c) then some []
      else (plainWord? flow rest).map (c :: ·)

/-- Reads on in a plain scalar, whose words so far are `done` and whose last gap is `gap`.  Also
    tells whether the scalar ended on a later line than its last word. -/
def plainFrom? (flow : Bool) (least : Nat) :
    Nat → List Char → Gap → Cursor → Option (List Char × Bool × Cursor)
  | 0, done, gap, c => some (done, gap.broken, c)
  | steps + 1, done, gap, c =>
      if c.atDocumentMark || c.rest.head? == some '#' then some (done, gap.broken, c)
      else
        match plainWord? flow c.rest with
        | none => none
        | some [] => some (done, gap.broken, c)
        | some word =>
            let done := done ++ gap.folded ++ word
            let c := c.advance word.length
            if c.rest.isEmpty || !atGap c.rest then some (done, false, c)
            else
              match Gap.read? least {} c with
              | none => none
              | some (gap, c) =>
                  if !flow && c.column < least then some (done, gap.broken, c)
                  else plainFrom? flow least steps done gap c

/-- A plain scalar.  Outside flow collections its further lines must reach the column `least`. -/
def plainScalar? (flow : Bool) (least : Nat) (c : Cursor) :
    Option (List Char × Bool × Cursor) :=
  plainFrom? flow least (c.rest.length + 1) [] {} c

/-! ## Quoted scalars -/

/-- The character that a letter stands for behind a backslash. -/
def escapeChar? : Char → Option Char
  | '0' => some '\x00'
  | 'a' => some '\x07'
  | 'b' => some '\x08'
  | 't' | '\t' => some '\t'
  | 'n' => some '\n'
  | 'v' => some '\x0b'
  | 'f' => some '\x0c'
  | 'r' => some '\r'
  | 'e' => some '\x1b'
  | ' ' => some ' '
  | '"' => some '"'
  | '/' => some '/'
  | '\\' => some '\\'
  | 'N' => some '\u0085'
  | '_' => some '\u00a0'
  | 'L' => some '\u2028'
  | 'P' => some '\u2029'
  | _ => none

/-- The number of digits that follow a letter behind a backslash. -/
def escapeWidth? : Char → Option Nat
  | 'x' => some 2
  | 'u' => some 4
  | 'U' => some 8
  | _ => none

/-- The character of an escape, and the length of the escape without its backslash. -/
def escape? : List Char → Option (Char × Nat)
  | [] => none
  | l :: rest =>
      match escapeWidth? l with
      | some width => do
          let digits := rest.take width
          if digits.length < width then none
          let n ← Text.number? 16 digits
          if n.isValidChar then some (Char.ofNat n, width + 1) else none
      | none => (escapeChar? l).map (·, 1)

/-- How a word of a quoted scalar ends. -/
inductive WordEnd where
  /-- Before a gap or at the end of the text. -/
  | gap
  /-- Before the closing quote. -/
  | quote
  /-- At a backslash before a break. -/
  | escapedBreak
  deriving DecidableEq

/-- Reads on in a word between single quotes, in which two quotes stand for one. -/
def singleWord : Nat → List Char → Cursor → List Char × WordEnd × Cursor
  | 0, word, c => (word, .gap, c)
  | steps + 1, word, c =>
      match c.rest with
      | '\'' :: '\'' :: _ => singleWord steps (word ++ ['\'']) (c.advance 2)
      | '\'' :: _ => (word, .quote, c)
      | ch :: _ =>
          if isBlank ch || isBreak ch then (word, .gap, c)
          else singleWord steps (word ++ [ch]) (c.advance 1)
      | [] => (word, .gap, c)

/-- Reads on in a word between double quotes. -/
def doubleWord? : Nat → List Char → Cursor → Option (List Char × WordEnd × Cursor)
  | 0, word, c => some (word, .gap, c)
  | steps + 1, word, c =>
      match c.rest with
      | '"' :: _ => some (word, .quote, c)
      | '\\' :: rest =>
          if rest.head?.any isBreak then some (word, .escapedBreak, c)
          else
            match escape? rest with
            | none => none
            | some (ch, width) => doubleWord? steps (word ++ [ch]) (c.advance (width + 1))
      | ch :: _ =>
          if isBlank ch || isBreak ch then some (word, .gap, c)
          else doubleWord? steps (word ++ [ch]) (c.advance 1)
      | [] => some (word, .gap, c)

/-- The next word of a quoted scalar. -/
def quotedWord? (single : Bool) (c : Cursor) : Option (List Char × WordEnd × Cursor) :=
  if single then some (singleWord (c.rest.length + 1) [] c)
  else doubleWord? (c.rest.length + 1) [] c

/-- Reads on in a quoted scalar, whose characters so far are `done`. -/
def quotedFrom? (single : Bool) : Nat → List Char → Cursor → Option (List Char × Cursor)
  | 0, _, _ => none
  | steps + 1, done, c =>
      if c.atDocumentMark || c.rest.isEmpty then none
      else
        match quotedWord? single c with
        | none => none
        | some (word, .quote, c) => some (done ++ word, c.advance 1)
        | some (word, .gap, c) =>
            match Gap.read? 0 {} c with
            | none => none
            | some (gap, c) => quotedFrom? single steps (done ++ word ++ gap.folded) c
        | some (word, .escapedBreak, c) =>
            let c := (c.advance 1).nextLine
            if c.rest.head? == some (if single then '\'' else '"') then
              some (done ++ word, c.advance 1)
            else
              match Gap.read? 0 { broken := true } c with
              | none => none
              | some (gap, c) => quotedFrom? single steps (done ++ word ++ gap.folded) c

/-- A quoted scalar whose opening quote stands here. -/
def quotedScalar? (single : Bool) (c : Cursor) : Option (List Char × Cursor) :=
  quotedFrom? single (c.rest.length + 1) [] (c.advance 1)

/-! ## Block scalars -/

/-- What happens to the breaks at the end of a block scalar. -/
inductive Chomping where
  | strip
  | clip
  | keep
  deriving DecidableEq, Inhabited

/-- The sign of a chomping. -/
def chomping? : Char → Option Chomping
  | '-' => some .strip
  | '+' => some .keep
  | _ => none

/-- The indentation that a digit gives, zero excluded. -/
def increment? (c : Char) : Option Nat :=
  if c == '0' then none else Text.number? 10 [c]

/-- A sign of chomping and a digit of indentation, in either order and each of them optional. -/
def blockHeader? (c : Cursor) : Option (Chomping × Nat × Cursor) :=
  match c.rest with
  | [] => some (.clip, 0, c)
  | x :: rest =>
      match chomping? x, rest with
      | some chomping, y :: _ =>
          if y.isDigit then (increment? y).map (chomping, ·, c.advance 2)
          else some (chomping, 0, c.advance 1)
      | some chomping, [] => some (chomping, 0, c.advance 1)
      | none, rest =>
          if x.isDigit then
            match increment? x, rest.head?.bind chomping? with
            | none, _ => none
            | some n, some chomping => some (chomping, n, c.advance 2)
            | some n, none => some (.clip, n, c.advance 1)
          else some (.clip, 0, c)

/-- The empty lines ahead in a block scalar: their breaks, the widest indentation met and the
    place of the next text.  An indentation of zero is one that is still to be found. -/
def blockBreaksFrom? (indent : Nat) :
    Nat → List Char → Nat → Cursor → Option (List Char × Nat × Cursor)
  | 0, breaks, widest, c => some (breaks, widest, c)
  | steps + 1, breaks, widest, c =>
      let spaces := (c.rest.takeWhile (· == ' ')).length
      let c := c.advance (if indent = 0 then spaces else min spaces (indent - c.column))
      let widest := max widest c.column
      match c.rest with
      | [] => some (breaks, widest, c)
      | ch :: _ =>
          if ch == '\t' && (indent = 0 || c.column < indent) then none
          else if isBreak ch then
            blockBreaksFrom? indent steps (breaks ++ c.breakHere) widest c.nextLine
          else some (breaks, widest, c)

/-- The empty lines ahead in a block scalar, with the indentation that holds from then on; an
    indentation found here is larger than that of the surrounding block, which `least` is. -/
def blockBreaks? (least indent : Nat) (c : Cursor) : Option (List Char × Nat × Cursor) := do
  let (breaks, widest, c) ← blockBreaksFrom? indent (c.rest.length + 1) [] 0 c
  let indent := if indent = 0 then max widest (max least 1) else indent
  return (breaks, indent, c)

/-- What a block scalar has read so far. -/
structure BlockText where
  done : List Char := []
  /-- The break at the end of the last line. -/
  lineBreak : List Char := []
  /-- The breaks of the empty lines behind the last line. -/
  emptyLines : List Char := []
  /-- Whether the last line started with a blank. -/
  indented : Bool := false
  deriving Inhabited

namespace BlockText

/-- What stands before a further line, which starts with a blank or not.  In a folded scalar the
    break between two lines that start with no blank is folded. -/
def joint (literal : Bool) (b : BlockText) (indented : Bool) : List Char :=
  if !literal && b.lineBreak == ['\n'] && !b.indented && !indented then
    if b.emptyLines.isEmpty then [' '] else b.emptyLines
  else b.lineBreak ++ b.emptyLines

/-- The scalar, with its end as the chomping says. -/
def finish (b : BlockText) : Chomping → List Char
  | .strip => b.done
  | .clip => b.done ++ b.lineBreak
  | .keep => b.done ++ b.lineBreak ++ b.emptyLines

end BlockText

/-- Reads on in a block scalar line by line. -/
def blockFrom? (literal : Bool) (indent : Nat) :
    Nat → BlockText → Cursor → Option (BlockText × Cursor)
  | 0, b, c => some (b, c)
  | steps + 1, b, c =>
      if c.column == indent && !c.rest.isEmpty then
        let indented := c.rest.head?.any isBlank
        let line := c.rest.takeWhile (!isBreak ·)
        let c := c.advance line.length
        match blockBreaks? 0 indent c.skipBreak with
        | none => none
        | some (breaks, _, next) =>
            blockFrom? literal indent steps
              { done := b.done ++ b.joint literal indented ++ line
                lineBreak := c.breakHere
                emptyLines := breaks
                indented := indented } next
      else some (b, c)

/-- A block scalar whose mark stands here, inside a block whose contents must reach the column
    `least`. -/
def blockScalar? (literal : Bool) (least : Nat) (c : Cursor) : Option (List Char × Cursor) := do
  let (chomping, increment, c) ← blockHeader? (c.advance 1)
  let c ← c.lineEnd?
  let indent := if increment = 0 then 0 else (least - 1) + increment
  let (breaks, indent, c) ← blockBreaks? least indent c
  let (b, c) ← blockFrom? literal indent (c.rest.length + 1) { emptyLines := breaks } c
  return (b.finish chomping, c)

end GestureTimeline.Yaml
