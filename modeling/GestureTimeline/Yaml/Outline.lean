import GestureTimeline.Yaml.Tag

/-! # From a YAML text to its tokens

    The reader of tokens keeps an outline of where it stands: the columns of the open blocks, and
    for every open collection the place where a key may have begun.  A colon turns that place
    into a key; a key must end on the line it began on, within 1024 characters. -/

namespace GestureTimeline.Yaml

/-- A place where a key may have begun. -/
structure KeyStart where
  /-- Whether the block has no other reading, so that a key must follow. -/
  required : Bool
  /-- The number of tokens in front of this place. -/
  position : Nat
  line : Nat
  column : Nat
  index : Nat
  deriving Inhabited

/-- Where the reader of tokens stands. -/
structure Outline where
  tokens : Array Token := #[]
  /-- The columns of the open blocks, the innermost first; none is open at the start. -/
  blocks : List Nat := []
  /-- Whether a key may begin at the next token. -/
  keyAllowed : Bool := true
  /-- The place of a possible key in the innermost collection. -/
  current : Option KeyStart := none
  /-- The places of possible keys outside the open flow collections, the innermost first. -/
  outer : List (Option KeyStart) := []
  deriving Inhabited

namespace Outline

/-- Whether the reader stands inside a flow collection. -/
def inFlow (o : Outline) : Bool := !o.outer.isEmpty

/-- The least column of what belongs to the innermost block. -/
def least (o : Outline) : Nat :=
  match o.blocks with
  | [] => 0
  | column :: _ => column + 1

/-- Adds a token. -/
def emit (o : Outline) (t : Token) : Outline := { o with tokens := o.tokens.push t }

/-- Adds a token in front of others. -/
def emitAt (o : Outline) (position : Nat) (t : Token) : Outline :=
  { o with tokens := o.tokens.insertIdxIfInBounds position t }

/-- Allows or forbids a key at the next token. -/
def allowKey (o : Outline) (allowed : Bool) : Outline := { o with keyAllowed := allowed }

/-! ## Blocks -/

/-- Opens a block at a column that lies deeper than the innermost block. -/
def openBlock (o : Outline) (column position : Nat) (t : Token) : Outline :=
  if !o.inFlow && o.least ≤ column then
    { o.emitAt position t with blocks := column :: o.blocks }
  else o

/-- Closes the blocks that lie deeper than the columns which `keep` accepts. -/
def closeBlocks (keep : Nat → Bool) (tokens : Array Token) : List Nat → Array Token × List Nat
  | [] => (tokens, [])
  | column :: blocks =>
      if keep column then (tokens, column :: blocks)
      else closeBlocks keep (tokens.push .blockEnd) blocks

/-- Closes blocks, unless the reader stands inside a flow collection. -/
def closeUnless (o : Outline) (keep : Nat → Bool) : Outline :=
  if o.inFlow then o
  else
    let (tokens, blocks) := closeBlocks keep o.tokens o.blocks
    { o with tokens, blocks }

/-- Closes the blocks that lie deeper than a column. -/
def closeDeeper (o : Outline) (column : Nat) : Outline := o.closeUnless (· ≤ column)

/-- Closes all blocks. -/
def closeAll (o : Outline) : Outline := o.closeUnless fun _ => false

/-! ## Possible keys -/

/-- What is left of a possible key when the reader has come to a place; a required key must not
    be lost. -/
def KeyStart.refresh? (c : Cursor) : Option KeyStart → Option (Option KeyStart)
  | none => some none
  | some k =>
      if k.line < c.line || k.index + 1024 < c.index then
        if k.required then none else some none
      else some (some k)

/-- Drops the possible keys that can no longer be keys. -/
def refreshKeys? (o : Outline) (c : Cursor) : Option Outline := do
  let current ← KeyStart.refresh? c o.current
  let outer ← o.outer.mapM (KeyStart.refresh? c)
  return { o with current, outer }

/-- Drops the possible key of the innermost collection. -/
def dropKey? (o : Outline) : Option Outline :=
  if o.current.any (·.required) then none else some { o with current := none }

/-- Notes that a key may begin at a place. -/
def noteKey? (o : Outline) (c : Cursor) : Option Outline :=
  if o.keyAllowed then do
    let required := !o.inFlow && o.blocks.head? == some c.column
    let o ← o.dropKey?
    return { o with current := some ⟨required, o.tokens.size, c.line, c.column, c.index⟩ }
  else some o

/-- Enters a flow collection. -/
def enterFlow (o : Outline) : Outline := { o with current := none, outer := o.current :: o.outer }

/-- Leaves a flow collection, if one is open. -/
def leaveFlow (o : Outline) : Outline :=
  match o.outer with
  | [] => o
  | k :: outer => { o with current := k, outer }

/-! ## Tokens -/

/-- The reading of one token: the outline and the place behind it. -/
abbrev Reading := Option (Outline × Cursor)

/-- Reads a mark that begins or ends a document. -/
def documentMark? (o : Outline) (c : Cursor) (t : Token) : Reading := do
  let o ← o.closeAll.dropKey?
  return ((o.allowKey false).emit t, c.advance 3)

/-- Reads a directive. -/
def directiveLine? (o : Outline) (c : Cursor) : Reading := do
  let o ← o.closeAll.dropKey?
  let (t, c) ← directive? c
  return ((o.allowKey false).emit t, c)

/-- Reads the opening mark of a flow collection. -/
def flowStart? (o : Outline) (c : Cursor) (t : Token) : Reading := do
  let o ← o.noteKey? c
  return ((o.enterFlow.allowKey true).emit t, c.advance 1)

/-- Reads the closing mark of a flow collection. -/
def flowEnd? (o : Outline) (c : Cursor) (t : Token) : Reading := do
  let o ← o.dropKey?
  return ((o.leaveFlow.allowKey false).emit t, c.advance 1)

/-- Reads the comma of a flow collection. -/
def flowEntry? (o : Outline) (c : Cursor) : Reading := do
  let o ← o.dropKey?
  return ((o.allowKey true).emit .flowEntry, c.advance 1)

/-- Opens a block for a mark that stands at a place where a key might; inside flow collections
    there is nothing to open. -/
def openFor? (o : Outline) (c : Cursor) (t : Token) : Option Outline :=
  if o.inFlow then some o
  else if o.keyAllowed then some (o.openBlock c.column o.tokens.size t)
  else none

/-- Reads the dash of a block sequence. -/
def blockEntry? (o : Outline) (c : Cursor) : Reading := do
  let o ← o.openFor? c .blockSequenceStart
  let o ← o.dropKey?
  return ((o.allowKey true).emit .blockEntry, c.advance 1)

/-- Reads the question mark of a key. -/
def keyMark? (o : Outline) (c : Cursor) : Reading := do
  let o ← o.openFor? c .blockMappingStart
  let o ← o.dropKey?
  return ((o.allowKey (!o.inFlow)).emit .key, c.advance 1)

/-- Reads the colon of a value.  If a key may have begun before it, that key is one. -/
def valueMark? (o : Outline) (c : Cursor) : Reading :=
  match o.current with
  | some k =>
      let o := (o.emitAt k.position .key).openBlock k.column k.position .blockMappingStart
      some (({ o with current := none }.allowKey false).emit .value, c.advance 1)
  | none => do
      let o ← o.openFor? c .blockMappingStart
      return ((o.allowKey (!o.inFlow)).emit .value, c.advance 1)

/-- Reads a property of a node or a scalar, at which a key may begin. -/
def property? (o : Outline) (c : Cursor) (read : Cursor → Option (Token × Cursor)) :
    Reading := do
  let o ← o.noteKey? c
  let (t, c) ← read c
  return ((o.allowKey false).emit t, c)

/-- Reads a block scalar. -/
def block? (o : Outline) (c : Cursor) (literal : Bool) : Reading := do
  let o ← o.dropKey?
  let (text, c) ← blockScalar? literal o.least c
  return ((o.allowKey true).emit (.scalar text (if literal then .literal else .folded)), c)

/-- Reads a quoted scalar. -/
def quoted? (o : Outline) (c : Cursor) (single : Bool) : Reading :=
  o.property? c fun c => (quotedScalar? single c).map fun (text, c) => (.scalar text .quoted, c)

/-- Reads a plain scalar.  Behind one that ends on a later line a key may begin. -/
def plain? (o : Outline) (c : Cursor) : Reading := do
  let o ← o.noteKey? c
  let (text, broken, c) ← plainScalar? o.inFlow o.least c
  return ((o.allowKey broken).emit (.scalar text .plain), c)

/-- The characters that no plain scalar starts with, unless a rule of its own allows it. -/
def isIndicator (c : Char) : Bool :=
  isFlowMark c
    || ['-', '?', ':', '#', '&', '*', '!', '|', '>', '\'', '"', '%', '@', '\x60'].contains c

/-- Reads the token at a place that is not at the end of the text. -/
def token? (o : Outline) (c : Cursor) (ch : Char) (rest : List Char) : Reading :=
  if c.column == 0 && ch == '%' then o.directiveLine? c
  else if c.atTripleMark '-' then o.documentMark? c .documentStart
  else if c.atTripleMark '.' then o.documentMark? c .documentEnd
  else if ch == '[' then o.flowStart? c .flowSequenceStart
  else if ch == '\x7b' then o.flowStart? c .flowMappingStart
  else if ch == ']' then o.flowEnd? c .flowSequenceEnd
  else if ch == '\x7d' then o.flowEnd? c .flowMappingEnd
  else if ch == ',' then o.flowEntry? c
  else if ch == '-' && atGap rest then o.blockEntry? c
  else if ch == '?' && (o.inFlow || atGap rest) then o.keyMark? c
  else if ch == ':' && (o.inFlow || atGap rest) then o.valueMark? c
  else if ch == '*' then o.property? c fun c => (anchorName? c).map fun (n, c) => (.reference n, c)
  else if ch == '&' then o.property? c fun c => (anchorName? c).map fun (n, c) => (.anchor n, c)
  else if ch == '!' then o.property? c (tag? o.inFlow)
  else if ch == '|' && !o.inFlow then o.block? c true
  else if ch == '>' && !o.inFlow then o.block? c false
  else if ch == '\'' then o.quoted? c true
  else if ch == '"' then o.quoted? c false
  else if !(isIndicator ch || isBlank ch || isBreak ch) || ch == '-'
      || (!o.inFlow && (ch == '?' || ch == ':')) then o.plain? c
  else none

/-- Skips blanks, comments and breaks up to the next token.  Outside flow collections a tab may
    not stand where a key may begin, and a new line lets a key begin. -/
def skipGap (o : Outline) : Nat → Cursor → Outline × Cursor
  | 0, c => (o, c)
  | steps + 1, c =>
      let tabs := o.inFlow || !o.keyAllowed
      let c := (c.skipWhile fun ch => ch == ' ' || (tabs && ch == '\t')).skipComment
      match c.rest with
      | [] => (o, c)
      | ch :: _ =>
          if isBreak ch then skipGap (if o.inFlow then o else o.allowKey true) steps c.nextLine
          else (o, c)

/-- Reads on token by token up to the end of the text. -/
def readFrom? : Nat → Outline → Cursor → Option Outline
  | 0, _, _ => none
  | steps + 1, o, c => do
      let (o, c) := o.skipGap (c.rest.length + 1) c
      let o ← o.refreshKeys? c
      match c.rest with
      | [] => o.closeAll.dropKey?
      | ch :: rest =>
          let (o, c) ← (o.closeDeeper c.column).token? c ch rest
          readFrom? steps o c

end Outline

/-- The tokens of a text, if it has only allowed characters and can be split into tokens. -/
def tokens? (text : String) : Option (List Token) := do
  let chars := match text.toList with
    | '\ufeff' :: cs => cs
    | cs => cs
  if chars.all isAllowed then
    let o ← Outline.readFrom? (chars.length + 2) {} (.start chars)
    return o.tokens.toList
  else none

end GestureTimeline.Yaml
