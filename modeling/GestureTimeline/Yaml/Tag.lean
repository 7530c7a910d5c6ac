import GestureTimeline.Yaml.Scalar

/-! # Tags, anchors and directives

    The small properties of nodes and documents.  A tag is a handle and a suffix; the handle is
    expanded when the node is read.  A percent sign in a tag writes one octet of a character, and
    an octet beyond ASCII is kept as the character of its number. -/

namespace GestureTimeline.Yaml

/-! ## Anchors -/

/-- Whether an anchor's name may end before this text. -/
def endsName (rest : List Char) : Bool :=
  atGap rest || rest.head?.any fun c => ['?', ':', ',', ']', '\x7d', '%', '@', '\x60'].contains c

/-- The name behind the mark of an anchor or an alias. -/
def anchorName? (c : Cursor) : Option (List Char × Cursor) :=
  let c := c.advance 1
  let name := c.rest.takeWhile isWordChar
  let c := c.advance name.length
  if name.isEmpty || !endsName c.rest then none else some (name, c)

/-! ## Tags -/

/-- The characters of a tag; some are only allowed where `wide` says so. -/
def isTagChar (wide : Bool) (c : Char) : Bool :=
  isWordChar c
    || [';', '/', '?', ':', '@', '&', '=', '+', '$', '.', '%', '!', '~', '*', '\'', '(',
        ')'].contains c
    || (wide && [',', '[', ']'].contains c)

/-- The number of octets of the character that an octet starts. -/
def octetCount? (n : Nat) : Option Nat :=
  if n < 0x80 then some 1
  else if n / 0x20 = 6 then some 2
  else if n / 0x10 = 14 then some 3
  else if n / 8 = 30 then some 4
  else none

/-- One octet behind a percent sign. -/
def octet? : List Char → Option Nat
  | '%' :: a :: b :: _ => Text.number? 16 [a, b]
  | _ => none

/-- The octets that continue a character. -/
def furtherOctets? : Nat → List Char → Option (List Char)
  | 0, _ => some []
  | count + 1, rest => do
      let n ← octet? rest
      if n / 0x40 ≠ 2 then none
      return Char.ofNat n :: (← furtherOctets? count (rest.drop 3))

/-- The octets of one character written with percent signs. -/
def percentOctets? (rest : List Char) : Option (List Char) := do
  let n ← octet? rest
  return Char.ofNat n :: (← furtherOctets? ((← octetCount? n) - 1) (rest.drop 3))

/-- The run of tag characters ahead, and the place behind it. -/
def tagTextFrom? (wide : Bool) : Nat → List Char → Cursor → Option (List Char × Cursor)
  | 0, text, c => some (text, c)
  | steps + 1, text, c =>
      match c.rest with
      | '%' :: _ =>
          match percentOctets? c.rest with
          | none => none
          | some octets => tagTextFrom? wide steps (text ++ octets) (c.advance (3 * octets.length))
      | ch :: _ =>
          if isTagChar wide ch then tagTextFrom? wide steps (text ++ [ch]) (c.advance 1)
          else some (text, c)
      | [] => some (text, c)

/-- The run of tag characters ahead, behind some that were read before. -/
def tagText? (wide : Bool) (before : List Char) (c : Cursor) : Option (List Char × Cursor) :=
  tagTextFrom? wide (c.rest.length + 1) before c

/-- A run that has at least one character. -/
def someTagText? (wide : Bool) (c : Cursor) : Option (List Char × Cursor) :=
  match tagText? wide [] c with
  | some ([], _) => none
  | r => r

/-- The characters of a handle: an exclamation mark, a name, and perhaps a second mark. -/
def handleText (c : Cursor) : Option (List Char × Cursor) :=
  match c.rest with
  | '!' :: rest =>
      let name := rest.takeWhile isWordChar
      let c := c.advance (name.length + 1)
      match c.rest with
      | '!' :: _ => some ('!' :: name ++ ['!'], c.advance 1)
      | _ => some ('!' :: name, c)
  | _ => none

/-- Whether the characters of a handle end with a mark of their own. -/
def isClosedHandle (handle : List Char) : Bool :=
  1 < handle.length && handle.getLast? == some '!'

/-- A tag: in angle brackets, with a handle, or local. -/
def tagParts? (c : Cursor) : Option (List Char × List Char × Cursor) :=
  match c.rest with
  | '!' :: '<' :: _ => do
      let (suffix, c) ← someTagText? true (c.advance 2)
      if c.rest.head? == some '>' then return ([], suffix, c.advance 1) else none
  | _ => do
      let (handle, after) ← handleText c
      if isClosedHandle handle then
        let (suffix, c) ← someTagText? false after
        return (handle, suffix, c)
      else
        let (suffix, c) ← tagText? false (handle.drop 1) after
        return if suffix.isEmpty then ([], ['!'], c) else (['!'], suffix, c)

/-- A tag that stands here, behind which a gap follows or, in a flow collection, a comma. -/
def tag? (flow : Bool) (c : Cursor) : Option (Token × Cursor) := do
  let (handle, suffix, c) ← tagParts? c
  if atGap c.rest || (flow && c.rest.head? == some ',') then return (.tag handle suffix, c)
  else none

/-! ## Directives -/

/-- A part of a version, of at most nine digits. -/
def versionPart? (c : Cursor) : Option (Nat × Cursor) :=
  let digits := c.rest.takeWhile Char.isDigit
  if 9 < digits.length then none
  else (Text.number? 10 digits).map (·, c.advance digits.length)

/-- The version that a directive gives. -/
def versionDirective? (c : Cursor) : Option (Token × Cursor) := do
  let (major, c) ← versionPart? (c.skipWhile isBlank)
  if c.rest.head? != some '.' then none
  let (minor, c) ← versionPart? (c.advance 1)
  return (.versionDirective major minor, c)

/-- The handle that a directive defines, and what it stands for. -/
def tagDirective? (c : Cursor) : Option (Token × Cursor) := do
  let (handle, c) ← handleText (c.skipWhile isBlank)
  if handle != ['!'] && !isClosedHandle handle then none
  if !c.rest.head?.any isBlank then none
  let (expansion, c) ← someTagText? true (c.skipWhile isBlank)
  if !atGap c.rest then none
  return (.tagDirective handle expansion, c)

/-- A directive whose percent sign stands here, with the rest of its line. -/
def directive? (c : Cursor) : Option (Token × Cursor) := do
  let c := c.advance 1
  let name := c.rest.takeWhile isWordChar
  let c := c.advance name.length
  if !atGap c.rest then none
  let (token, c) ←
    if name = "YAML".toList then versionDirective? c
    else if name = "TAG".toList then tagDirective? c
    else none
  return (token, ← c.lineEnd?)

end GestureTimeline.Yaml
