import GestureTimeline.Yaml.Outline

/-! # The tree of a YAML document

    Tokens are read into a tree of scalars, sequences and mappings.  An anchor gives its node a
    number, which is the count of different anchor names before it, and an alias refers to a
    number; the last node that got a number is the one that its aliases mean. -/

namespace GestureTimeline.Yaml

/-- The anchor number and the tag of a node. -/
structure Properties where
  anchor : Option Nat := none
  tag : Option (List Char) := none
  deriving Inhabited

/-- A node of a document. -/
inductive Node where
  | scalar (properties : Properties) (style : Style) (text : List Char)
  | sequence (properties : Properties) (items : List Node)
  | mapping (properties : Properties) (entries : List (Node × Node))
  | reference (anchor : Nat)
  deriving Inhabited

namespace Node

/-- The node of a place that is left empty. -/
def empty : Node := scalar {} .plain []

/-- The properties of a node. -/
def properties : Node → Properties
  | scalar p _ _ => p
  | sequence p _ => p
  | mapping p _ => p
  | reference _ => {}

mutual

/-- The number of places in a tree: one for a scalar or an alias, and two for a collection, at
    its start and its end, besides those in it. -/
def places : Node → Nat
  | scalar .. => 1
  | reference _ => 1
  | sequence _ items => 2 + itemPlaces items
  | mapping _ entries => 2 + entryPlaces entries

/-- The number of places in nodes. -/
def itemPlaces : List Node → Nat
  | [] => 0
  | n :: items => n.places + itemPlaces items

/-- The number of places in the entries of a mapping. -/
def entryPlaces : List (Node × Node) → Nat
  | [] => 0
  | (k, v) :: entries => k.places + v.places + entryPlaces entries

end

/-- A node with its anchor number in front of others. -/
def withAnchor (n : Node) (rest : List (Nat × Node)) : List (Nat × Node) :=
  match n.properties.anchor with
  | some a => (a, n) :: rest
  | none => rest

mutual

/-- The anchored nodes of a tree in the order in which they start. -/
def anchored : Node → List (Nat × Node)
  | scalar p s t => withAnchor (scalar p s t) []
  | sequence p items => withAnchor (sequence p items) (itemsAnchored items)
  | mapping p entries => withAnchor (mapping p entries) (entriesAnchored entries)
  | reference _ => []

/-- The anchored nodes among nodes. -/
def itemsAnchored : List Node → List (Nat × Node)
  | [] => []
  | n :: items => n.anchored ++ itemsAnchored items

/-- The anchored nodes among the entries of a mapping. -/
def entriesAnchored : List (Node × Node) → List (Nat × Node)
  | [] => []
  | (k, v) :: entries => k.anchored ++ v.anchored ++ entriesAnchored entries

end

end Node

/-! ## Reading tokens -/

/-- The tokens ahead, and the number that each anchor name has at this point. -/
structure Supply where
  tokens : List Token
  anchors : List (List Char × Nat) := []
  deriving Inhabited

/-- A step of reading a tree from tokens. -/
abbrev TreeReader := StateT Supply Option

namespace TreeReader

/-- The next token, which stays. -/
def peek : TreeReader (Option Token) := do return (← get).tokens.head?

/-- Whether the next token is one of some. -/
def isAt (ts : List Token) : TreeReader Bool := do
  return (← peek).any ts.contains

/-- Passes over the next token. -/
def skip : TreeReader Unit := modify fun s => { s with tokens := s.tokens.tail }

/-- Passes over the next token if it is a given one, and tells whether it was. -/
def accept (t : Token) : TreeReader Bool := do
  if ← isAt [t] then
    skip
    return true
  else return false

/-- Passes over a token that must come next. -/
def expect (t : Token) : TreeReader Unit := do
  if !(← accept t) then failure

/-- Gives a name the next anchor number. -/
def define (name : List Char) : TreeReader Nat := do
  let s ← get
  let n := s.anchors.length
  set { s with anchors := (name, n) :: s.anchors.filter (·.1 != name) }
  return n

end TreeReader

open TreeReader

/-- What the handles of tags stand for. -/
abbrev TagHandles := List (List Char × List Char)

/-- The tag that a handle and a suffix denote. -/
def expandTag? (handles : TagHandles) (handle suffix : List Char) : Option (List Char) :=
  if handle.isEmpty then some suffix
  else (handles.lookup handle).map (· ++ suffix)

/-- The anchor that stands here, if any. -/
def readAnchor : TreeReader (Option Nat) := do
  match ← peek with
  | some (.anchor name) =>
      skip
      return some (← define name)
  | _ => return none

/-- The tag that stands here, if any. -/
def readTag (handles : TagHandles) : TreeReader (Option (List Char)) := do
  match ← peek with
  | some (.tag handle suffix) =>
      skip
      match expandTag? handles handle suffix with
      | some tag => return some tag
      | none => failure
  | _ => return none

/-- An anchor and a tag in either order, each of them optional. -/
def readProperties (handles : TagHandles) : TreeReader Properties := do
  match ← readAnchor with
  | some a => return { anchor := some a, tag := ← readTag handles }
  | none =>
      let tag ← readTag handles
      if tag.isSome then return { anchor := ← readAnchor, tag }
      else return {}

/-- The properties of a scalar: a lone exclamation mark is no tag there. -/
def Properties.ofScalar (p : Properties) : Properties :=
  if p.tag == some ['!'] then { p with tag := none } else p

mutual

/-- Reads a node.  A block collection may only stand where `block` says so, and a sequence that
    is not indented only where `indentless` does. -/
def readNode (handles : TagHandles) (block indentless : Bool) : Nat → TreeReader Node
  | 0 => failure
  | steps + 1 => do
      match ← peek with
      | some (.reference name) =>
          skip
          match (← get).anchors.lookup name with
          | some n => return .reference n
          | none => failure
      | _ =>
          let p ← readProperties handles
          match ← peek, block, indentless with
          | some .blockEntry, _, true => return .sequence p (← readFlatItems handles steps)
          | some (.scalar text style), _, _ =>
              skip
              return .scalar p.ofScalar style text
          | some .flowSequenceStart, _, _ =>
              skip
              return .sequence p (← readFlowItems handles true steps)
          | some .flowMappingStart, _, _ =>
              skip
              return .mapping p (← readFlowEntries handles true steps)
          | some .blockSequenceStart, true, _ =>
              skip
              return .sequence p (← readBlockItems handles steps)
          | some .blockMappingStart, true, _ =>
              skip
              return .mapping p (← readBlockEntries handles steps)
          | _, _, _ =>
              if p.anchor.isSome || p.tag.isSome then return .scalar p .plain [] else failure

/-- Reads a node of a block, or an empty one before some tokens. -/
def readBlockNode (handles : TagHandles) (indentless : Bool) (ends : List Token) :
    Nat → TreeReader Node
  | 0 => failure
  | steps + 1 => do
      if ← isAt ends then return .empty else readNode handles true indentless steps

/-- Reads a node of a flow collection, or an empty one before some tokens. -/
def readFlowNode (handles : TagHandles) (ends : List Token) : Nat → TreeReader Node
  | 0 => failure
  | steps + 1 => do
      if ← isAt ends then return .empty else readNode handles false false steps

/-- Reads the items of a block sequence, and its end. -/
def readBlockItems (handles : TagHandles) : Nat → TreeReader (List Node)
  | 0 => failure
  | steps + 1 => do
      if ← accept .blockEntry then
        let n ← readBlockNode handles false [.blockEntry, .blockEnd] steps
        return n :: (← readBlockItems handles steps)
      else
        expect .blockEnd
        return []

/-- Reads the items of a sequence that is not indented; it ends where no dash follows. -/
def readFlatItems (handles : TagHandles) : Nat → TreeReader (List Node)
  | 0 => failure
  | steps + 1 => do
      if ← accept .blockEntry then
        let n ← readBlockNode handles false [.blockEntry, .key, .value, .blockEnd] steps
        return n :: (← readFlatItems handles steps)
      else return []

/-- Reads the entries of a block mapping, and its end. -/
def readBlockEntries (handles : TagHandles) : Nat → TreeReader (List (Node × Node))
  | 0 => failure
  | steps + 1 => do
      if ← accept .key then
        let k ← readBlockNode handles true [.key, .value, .blockEnd] steps
        let v ←
          if ← accept .value then readBlockNode handles true [.key, .value, .blockEnd] steps
          else pure .empty
        return (k, v) :: (← readBlockEntries handles steps)
      else
        expect .blockEnd
        return []

/-- Reads the items of a flow sequence, and its end.  An item may be a mapping of one entry
    without braces. -/
def readFlowItems (handles : TagHandles) (first : Bool) : Nat → TreeReader (List Node)
  | 0 => failure
  | steps + 1 => do
      if ← accept .flowSequenceEnd then return []
      if !first then expect .flowEntry
      if ← accept .flowSequenceEnd then return []
      let n ←
        if ← accept .key then readSingleEntry handles steps
        else readNode handles false false steps
      return n :: (← readFlowItems handles false steps)

/-- Reads a mapping of one entry in a flow sequence.  The mark behind an empty key is lost. -/
def readSingleEntry (handles : TagHandles) : Nat → TreeReader Node
  | 0 => failure
  | steps + 1 => do
      let k ←
        if ← isAt [.value, .flowEntry, .flowSequenceEnd] then
          skip
          pure .empty
        else readNode handles false false steps
      let v ←
        if ← accept .value then readFlowNode handles [.flowEntry, .flowSequenceEnd] steps
        else pure .empty
      return .mapping {} [(k, v)]

/-- Reads the entries of a flow mapping, and its end.  A node without a value is a key. -/
def readFlowEntries (handles : TagHandles) (first : Bool) : Nat → TreeReader (List (Node × Node))
  | 0 => failure
  | steps + 1 => do
      if ← accept .flowMappingEnd then return []
      if !first then expect .flowEntry
      if ← accept .flowMappingEnd then return []
      let entry ←
        if ← accept .key then
          let k ← readFlowNode handles [.value, .flowEntry, .flowMappingEnd] steps
          let v ←
            if ← accept .value then readFlowNode handles [.flowEntry, .flowMappingEnd] steps
            else pure .empty
          pure (k, v)
        else
          let k ← readNode handles false false steps
          pure (k, .empty)
      return entry :: (← readFlowEntries handles false steps)

end

/-! ## Documents -/

/-- The handles that need no directive. -/
def standardHandles : TagHandles :=
  [(['!'], ['!']), (['!', '!'], "tag:yaml.org,2002:".toList)]

/-- Reads the directives of a document.  There is at most one version, which must be known, and
    one expansion of each handle. -/
def readDirectives (versioned : Bool) (handles : TagHandles) : Nat → TreeReader TagHandles
  | 0 => failure
  | steps + 1 => do
      match ← peek with
      | some (.versionDirective major minor) =>
          if versioned || major != 1 || (minor != 1 && minor != 2) then failure
          skip
          readDirectives true handles steps
      | some (.tagDirective handle expansion) =>
          if (handles.lookup handle).isSome then failure
          skip
          readDirectives versioned ((handle, expansion) :: handles) steps
      | _ => return handles

/-- Whether a token is a directive. -/
def Token.isDirective : Token → Bool
  | versionDirective .. | tagDirective .. => true
  | _ => false

/-- Whether a document that has started is empty when this token follows. -/
def Token.endsContent (t : Token) : Bool :=
  t.isDirective || t == documentStart || t == documentEnd

/-- Reads the one document of a text; a text without any counts as an empty node.  Behind
    directives the start of the document must be marked. -/
def readDocument (steps : Nat) : TreeReader Node := do
  if (← peek).isNone then return .empty
  let directed := (← peek).any Token.isDirective
  let handles ← readDirectives false [] steps
  let start ← accept .documentStart
  if directed && !start then failure
  let handles := handles ++ standardHandles
  let n ←
    if start && ((← peek).all Token.endsContent) then pure .empty
    else readNode handles true false steps
  modify fun s => { s with tokens := s.tokens.dropWhile (· == .documentEnd) }
  if (← peek).isNone then return n else failure

/-- The tree of the one document that a text holds. -/
def tree? (text : String) : Option Node := do
  let tokens ← tokens? text
  let (n, _) ← (readDocument (4 * tokens.length + 4)).run { tokens }
  return n

end GestureTimeline.Yaml
