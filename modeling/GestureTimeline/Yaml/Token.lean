import GestureTimeline.Yaml.Cursor

/-! # The tokens of a YAML text

    Tokens show the structure that indentation implies: a block opens and closes with tokens of
    its own, and a key that was only recognised by the colon behind it has its mark in front. -/

namespace GestureTimeline.Yaml

/-- How a scalar is written. -/
inductive Style where
  | plain
  | quoted
  | literal
  | folded
  deriving DecidableEq, Inhabited

/-- A token. -/
inductive Token where
  | versionDirective (major minor : Nat)
  | tagDirective (handle expansion : List Char)
  | documentStart
  | documentEnd
  | blockSequenceStart
  | blockMappingStart
  | blockEnd
  | flowSequenceStart
  | flowSequenceEnd
  | flowMappingStart
  | flowMappingEnd
  | blockEntry
  | flowEntry
  | key
  | value
  | reference (name : List Char)
  | anchor (name : List Char)
  | tag (handle suffix : List Char)
  | scalar (text : List Char) (style : Style)
  deriving DecidableEq, Inhabited

end GestureTimeline.Yaml
