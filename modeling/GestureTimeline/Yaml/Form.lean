import GestureTimeline.Yaml.Node
import GestureTimeline.Yaml.Schema

/-! # From the tree of a document to data

    What a place may hold is told by a form, which turns the node there into a datum.  A node
    that may be anything has the meaning that its scalars and tags have by themselves; where a
    number or a flag is asked for it is read as such, whatever its tag.  The nesting of
    collections has a limit, and so has the number of aliases that are followed. -/

namespace GestureTimeline.Yaml

/-- What aliases mean, and how many of them may be followed. -/
structure Aliases where
  nodes : List (Nat × Node)
  limit : Nat
  deriving Inhabited

/-- A step of reading data from a tree; the state counts the aliases followed. -/
abbrev DataReader := ReaderT Aliases (StateT Nat Option)

/-- What a place may hold, as the reading of the node there.  The number is how many collections
    may still be nested. -/
abbrev Form := Nat → Node → DataReader Datum

/-- The deepest nesting of collections. -/
def nestingLimit : Nat := 128

/-- The node that a node means: itself, or what an alias refers to. -/
def follow : Node → DataReader Node
  | .reference anchor => do
      let followed := (← get) + 1
      let aliases ← read
      if aliases.limit < followed then failure
      set followed
      match aliases.nodes.lookup anchor with
      | some n => return n
      | none => failure
  | n => return n

/-! ## Nodes as they stand -/

/-- Whether a tag is one of the document's own. -/
def isLocalTag (tag : Option (List Char)) : Bool :=
  tag.any fun t => t.head? == some '!'

/-- The tag of a type that all documents know. -/
def standardTag (name : String) : List Char := ("tag:yaml.org,2002:" ++ name).toList

/-- The tag of whole numbers. -/
def intTag : List Char := standardTag "int"

/-- The tag of flags. -/
def boolTag : List Char := standardTag "bool"

/-- The datum of a scalar by its tag or, without a tag, by its style and text. -/
def scalarDatum? (tag : Option (List Char)) (style : Style) (text : List Char) : Option Datum :=
  match tag with
  | none => if style = .plain then plainDatum? text else some (.str (String.ofList text))
  | some t =>
      if t = boolTag then (flag? text).map .bool
      else if t = intTag then
        match Whole.ofText text with
        | .datum d => some d
        | _ => none
      else if t = standardTag "float" then
        if isFloat text then some (.float (String.ofList text)) else none
      else if t = standardTag "null" then if isNullWord text then some .null else none
      else some (.str (String.ofList text))

/-- Any node, with the meaning that it has by itself.  Tags of the document's own have none. -/
def anything : Form := fun depth n => do
  let n ← follow n
  if isLocalTag n.properties.tag then failure
  match n with
  | .scalar p style text =>
      match scalarDatum? p.tag style text with
      | some d => return d
      | none => failure
  | .sequence _ items =>
      match depth with
      | 0 => failure
      | depth + 1 => return .list (← items.mapM (anything depth))
  | .mapping _ entries =>
      match depth with
      | 0 => failure
      | depth + 1 =>
          return .map (← entries.mapM fun e => do
            return (← anything depth e.1, ← anything depth e.2))
  | .reference _ => failure

/-! ## Forms -/

/-- A scalar as a text, whatever its tag and style. -/
def text : Form := fun _ n => do
  match ← follow n with
  | .scalar _ _ text => return .str (String.ofList text)
  | _ => failure

/-- A scalar of a type: a plain one, or a literal block that is tagged with that type. -/
def typedScalar (type : List Char) (read : List Char → Option Datum) : Form := fun _ n => do
  match ← follow n with
  | .scalar p style text =>
      if style = .plain || (style = .literal && p.tag == some type) then
        match read text with
        | some d => return d
        | none => failure
      else failure
  | _ => failure

/-- A number without a minus sign. -/
def natural : Form :=
  typedScalar intTag fun text => (natural? text).bind fun n => Datum.ofInt? n

/-- A number. -/
def whole : Form := typedScalar intTag fun text => (whole? text).bind Datum.ofInt?

/-- A flag. -/
def flag : Form := typedScalar boolTag fun text => (flag? text).map .bool

/-- Whether a node stands for a collection without contents. -/
def isVoid : Node → Bool
  | .scalar _ style text => style = .plain && text.isEmpty
  | _ => false

/-- A sequence of items of a form; an empty place counts as one. -/
def listOf (item : Form) : Form := fun depth n => do
  let n ← follow n
  if isVoid n then return .list []
  match n, depth with
  | .sequence _ items, depth + 1 => return .list (← items.mapM (item depth))
  | _, _ => failure

/-- An entry of a record; the value of an unknown one is passed over. -/
def entry (fields : List (String × Form)) (depth : Nat) (e : Node × Node) :
    DataReader (Datum × Datum) := do
  let key ← text depth e.1
  match key.str?.bind (fields.lookup ·) with
  | some form => return (key, ← form depth e.2)
  | none => return (key, .null)

/-- A mapping with fields of given forms; an empty place counts as one. -/
def record (fields : List (String × Form)) : Form := fun depth n => do
  let n ← follow n
  if isVoid n then return .map []
  match n, depth with
  | .mapping _ entries, depth + 1 => return .map (← entries.mapM (entry fields depth))
  | _, _ => failure

/-- The data of a text whose document has a form. -/
def read? (form : Form) (source : String) : Option Datum := do
  let root ← tree? source
  let aliases := ⟨root.anchored.reverse, 100 * root.places⟩
  let (d, _) ← ((form nestingLimit root).run aliases).run 0
  return d

end GestureTimeline.Yaml
