import GestureTimeline.Text.Quoted

/-! # Keys

    The keys that have a name of their own, with the private-use code points under which
    endpoints know them, and the values that key gestures take: a named key or literal text. -/

namespace GestureTimeline

/-- A key with a name of its own. -/
inductive Key where
  | null | cancel | help | backspace | tab | clear | returnKey | enter
  | shift | control | alt | pause | escape | space | pageUp | pageDown
  | endKey | home | arrowLeft | arrowUp | arrowRight | arrowDown | insert | delete | metaKey
  deriving DecidableEq, Inhabited

namespace Key

/-- The named keys in the order of their code points. -/
def all : List Key :=
  [null, cancel, help, backspace, tab, clear, returnKey, enter, shift, control, alt, pause,
    escape, space, pageUp, pageDown, endKey, home, arrowLeft, arrowUp, arrowRight, arrowDown,
    insert, delete, metaKey]

/-- The code point typed for a key. -/
def codePoint : Key → Char
  | null => '\ue000'
  | cancel => '\ue001'
  | help => '\ue002'
  | backspace => '\ue003'
  | tab => '\ue004'
  | clear => '\ue005'
  | returnKey => '\ue006'
  | enter => '\ue007'
  | shift => '\ue008'
  | control => '\ue009'
  | alt => '\ue00a'
  | pause => '\ue00b'
  | escape => '\ue00c'
  | space => '\ue00d'
  | pageUp => '\ue00e'
  | pageDown => '\ue00f'
  | endKey => '\ue010'
  | home => '\ue011'
  | arrowLeft => '\ue012'
  | arrowUp => '\ue013'
  | arrowRight => '\ue014'
  | arrowDown => '\ue015'
  | insert => '\ue016'
  | delete => '\ue017'
  | metaKey => '\ue03d'

/-- The words of a key's name, in lower case. -/
def words : Key → List String
  | null => ["null"]
  | cancel => ["cancel"]
  | help => ["help"]
  | backspace => ["backspace"]
  | tab => ["tab"]
  | clear => ["clear"]
  | returnKey => ["return"]
  | enter => ["enter"]
  | shift => ["shift"]
  | control => ["control"]
  | alt => ["alt"]
  | pause => ["pause"]
  | escape => ["escape"]
  | space => ["space"]
  | pageUp => ["page", "up"]
  | pageDown => ["page", "down"]
  | endKey => ["end"]
  | home => ["home"]
  | arrowLeft => ["arrow", "left"]
  | arrowUp => ["arrow", "up"]
  | arrowRight => ["arrow", "right"]
  | arrowDown => ["arrow", "down"]
  | insert => ["insert"]
  | delete => ["delete"]
  | metaKey => ["meta"]

/-- The name by which scripts call a key: its words joined by underscores. -/
def name (k : Key) : String :=
  "_".intercalate k.words

/-- A word with its first letter in upper case. -/
def capitalized (word : String) : String :=
  match word.toList with
  | [] => ""
  | c :: cs => String.ofList (c.toUpper :: cs)

/-- The name by which messages call a key: its words capitalized and run together. -/
def title (k : Key) : String :=
  String.join (k.words.map capitalized)

/-- The key of a given script name. -/
def ofName? (s : String) : Option Key :=
  all.find? fun k => k.name == s

/-- The name of a key gives the key back. -/
@[simp] theorem ofName?_name (k : Key) : ofName? k.name = some k := by
  cases k <;> decide

/-- Whether a key modifies others while it is held; only these may be held by themselves on a
    keyboard of the legacy protocol. -/
def isModifier : Key → Bool
  | shift | control | alt | metaKey => true
  | _ => false

end Key

/-- What a key gesture is given: a named key, or text to be typed. -/
inductive KeyInput where
  | named (key : Key)
  | text (content : String)
  deriving DecidableEq, Inhabited

namespace KeyInput

/-- The code points typed for a value, in order. -/
def codePoints : KeyInput → List Char
  | named key => [key.codePoint]
  | text content => content.toList

/-- The named modifier that a value is; text is never one, whatever it holds. -/
def modifier? : KeyInput → Option Key
  | named key => if key.isModifier then some key else none
  | text _ => none

/-- The form of a value in messages. -/
def display : KeyInput → String
  | named key => "Key::" ++ key.title
  | text content => Text.quoted content

end KeyInput

end GestureTimeline
