import GestureTimeline.Datum
import GestureTimeline.Session

/-! # Gesture scripts

    A script is a list of steps.  A step is written as a mapping of its action and its fields, or
    as the list of its action and the values of its fields in order.  Reading undoes writing:
    `Step.encode` gives the full mapping, with null for what is absent. -/

namespace GestureTimeline

/-- The actions that a step may name. -/
inductive StepAction where
  | click | doubleClick | contextClick | clickAndHold | release
  | moveToElement | moveByOffset | keyDown | keyUp | sendKeys
  | dragAndDrop | dragAndDropBy | pause
  deriving DecidableEq, Inhabited

namespace StepAction

/-- All actions. -/
def all : List StepAction :=
  [click, doubleClick, contextClick, clickAndHold, release, moveToElement, moveByOffset,
    keyDown, keyUp, sendKeys, dragAndDrop, dragAndDropBy, pause]

/-- The name of an action. -/
def name : StepAction → String
  | click => "click"
  | doubleClick => "double_click"
  | contextClick => "context_click"
  | clickAndHold => "click_and_hold"
  | release => "release"
  | moveToElement => "move_to_element"
  | moveByOffset => "move_by_offset"
  | keyDown => "key_down"
  | keyUp => "key_up"
  | sendKeys => "send_keys"
  | dragAndDrop => "drag_and_drop"
  | dragAndDropBy => "drag_and_drop_by"
  | pause => "pause"

/-- The action of a given name. -/
def ofName? (s : String) : Option StepAction :=
  all.find? fun a => a.name == s

/-- The name of an action gives the action back. -/
@[simp] theorem ofName?_name (a : StepAction) : ofName? a.name = some a := by
  cases a <;> decide

/-- The names of the fields of an action, in order. -/
def fieldNames : StepAction → List String
  | click | doubleClick | contextClick | clickAndHold | release => ["on"]
  | moveToElement => ["element", "x", "y"]
  | moveByOffset => ["x", "y"]
  | keyDown | keyUp => ["value", "on"]
  | sendKeys => ["keys", "to"]
  | dragAndDrop => ["source", "target"]
  | dragAndDropBy => ["source", "x", "y"]
  | pause => ["ms"]

end StepAction

/-- One step of a script. -/
inductive Step where
  | click (on : Option ElementRef)
  | doubleClick (on : Option ElementRef)
  | contextClick (on : Option ElementRef)
  | clickAndHold (on : Option ElementRef)
  | release (on : Option ElementRef)
  | moveToElement (element : ElementRef) (x y : Option Int32)
  | moveByOffset (x y : Int32)
  | keyDown (value : KeyInput) (on : Option ElementRef)
  | keyUp (value : KeyInput) (on : Option ElementRef)
  | sendKeys (keys : List KeyInput) (into : Option ElementRef)
  | dragAndDrop (source target : ElementRef)
  | dragAndDropBy (source : ElementRef) (x y : Int32)
  | pause (ms : UInt64)
  deriving DecidableEq, Inhabited

/-! ## The data of elements and keys -/

namespace ElementRef

/-- An element is written as its id. -/
def decode (d : Datum) : Option ElementRef := d.str?.map ElementRef.mk

/-- The data of an element. -/
def encode (e : ElementRef) : Datum := .str e.id

end ElementRef

namespace Key

/-- The key that data denote by its name or by its position among all keys. -/
def ofDatum? : Datum → Option Key
  | .str s => ofName? s
  | .natural n => all[n.toNat]?
  | _ => none

/-- A key is written as its name, or as a mapping of that name to null. -/
def decode : Datum → Option Key
  | .str s => ofName? s
  | .map [(key, .null)] => ofDatum? key
  | _ => none

end Key

namespace KeyInput

/-- The one field of a named key. -/
def fieldNames : List String := ["key"]

/-- A key value is written as its text, or as a mapping with a named key. -/
def decode : Datum → Option KeyInput
  | .str s => some (text s)
  | .map entries => do
      match ← Datum.entrySlots fieldNames entries with
      | [key] => named <$> Datum.required Key.decode key
      | _ => none
  | _ => none

/-- The data of a key value. -/
def encode : KeyInput → Datum
  | named key => .record [("key", .str key.name)]
  | text content => .str content

/-- A list of key values. -/
def decodeList (d : Datum) : Option (List KeyInput) := d.list?.bind (List.mapM decode)

/-- The data of a list of key values. -/
def encodeList (keys : List KeyInput) : Datum := .list (keys.map encode)

end KeyInput

namespace Step

open Datum (required optional int32? uint64? ofOption ofInt32 ofUInt64)

/-- The action of a step. -/
def action : Step → StepAction
  | click _ => .click
  | doubleClick _ => .doubleClick
  | contextClick _ => .contextClick
  | clickAndHold _ => .clickAndHold
  | release _ => .release
  | moveToElement .. => .moveToElement
  | moveByOffset .. => .moveByOffset
  | keyDown .. => .keyDown
  | keyUp .. => .keyUp
  | sendKeys .. => .sendKeys
  | dragAndDrop .. => .dragAndDrop
  | dragAndDropBy .. => .dragAndDropBy
  | pause _ => .pause

/-! ## Reading -/

/-- An action that takes an optional element alone. -/
def ofElementSlot (make : Option ElementRef → Step) : List (Option Datum) → Option Step
  | [on] => make <$> optional ElementRef.decode on
  | _ => none

/-- An action that takes a key and an optional element. -/
def ofKeySlots (make : KeyInput → Option ElementRef → Step) :
    List (Option Datum) → Option Step
  | [value, on] =>
      make <$> required KeyInput.decode value <*> optional ElementRef.decode on
  | _ => none

/-- The step of an action with the values that were given to its fields. -/
def ofSlots : StepAction → List (Option Datum) → Option Step
  | .click, slots => ofElementSlot click slots
  | .doubleClick, slots => ofElementSlot doubleClick slots
  | .contextClick, slots => ofElementSlot contextClick slots
  | .clickAndHold, slots => ofElementSlot clickAndHold slots
  | .release, slots => ofElementSlot release slots
  | .moveToElement, [element, x, y] =>
      moveToElement <$> required ElementRef.decode element <*> optional int32? x
        <*> optional int32? y
  | .moveByOffset, [x, y] => moveByOffset <$> required int32? x <*> required int32? y
  | .keyDown, slots => ofKeySlots keyDown slots
  | .keyUp, slots => ofKeySlots keyUp slots
  | .sendKeys, [keys, into] =>
      sendKeys <$> required KeyInput.decodeList keys <*> optional ElementRef.decode into
  | .dragAndDrop, [source, target] =>
      dragAndDrop <$> required ElementRef.decode source <*> required ElementRef.decode target
  | .dragAndDropBy, [source, x, y] =>
      dragAndDropBy <$> required ElementRef.decode source <*> required int32? x
        <*> required int32? y
  | .pause, [ms] => pause <$> required uint64? ms
  | _, _ => none

/-- The key under which a mapping names its action. -/
def actionKey : String := "action"

/-- Whether an entry of a mapping names its action. -/
def isActionEntry (e : Datum × Datum) : Bool :=
  match e.1 with
  | .str s => s == actionKey
  | _ => false

/-- The action that data name. -/
def actionOf? (d : Datum) : Option StepAction := d.str?.bind StepAction.ofName?

/-- The step that data write.  A mapping names its action exactly once, anywhere. -/
def decode : Datum → Option Step
  | .map entries =>
      match entries.partition isActionEntry with
      | ([(_, named)], fields) => do
          let action ← actionOf? named
          ofSlots action (← Datum.entrySlots action.fieldNames fields)
      | _ => none
  | .list (named :: values) => do
      let action ← actionOf? named
      ofSlots action (← Datum.itemSlots action.fieldNames values)
  | _ => none

/-! ## Writing -/

/-- The data of the fields of a step, in order. -/
def fieldData : Step → List Datum
  | click on | doubleClick on | contextClick on | clickAndHold on | release on =>
      [ofOption ElementRef.encode on]
  | moveToElement element x y =>
      [element.encode, ofOption ofInt32 x, ofOption ofInt32 y]
  | moveByOffset x y => [ofInt32 x, ofInt32 y]
  | keyDown value on | keyUp value on => [value.encode, ofOption ElementRef.encode on]
  | sendKeys keys into => [KeyInput.encodeList keys, ofOption ElementRef.encode into]
  | dragAndDrop source target => [source.encode, target.encode]
  | dragAndDropBy source x y => [source.encode, ofInt32 x, ofInt32 y]
  | pause ms => [ofUInt64 ms]

/-- The data of a step: its action and all its fields. -/
def encode (s : Step) : Datum :=
  .record ((actionKey, .str s.action.name) :: s.action.fieldNames.zip s.fieldData)

/-! ## Applying -/

/-- What a step adds to a session.  A move onto an element takes the axis that is not given from
    the policy. -/
def apply (s : Session) : Step → Session
  | click (some on) => s.clickOn on
  | click none => s.click
  | doubleClick (some on) => s.doubleClickOn on
  | doubleClick none => s.doubleClick
  | contextClick (some on) => s.contextClickOn on
  | contextClick none => s.contextClick
  | clickAndHold (some on) => s.clickAndHoldOn on
  | clickAndHold none => s.clickAndHold
  | release (some on) => s.releaseOn on
  | release none => s.release
  | moveToElement element none none => s.moveToElement element
  | moveToElement element x y =>
      s.moveToElementAt element (x.getD s.policy.elementOffsetX)
        (y.getD s.policy.elementOffsetY)
  | moveByOffset x y => s.moveByOffset x y
  | keyDown value (some on) => s.keyDownOn on value
  | keyDown value none => s.keyDown value
  | keyUp value (some on) => s.keyUpOn on value
  | keyUp value none => s.keyUp value
  | sendKeys keys (some target) => s.sendKeysTo target keys
  | sendKeys keys none => s.sendKeys keys
  | dragAndDrop source target => s.dragAndDrop source target
  | dragAndDropBy source x y => s.dragAndDropBy source x y
  | pause ms => s.pause (.ofMillis ms)

end Step

/-- A script of gestures. -/
structure Script where
  steps : List Step
  deriving DecidableEq, Inhabited

namespace Script

/-- The one field of a script. -/
def fieldNames : List String := ["steps"]

/-- The steps that a list of data writes, if each of them writes one. -/
def decodeSteps (ds : List Datum) : Option (List Step) := ds.mapM Step.decode

/-- The script that data write. -/
def decode (d : Datum) : Option Script := do
  match ← d.slots fieldNames with
  | [steps] => Script.mk <$> decodeSteps (← Datum.required Datum.list? steps)
  | _ => none

/-- The data of a script. -/
def encode (s : Script) : Datum :=
  .record [("steps", .list (s.steps.map Step.encode))]

/-- What a script adds to a session: its steps, one after another. -/
def apply (script : Script) (s : Session) : Session := script.steps.foldl Step.apply s

end Script

/-- Why a text holds no script that can be applied. -/
inductive ScriptError where
  /-- The text does not write a script. -/
  | parse
  /-- The script of this path has no steps. -/
  | empty (path : String)
  deriving DecidableEq, Inhabited

/-- The text of an error; how a text fails to write a script is not told. -/
def ScriptError.message : ScriptError → String
  | parse => "failed to parse script"
  | empty path => "script " ++ path ++ " has no steps"

/-- The script of data, which must have a step. -/
def Script.load (path : String) (d : Option Datum) : Except ScriptError Script :=
  match d.bind decode with
  | none => .error .parse
  | some s => if s.steps.isEmpty then .error (.empty path) else .ok s

end GestureTimeline
