import GestureTimeline.Config
import GestureTimeline.Script
import GestureTimeline.Yaml.Form

/-! # Scripts and configurations in YAML

    The forms of the two kinds of file.  A step is taken as it stands, but for its action, which
    is a text however it is written; the numbers and flags of a configuration are typed. -/

namespace GestureTimeline.Yaml

/-- An entry of a step, in which the action is a text. -/
def stepEntry (depth : Nat) (e : Node × Node) : DataReader (Datum × Datum) := do
  let key ← anything depth e.1
  match key with
  | .str s =>
      if s == Step.actionKey then return (key, ← text depth e.2)
      else return (key, ← anything depth e.2)
  | _ => return (key, ← anything depth e.2)

/-- A step, whose action is a text and whose other values stand for themselves. -/
def step : Form := fun depth n => do
  let n ← follow n
  if isLocalTag n.properties.tag then failure
  match n, depth with
  | .mapping _ entries, depth + 1 => return .map (← entries.mapM (stepEntry depth))
  | .sequence _ (action :: values), depth + 1 =>
      let action ← text depth action
      return .list (action :: (← values.mapM (anything depth)))
  | _, _ => failure

/-- A script. -/
def script : Form := record [("steps", listOf step)]

/-- A policy. -/
def policy : Form :=
  record [("element_move_ms", natural), ("offset_move_ms", natural),
    ("element_offset_x", whole), ("element_offset_y", whole)]

/-- The settings of the endpoint. -/
def targetSettings : Form :=
  record [("synchronized_actions", flag), ("legacy_devices", flag)]

/-- A configuration. -/
def config : Form := record [("interaction", policy), ("target", targetSettings)]

end GestureTimeline.Yaml

namespace GestureTimeline

/-- The script that a text writes; the path is only named in errors. -/
def Script.parse (source path : String) : Except ScriptError Script :=
  Script.load path (Yaml.read? Yaml.script source)

/-- The configuration that a text writes. -/
def Config.parse? (source : String) : Option Config :=
  (Yaml.read? Yaml.config source).bind Config.decode

end GestureTimeline
