import GestureTimeline.Datum
import GestureTimeline.Policy

/-! # Configuration

    A configuration holds the policy of gestures and what the console endpoint offers.  Reading
    overrides the defaults field by field, at both levels; a value outside its field's type or
    range is refused. -/

namespace GestureTimeline

/-- What the console endpoint offers. -/
structure TargetSettings where
  /-- Whether the synchronized command is advertised. -/
  synchronizedActions : Bool := true
  /-- Whether legacy handles are exposed. -/
  legacyDevices : Bool := true
  deriving DecidableEq

namespace TargetSettings

instance : Inhabited TargetSettings := ⟨{}⟩

/-- The names of the fields. -/
def fieldNames : List String := ["synchronized_actions", "legacy_devices"]

/-- The settings that data write. -/
def decode (d : Datum) : Option TargetSettings := do
  let slots ← d.slots fieldNames
  match slots with
  | [synchronizedActions, legacyDevices] =>
      return {
        synchronizedActions := ← Datum.orDefault true Datum.bool? synchronizedActions
        legacyDevices := ← Datum.orDefault true Datum.bool? legacyDevices }
  | _ => none

/-- The data of settings, with all fields. -/
def encode (t : TargetSettings) : Datum :=
  .record [("synchronized_actions", .bool t.synchronizedActions),
    ("legacy_devices", .bool t.legacyDevices)]

end TargetSettings

namespace Policy

/-- The names of the fields. -/
def fieldNames : List String :=
  ["element_move_ms", "offset_move_ms", "element_offset_x", "element_offset_y"]

/-- The policy that data write. -/
def decode (d : Datum) : Option Policy := do
  let slots ← d.slots fieldNames
  match slots with
  | [elementMoveMs, offsetMoveMs, elementOffsetX, elementOffsetY] =>
      return {
        elementMoveMs := ← Datum.orDefault 250 Datum.uint64? elementMoveMs
        offsetMoveMs := ← Datum.orDefault 200 Datum.uint64? offsetMoveMs
        elementOffsetX := ← Datum.orDefault 1 Datum.int32? elementOffsetX
        elementOffsetY := ← Datum.orDefault 1 Datum.int32? elementOffsetY }
  | _ => none

/-- The data of a policy, with all fields. -/
def encode (p : Policy) : Datum :=
  .record [("element_move_ms", .ofUInt64 p.elementMoveMs),
    ("offset_move_ms", .ofUInt64 p.offsetMoveMs),
    ("element_offset_x", .ofInt32 p.elementOffsetX),
    ("element_offset_y", .ofInt32 p.elementOffsetY)]

end Policy

/-- A configuration. -/
structure Config where
  interaction : Policy := {}
  target : TargetSettings := {}
  deriving DecidableEq

namespace Config

instance : Inhabited Config := ⟨{}⟩

/-- The names of the sections. -/
def fieldNames : List String := ["interaction", "target"]

/-- The configuration that data write. -/
def decode (d : Datum) : Option Config := do
  let slots ← d.slots fieldNames
  match slots with
  | [interaction, target] =>
      return {
        interaction := ← Datum.orDefault {} Policy.decode interaction
        target := ← Datum.orDefault {} TargetSettings.decode target }
  | _ => none

/-- The data of a configuration, with all fields. -/
def encode (c : Config) : Datum :=
  .record [("interaction", c.interaction.encode), ("target", c.target.encode)]

end Config

end GestureTimeline
