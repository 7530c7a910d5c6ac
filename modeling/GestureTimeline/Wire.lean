import GestureTimeline.Json.Printer
import GestureTimeline.Plan

/-! # The payload of the synchronized command

    Every timeline becomes one input source.  A source is exported under its device's name; when
    an earlier source has taken that name it falls back to the device's identity, which may be
    taken as the name of another device. -/

namespace GestureTimeline

/-- The whole milliseconds of a span, cut off at 64 bits. -/
def Span.wireMillis (d : Span) : Nat := min d.millis (UInt64.size - 1)

namespace Origin

/-- The key under which a payload holds an element. -/
def elementKey : String := "element-6066-11e4-a52e-4f735466cecf"

/-- An origin in a payload. -/
def toJson : Origin → Json
  | viewport => .str "viewport"
  | pointer => .str "pointer"
  | element e => .obj [(elementKey, .str e.id)]

end Origin

namespace Interaction

/-- An action of the named type. -/
def tagged (type : String) (fields : List (String × Json)) : Json :=
  .obj (("type", .str type) :: fields)

/-- An interaction in a payload. -/
def toJson : Interaction → Json
  | pointerDown button => tagged "pointerDown" [("button", .int button.toNat)]
  | pointerUp button => tagged "pointerUp" [("button", .int button.toNat)]
  | pointerMove duration origin x y =>
      tagged "pointerMove"
        [("duration", .int duration.wireMillis), ("origin", origin.toJson),
          ("x", .int x.toInt), ("y", .int y.toInt)]
  | keyDown value => tagged "keyDown" [("value", .str (String.ofList [value]))]
  | keyUp value => tagged "keyUp" [("value", .str (String.ofList [value]))]
  | pause duration => tagged "pause" [("duration", .int duration.wireMillis)]

end Interaction

/-- An input source of a payload; a source without a kind of pointer is a keyboard. -/
structure Source where
  id : String
  pointerKind? : Option PointerKind
  actions : List Interaction
  deriving DecidableEq, Inhabited

namespace Source

/-- The source that exports a timeline under an id. -/
def ofTimeline (id : String) (t : Timeline) : Source :=
  ⟨id, t.device.pointerKind?, t.steps⟩

/-- The id of a device's source when some ids are taken. -/
def chooseId (taken : List String) (d : Device) : String :=
  if d.wireId ∈ taken then d.id.text else d.wireId

/-- The sources of timelines, when some ids are taken by earlier ones. -/
def assign : List String → List Timeline → List Source
  | _, [] => []
  | taken, t :: ts =>
      let id := chooseId taken t.device
      ofTimeline id t :: assign (id :: t.device.wireId :: taken) ts

/-- The sources of all timelines of a plan. -/
def ofTimelines (ts : List Timeline) : List Source := assign [] ts

/-- The fields that tell the type of a source and under which id it stands. -/
def header (s : Source) : List (String × Json) :=
  match s.pointerKind? with
  | some kind =>
      [("type", .str "pointer"), ("id", .str s.id),
        ("parameters", .obj [("pointerType", .str kind.name)])]
  | none => [("type", .str "key"), ("id", .str s.id)]

/-- A source in a payload. -/
def toJson (s : Source) : Json :=
  .obj (s.header ++ [("actions", .arr (s.actions.map Interaction.toJson))])

end Source

namespace Plan

/-- The sources of a plan. -/
def sources (p : Plan) : List Source := Source.ofTimelines p.timelines

/-- The list of sources in a payload. -/
def actionsJson (p : Plan) : Json := .arr (p.sources.map Source.toJson)

/-- The payload of a plan. -/
def toJson (p : Plan) : Json := .obj [("actions", p.actionsJson)]

/-- The payload of a plan as a value in which the order of fields means nothing. -/
def toValue (p : Plan) : Json := p.toJson.sorted

/-- The text of a plan's payload. -/
def toText (p : Plan) : String := p.toJson.pretty

end Plan

end GestureTimeline
