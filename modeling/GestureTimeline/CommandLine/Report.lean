import GestureTimeline.CommandLine.Arguments
import GestureTimeline.Config
import GestureTimeline.Console
import GestureTimeline.Script
import GestureTimeline.Wire
import GestureTimeline.Yaml.Writer

/-! # The reports of the commands

    Both commands apply a script to a session on the console endpoint.  Compiling builds the
    session's plan and shows it; performing performs the plan and shows the transcript.  Each
    gives a report or the one error that ended it. -/

namespace GestureTimeline.CommandLine

/-! ## Compiling and performing -/

/-- The session of a script on the console endpoint under a configuration. -/
def session (config : Config) (console : Console) (script : Script) : Session :=
  script.apply ((Session.onEndpoint console.endpoint).withPolicy config.interaction)

/-- What compiling a script shows. -/
structure CompileReport where
  script : String
  ticks : Nat
  devices : Nat
  actions : Json
  composite : List String

/-- The console that a script is compiled for. -/
def compileConsole (config : Config) (noLegacy : Bool) : Console :=
  ⟨.synchronized, config.target.legacyDevices && !noLegacy⟩

/-- Compiles the script of a path. -/
def compile (config : Config) (noLegacy : Bool) (path : String) (script : Script) :
    Except ActionError CompileReport := do
  let plan ← (session config (compileConsole config noLegacy) script).build
  return {
    script := path
    ticks := plan.tickCount
    devices := plan.timelines.length
    actions := plan.actionsJson.sorted
    composite := plan.composite.map Gesture.display }

/-- What performing a script shows. -/
structure PerformReport where
  script : String
  outcome : Protocol
  ticks : Nat
  transcript : List String

/-- How the console treats the synchronized command: flags and configuration may hide the command
    from a session, and only a command that is not hidden can be rejected. -/
def performMode (config : Config) (legacyOnly rejectActions : Bool) : ConsoleMode :=
  if legacyOnly || !config.target.synchronizedActions then .legacyOnly
  else if rejectActions then .rejectActions
  else .synchronized

/-- The console that a script is performed on. -/
def performConsole (config : Config) (noLegacy legacyOnly rejectActions : Bool) : Console :=
  ⟨performMode config legacyOnly rejectActions, config.target.legacyDevices && !noLegacy⟩

/-- Performs the script of a path. -/
def perform (config : Config) (noLegacy legacyOnly rejectActions : Bool) (path : String)
    (script : Script) : Except ActionError PerformReport :=
  let console := performConsole config noLegacy legacyOnly rejectActions
  let s := session config console script
  let performance := s.perform console.answers
  match performance.result with
  | .error e => .error e
  | .ok outcome =>
      .ok {
        script := path
        outcome
        ticks := s.timelines.ticks
        transcript := console.transcript performance }

/-! ## Printing -/

/-- A line of output. -/
def line (text : String) : String := text ++ "\n"

/-- A number that is filled up with blanks on the left to three places. -/
def threePlaces (n : Nat) : String :=
  let digits := toString n
  String.ofList (List.replicate (3 - digits.length) ' ') ++ digits

namespace CompileReport

/-- The fields of a report. -/
def fields (r : CompileReport) : List (String × Json) :=
  [("script", .str r.script), ("ticks", .int r.ticks), ("devices", .int r.devices),
    ("actions", r.actions), ("composite", .ofTexts r.composite)]

/-- The numbered gestures of a report. -/
def compositeLines (r : CompileReport) : List String :=
  r.composite.mapIdx fun i g => "  " ++ threePlaces (i + 1) ++ ". " ++ g

/-- A report for people. -/
def human (r : CompileReport) : String :=
  let composite :=
    if r.composite.isEmpty then ["Legacy composite: not recorded"]
    else "Legacy composite:" :: r.compositeLines
  String.join <| List.map line <|
    ["Script: " ++ r.script,
      "Ticks: " ++ toString r.ticks ++ " across " ++ toString r.devices ++ " device(s)",
      "", "Synchronized actions:", r.actions.pretty, ""] ++ composite

end CompileReport

namespace PerformReport

/-- The fields of a report. -/
def fields (r : PerformReport) : List (String × Json) :=
  [("script", .str r.script), ("outcome", .str r.outcome.name), ("ticks", .int r.ticks),
    ("transcript", .ofTexts r.transcript)]

/-- The words for a protocol. -/
def protocolText : Protocol → String
  | .synchronized => "synchronized actions"
  | .legacy => "legacy input devices"

/-- A report for people. -/
def human (r : PerformReport) : String :=
  String.join <| List.map line <|
    r.transcript
      ++ ["Performed " ++ toString r.ticks ++ " tick(s) via " ++ protocolText r.outcome]

end PerformReport

/-- A report in a format: its text for people, or its fields. -/
def OutputFormat.print (format : OutputFormat) (human : String) (fields : List (String × Json)) :
    String :=
  match format with
  | .human => human
  | .json => line (Json.obj fields).pretty
  | .yaml => Yaml.write fields

end GestureTimeline.CommandLine
