import GestureTimeline.CommandLine.Report
import GestureTimeline.Yaml.Files

/-! # The program

    A run reads its arguments, checks the log level, loads the configuration and the script, and
    carries out the command.  The first failure ends it with a report on the error output and
    nothing on the standard output.  The files are read through a function, so that a run can be
    followed on any collection of files. -/

namespace GestureTimeline.CommandLine

/-! ## Files -/

/-- Why a file gives no text. -/
inductive ReadFailure where
  | notFound
  | notDirectory
  | isDirectory
  | notText
  | other (message : String)
  deriving DecidableEq, Inhabited

namespace ReadFailure

/-- The text of a failure. -/
def message : ReadFailure → String
  | notFound => "No such file or directory (os error 2)"
  | notDirectory => "Not a directory (os error 20)"
  | isDirectory => "Is a directory (os error 21)"
  | notText => "stream did not contain valid UTF-8"
  | other message => message

/-- Whether nothing stands at the place that could not be read. -/
def isAbsence : ReadFailure → Bool
  | notFound | notDirectory => true
  | _ => false

end ReadFailure

/-- The text at a place, or why there is none. -/
abbrev Contents := Except ReadFailure String

/-- Whether something stands at a place. -/
def Contents.exists : Contents → Bool
  | .ok _ => true
  | .error e => !e.isAbsence

/-! ## Failures -/

/-- Why a command ends without a report. -/
inductive Failure where
  | logLevel
  | configPlace
  | readConfig (reason : ReadFailure)
  | parseConfig
  | readScript (path : String) (reason : ReadFailure)
  | script (error : ScriptError)
  | compile (error : ActionError)
  | perform (path : String) (error : ActionError)
  deriving DecidableEq, Inhabited

namespace Failure

/-- Who is to blame when performing a script fails: the script for a mistake of the caller, the
    endpoint for all else. -/
def blame (e : ActionError) : String :=
  if e.isUsage then "Invalid gesture script" else "Endpoint failed to perform"

/-- What a failure says first. -/
def headline : Failure → String
  | logLevel => "Invalid log level"
  | configPlace => "Failed to get config directory"
  | readConfig _ => "Failed to read config file"
  | parseConfig => "Failed to parse config file"
  | readScript path reason => "failed to read script " ++ path ++ ": " ++ reason.message
  | script e => e.message
  | compile _ => "Gesture script is invalid"
  | perform path e => blame e ++ " " ++ path

/-- The causes of a failure, the nearest first. -/
def causes : Failure → List String
  | logLevel =>
      ["error parsing level: expected one of \"error\", \"warn\", \"info\", \"debug\", " ++
        "\"trace\", or a number 1-5"]
  | readConfig reason | readScript _ reason => [reason.message]
  | compile e | perform _ e => e.chain
  | configPlace | parseConfig | script _ => []

/-- The causes as lines, numbered when there are several. -/
def causeLines : List String → List String
  | [] => []
  | [cause] => ["", "Caused by:", "    " ++ cause]
  | causes =>
      "" :: "Caused by:" :: causes.mapIdx fun i cause => "    " ++ toString i ++ ": " ++ cause

/-- The report of a failure. -/
def report (f : Failure) : String :=
  "\n".intercalate (("Error: " ++ f.headline) :: causeLines f.causes)

end Failure

/-! ## Steps of a run -/

/-- Whether a log level is known by its name, in any case, or by its number. -/
def isLogLevel (level : String) : Bool :=
  let lower := level.toList.map Char.toLower
  let digits := match level.toList with
    | '+' :: ds => ds
    | ds => ds
  ["error", "warn", "info", "debug", "trace"].contains (String.ofList lower)
    || match Text.number? 10 digits with
      | some n => 1 ≤ n && n ≤ 5
      | none => false

/-- The configuration that a place gives; where nothing stands the defaults hold. -/
def loadConfig : Contents → Except Failure Config
  | .ok text =>
      match Config.parse? text with
      | some config => .ok config
      | none => .error .parseConfig
  | .error e => if e.isAbsence then .ok {} else .error (.readConfig e)

/-- The script that a place gives. -/
def loadScript (path : String) : Contents → Except Failure Script
  | .ok text => (Script.parse text path).mapError .script
  | .error e => .error (.readScript path e)

/-- Carries out a command and prints its report. -/
def Invocation.carryOut (i : Invocation) (config : Config) (script : Script) :
    Except Failure String :=
  match i.command with
  | .compile =>
      match CommandLine.compile config i.noLegacy i.script script with
      | .ok r => .ok (i.output.print r.human r.fields)
      | .error e => .error (.compile e)
  | .perform =>
      match CommandLine.perform config i.noLegacy i.legacyOnly i.rejectActions i.script script with
      | .ok r => .ok (i.output.print r.human r.fields)
      | .error e => .error (.perform i.script e)

/-- The output of a command whose files have been read. -/
def Invocation.output? (i : Invocation) (config script : Contents) : Except Failure String := do
  let config ← loadConfig config
  let script ← loadScript i.script script
  i.carryOut config script

/-! ## Runs -/

/-- How a run ends. -/
structure Exit where
  code : Nat
  stdout : String
  stderr : String
  deriving DecidableEq, Inhabited

/-- The name under which the program tells its version. -/
def programName : String := "actionchain-cli"

/-- What the program, or one of its commands, says of its version. -/
def versionLine (command : Option Command) : String :=
  let suffix := match command with
    | some c => "-" ++ c.name
    | none => ""
  line (programName ++ suffix ++ " 0.1.0")

/-- The end of a run that carries out no command. -/
def Exit.ofStop : Stop → Exit
  | .usage => ⟨2, "", ""⟩
  | .help => ⟨0, "", ""⟩
  | .version command => ⟨0, versionLine command, ""⟩

/-- The end of a run that has tried to carry out a command. -/
def Exit.ofOutput : Except Failure String → Exit
  | .ok output => ⟨0, output, ""⟩
  | .error f => ⟨1, "", f.report⟩

/-- The surroundings of a run: how files are read, and where the user's configuration stands. -/
structure Surroundings (m : Type → Type) where
  read : String → m Contents
  userConfig : Option String

/-- The place of the local configuration. -/
def localConfig : String := "config/actionchain.yaml"

/-- The contents of the configuration: from the place that was asked for, else from the local
    one if something stands there, else from the user's. -/
def findConfig {m : Type → Type} [Monad m] (s : Surroundings m) (asked : Option String) :
    m (Except Failure Contents) := do
  match asked with
  | some path => return .ok (← s.read path)
  | none =>
      let contents ← s.read localConfig
      if contents.exists then return .ok contents
      else
        match s.userConfig with
        | some path => return .ok (← s.read path)
        | none => return .error .configPlace

/-- A run of the program. -/
def run {m : Type → Type} [Monad m] (s : Surroundings m) (arguments : List String) : m Exit := do
  match Invocation.ofArguments arguments with
  | .error stop => return .ofStop stop
  | .ok i =>
      if !i.debug && !isLogLevel i.logLevel then return .ofOutput (.error .logLevel)
      else
        match ← findConfig s i.config with
        | .error e => return .ofOutput (.error e)
        | .ok config => return .ofOutput (i.output? config (← s.read i.script))

end GestureTimeline.CommandLine
