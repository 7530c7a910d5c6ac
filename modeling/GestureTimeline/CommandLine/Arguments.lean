/-! # The arguments of the command line

    Arguments are read from left to right, first those in front of the command and then those
    behind it.  Some options may stand on either side; the one behind the command then counts.
    A value is looked at when the next argument that is no value has been met, so that a call for
    help or for the version wins over mistakes further right and loses to those further left. -/

namespace GestureTimeline.CommandLine

/-- How a report is printed. -/
inductive OutputFormat where
  | human
  | json
  | yaml
  deriving DecidableEq, Inhabited

/-- The format of a given name. -/
def OutputFormat.ofName? : String → Option OutputFormat
  | "human" => some human
  | "json" => some json
  | "yaml" => some yaml
  | _ => none

/-- The commands. -/
inductive Command where
  | compile
  | perform
  deriving DecidableEq, Inhabited

namespace Command

/-- The name of a command. -/
def name : Command → String
  | compile => "compile"
  | perform => "perform"

/-- The command of a given name. -/
def ofName? : String → Option Command
  | "compile" => some compile
  | "perform" => some perform
  | _ => none

end Command

/-- What takes a value. -/
inductive Slot where
  | config
  | logLevel
  | output
  | script
  deriving DecidableEq, Inhabited

/-- What takes no value. -/
inductive Flag where
  | debug
  | noLegacy
  | legacyOnly
  | rejectActions
  | help
  | version
  deriving DecidableEq, Inhabited

/-- The option of a long name. -/
def Slot.ofLong? : String → Option Slot
  | "config" => some config
  | "log-level" => some logLevel
  | "output" => some output
  | _ => none

/-- The option of a letter. -/
def Slot.ofLetter? : Char → Option Slot
  | 'c' => some config
  | 'l' => some logLevel
  | 'o' => some output
  | _ => none

/-- Whether an option or argument can have a value. -/
def Slot.allows : Slot → String → Bool
  | config, value | script, value => !value.isEmpty
  | logLevel, _ => true
  | output, value => (OutputFormat.ofName? value).isSome

/-- The flag of a long name, among those of a command or of none. -/
def Flag.ofLong? : Option Command → String → Option Flag
  | _, "debug" => some debug
  | _, "help" => some help
  | _, "version" => some version
  | some _, "no-legacy" => some noLegacy
  | some .perform, "legacy-only" => some legacyOnly
  | some .perform, "reject-actions" => some rejectActions
  | _, _ => none

/-- The flag of a letter. -/
def Flag.ofLetter? : Char → Option Flag
  | 'd' => some debug
  | 'h' => some help
  | 'V' => some version
  | _ => none

/-- Why no command is run. -/
inductive Stop where
  /-- The arguments are mistaken. -/
  | usage
  /-- Help was called for. -/
  | help
  /-- The version was called for, of a command or of the whole program. -/
  | version (command : Option Command)
  deriving DecidableEq, Inhabited

/-- What has been read in front of the command, or behind it. -/
structure Given where
  values : List (Slot × String) := []
  flags : List Flag := []
  /-- An option whose value has not been looked at, or has not come yet. -/
  pending : Option (Slot × Option String) := none
  deriving DecidableEq, Inhabited

namespace Given

/-- The value of a slot. -/
def value? (g : Given) (slot : Slot) : Option String := g.values.lookup slot

/-- Whether a flag was given. -/
def has (g : Given) (flag : Flag) : Bool := g.flags.contains flag

/-- Whether the next argument may be the value of an option. -/
def awaitsValue (g : Given) : Bool := g.pending.any (·.2.isNone)

/-- Takes the pending value: it must have come, be allowed and be the only one. -/
def settle (g : Given) : Except Stop Given :=
  match g.pending with
  | none => .ok g
  | some (_, none) => .error .usage
  | some (slot, some v) =>
      if (g.value? slot).isNone && slot.allows v then
        .ok { g with values := (slot, v) :: g.values, pending := none }
      else .error .usage

/-- Begins an option whose value may come with the next argument. -/
def await (g : Given) (slot : Slot) (value : Option String) : Except Stop Given := do
  return { ← g.settle with pending := some (slot, value) }

/-- Takes an option with its value. -/
def assign (g : Given) (slot : Slot) (value : String) : Except Stop Given := do
  (← g.await slot value).settle

/-- Takes a flag. -/
def raise (command : Option Command) (g : Given) (flag : Flag) : Except Stop Given := do
  let g ← g.settle
  match flag with
  | .help => .error .help
  | .version => .error (.version command)
  | flag => if g.has flag then .error .usage else return { g with flags := flag :: g.flags }

/-- Takes an argument that is the value of the pending option. -/
def fill (g : Given) (value : String) : Given :=
  { g with pending := g.pending.map fun (slot, _) => (slot, some value) }

/-- Takes an argument that stands for itself: the script of a command. -/
def position (command : Option Command) (g : Given) (value : String) : Except Stop Given :=
  let taken := (g.value? .script).isSome || g.pending.any (·.1 == .script)
  if command.isNone || taken then .error .usage else g.await .script value

/-- Takes an argument that starts with two dashes. -/
def long (command : Option Command) (g : Given) (name : List Char) : Except Stop Given :=
  let key := String.ofList (name.takeWhile (· != '='))
  let attached := match name.dropWhile (· != '=') with
    | [] => none
    | _ :: value => some (String.ofList value)
  match Slot.ofLong? key, Flag.ofLong? command key, attached with
  | some slot, _, some value => g.assign slot value
  | some slot, _, none => g.await slot none
  | none, some flag, none => g.raise command flag
  | none, _, _ => .error .usage

/-- Takes the letters of an argument that starts with one dash.  What follows the letter of an
    option is its value. -/
def letters (command : Option Command) (g : Given) : List Char → Except Stop Given
  | [] => .ok g
  | c :: rest =>
      match Flag.ofLetter? c, Slot.ofLetter? c with
      | some flag, _ =>
          match g.raise command flag with
          | .ok g => letters command g rest
          | .error e => .error e
      | none, some slot =>
          match rest with
          | [] => g.await slot none
          | '=' :: value => g.assign slot (String.ofList value)
          | value => g.assign slot (String.ofList value)
      | none, none => .error .usage

/-- Takes an argument that is not the name of a command. -/
def take (command : Option Command) (g : Given) (argument : String) : Except Stop Given :=
  match argument.toList with
  | '-' :: '-' :: name => g.long command name
  | '-' :: c :: cs => g.letters command (c :: cs)
  | _ => if g.awaitsValue then .ok (g.fill argument) else g.position command argument

end Given

/-- What a command is to do. -/
structure Invocation where
  command : Command
  script : String
  config : Option String
  logLevel : String
  debug : Bool
  output : OutputFormat
  noLegacy : Bool
  legacyOnly : Bool
  rejectActions : Bool
  deriving DecidableEq, Inhabited

/-- The invocation of a command with what was given in front of it and behind it. -/
def Invocation.ofGiven (command : Command) (front behind : Given) : Except Stop Invocation :=
  let value? slot := (behind.value? slot).or (front.value? slot)
  match value? .script, behind.has .legacyOnly && behind.has .rejectActions with
  | some script, false =>
      .ok {
        command, script
        config := value? .config
        logLevel := (value? .logLevel).getD "info"
        debug := front.has .debug || behind.has .debug
        output := ((value? .output).bind OutputFormat.ofName?).getD .human
        noLegacy := behind.has .noLegacy
        legacyOnly := behind.has .legacyOnly
        rejectActions := behind.has .rejectActions }
  | _, _ => .error .usage

/-- Reads the arguments behind a command.  Behind two dashes all arguments stand for
    themselves. -/
def readBehind (command : Command) (g : Given) (literal : Bool) :
    List String → Except Stop Given
  | [] => .ok g
  | a :: rest =>
      if !literal && a == "--" then readBehind command g true rest
      else
        let step := if literal then g.position (some command) a else g.take (some command) a
        match step with
        | .ok g => readBehind command g literal rest
        | .error e => .error e

/-- The help that is called for by name. -/
def readHelp : List String → Stop
  | [] => .help
  | [topic] => if (Command.ofName? topic).isSome || topic == "help" then .help else .usage
  | _ => .usage

/-- Reads all arguments, of which some in front of the command have been read. -/
def readFront (g : Given) : List String → Except Stop Invocation
  | [] => .error .usage
  | a :: rest =>
      match g.awaitsValue, Command.ofName? a with
      | false, some command => do
          let behind ← (← readBehind command {} false rest).settle
          Invocation.ofGiven command (← g.settle) behind
      | awaits, _ =>
          if !awaits && a == "help" then .error (readHelp rest)
          else if a == "--" then .error .usage
          else
            match g.take none a with
            | .ok g => readFront g rest
            | .error e => .error e

/-- Reads the arguments of a run. -/
def Invocation.ofArguments (arguments : List String) : Except Stop Invocation :=
  readFront {} arguments

end GestureTimeline.CommandLine
