import GestureTimeline.Interaction
import GestureTimeline.Key

/-! # Errors

    What can go wrong while a session is built or performed.  Usage errors are the caller's
    mistakes and are found while building; all others come from performing. -/

namespace GestureTimeline

/-- A failure that the remote end reports. -/
inductive TargetError where
  | unsupportedCommand (detail : String)
  | noSuchElement (detail : String)
  | command (detail : String)
  deriving DecidableEq, Inhabited

namespace TargetError

/-- The text of a failure. -/
def message : TargetError → String
  | unsupportedCommand detail => "unsupported command: " ++ detail
  | noSuchElement detail => "no such element: " ++ detail
  | command detail => "command failed: " ++ detail

/-- Whether a failure says that the remote end lacks the command, so that the legacy protocol
    may be tried instead. -/
def isUnsupported : TargetError → Bool
  | unsupportedCommand _ => true
  | _ => false

end TargetError

/-- What was missing when no protocol could be used. -/
inductive MissingProtocol where
  | keyboardHandle
  | mouseHandle
  | bothProtocols
  deriving DecidableEq, Inhabited

/-- The text that names what was missing. -/
def MissingProtocol.message : MissingProtocol → String
  | keyboardHandle => "legacy keyboard handle missing"
  | mouseHandle => "legacy mouse handle missing"
  | bothProtocols => "endpoint exposes neither synchronized actions nor legacy input devices"

/-- An error of building or performing a session. -/
inductive ActionError where
  /-- A tick named one device twice. -/
  | duplicateDevice (batch : List DeviceAction)
  /-- A key that is no modifier was to be held while the legacy protocol is recorded. -/
  | invalidModifier (key : KeyInput)
  /-- A key of other than one code point was to be held. -/
  | multipleCodePoints (key : KeyInput)
  /-- A raw tick was composed while the legacy protocol is recorded. -/
  | conflictingProtocols
  /-- Neither protocol, or not the handle that a gesture needs, is available. -/
  | noProtocol (missing : MissingProtocol)
  /-- The remote end failed. -/
  | target (error : TargetError)
  deriving DecidableEq, Inhabited

namespace ActionError

/-- The text of a batch of actions. -/
def describeBatch (batch : List DeviceAction) : String :=
  "[" ++ ", ".intercalate (batch.map DeviceAction.describe) ++ "]"

/-- The text of an error. -/
def message : ActionError → String
  | duplicateDevice batch =>
      "only one action per input device per tick: " ++ describeBatch batch
  | invalidModifier key =>
      "key down/up requires a modifier key (shift, control, alt, meta): " ++ key.display
  | multipleCodePoints key => "only one code point is allowed at a time: " ++ key.display
  | conflictingProtocols => "raw ticks may not be mixed with legacy input device actions"
  | noProtocol missing => "no protocol available to perform actions: " ++ missing.message
  | target error => "execution target error: " ++ error.message

/-- Whether an error is a mistake of the caller, found while building. -/
def isUsage : ActionError → Bool
  | duplicateDevice _ | invalidModifier _ | multipleCodePoints _ | conflictingProtocols => true
  | noProtocol _ | target _ => false

/-- The errors and failures that led to an error, itself first, as texts. -/
def chain : ActionError → List String
  | target error => [message (target error), error.message]
  | e => [e.message]

/-- A variant that holds one text, as messages show it. -/
def variant (name detail : String) : String :=
  name ++ "(" ++ Text.quoted detail ++ ")"

/-- The form of an error inside the description of a session. -/
def describe : ActionError → String
  | duplicateDevice batch => variant "DuplicateDeviceInTick" (describeBatch batch)
  | invalidModifier key => variant "InvalidModifierKey" key.display
  | multipleCodePoints key => variant "MultiCodepointNotAllowed" key.display
  | conflictingProtocols => "ConflictingProtocolUsage"
  | noProtocol missing => variant "NoProtocolAvailable" missing.message
  | target (.unsupportedCommand detail) => "Target(" ++ variant "UnsupportedCommand" detail ++ ")"
  | target (.noSuchElement detail) => "Target(" ++ variant "NoSuchElement" detail ++ ")"
  | target (.command detail) => "Target(" ++ variant "Command" detail ++ ")"

end ActionError

end GestureTimeline
