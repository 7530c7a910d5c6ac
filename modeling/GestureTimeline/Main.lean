import GestureTimeline.CommandLine.Program

/-! # The program's outer layer

    Reads files and arguments, and prints how a run ended. -/

namespace GestureTimeline.CommandLine

/-- The failure of an attempt to read a file.  The system's number for it may come negated. -/
def ReadFailure.ofError (e : IO.Error) : ReadFailure :=
  match e with
  | .noFileOrDirectory .. => .notFound
  | .permissionDenied .. => .other "Permission denied (os error 13)"
  | .inappropriateType _ code _ =>
      if code = 20 || 0 - code = 20 then .notDirectory else .isDirectory
  | e => .other (toString e)

/-- Reads a file. -/
def readFile (path : String) : IO Contents := do
  try
    let bytes ← IO.FS.readBinFile path
    match String.fromUTF8? bytes with
    | some text => return .ok text
    | none => return .error .notText
  catch e => return .error (.ofError e)

/-- The place of the user's configuration. -/
def userConfig : IO (Option String) := do
  let base ← match ← IO.getEnv "XDG_CONFIG_HOME", ← IO.getEnv "HOME" with
    | some dir, home =>
        pure (if dir.startsWith "/" then some dir else home.map (· ++ "/.config"))
    | none, home => pure (home.map (· ++ "/.config"))
  return base.map (· ++ "/actionchain/config.yaml")

end GestureTimeline.CommandLine

open GestureTimeline.CommandLine in
/-- Runs the program. -/
def main (arguments : List String) : IO UInt32 := do
  let exit ← run { read := readFile, userConfig := ← userConfig } arguments
  IO.print exit.stdout
  if !exit.stderr.isEmpty then IO.eprintln exit.stderr
  return exit.code.toUInt32
