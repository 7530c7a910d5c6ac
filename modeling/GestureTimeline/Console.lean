import GestureTimeline.Session
import GestureTimeline.Text.Quoted

/-! # The console endpoint

    The console stands in for a remote end.  It writes what it is told to do as lines of a
    transcript, and fails only where it is set up to reject the synchronized command. -/

namespace GestureTimeline

/-- How the console treats the synchronized command. -/
inductive ConsoleMode where
  /-- It advertises the command and obeys. -/
  | synchronized
  /-- It advertises the command and answers that it is unsupported. -/
  | rejectActions
  /-- It does not advertise the command. -/
  | legacyOnly
  deriving DecidableEq, Inhabited

/-- A console endpoint; `legacy` says whether it has legacy handles. -/
structure Console where
  mode : ConsoleMode
  legacy : Bool
  deriving DecidableEq, Inhabited

namespace Console

/-- What the console offers to a session. -/
def endpoint (c : Console) : Endpoint where
  synchronized := c.mode ≠ .legacyOnly
  handles := if c.legacy then some ⟨true, true⟩ else none

/-- How the console answers. -/
def answers (c : Console) : Answers where
  sequences :=
    if c.mode = .rejectActions then some (.unsupportedCommand "perform actions") else none
  legacy _ := none

/-- A key's code point: its number for controls and private use, the quoted character for all
    others. -/
def codePointText (c : Char) : String :=
  let n := c.toNat
  if n < 0x20 ∨ (0x7f ≤ n ∧ n < 0xa0) ∨ (0xe000 ≤ n ∧ n ≤ 0xf8ff) then
    "U+" ++ String.ofList (Text.paddedHex 4 n)
  else Text.quotedChar c

/-- An origin in the transcript. -/
def originText : Origin → String
  | .viewport => "viewport"
  | .pointer => "pointer"
  | .element e => e.display

/-- A span in the transcript. -/
def millisText (d : Span) : String := toString d.millis ++ "ms"

/-- An interaction in the transcript. -/
def interactionText : Interaction → String
  | .pointerDown button => "down(" ++ toString button.toNat ++ ")"
  | .pointerUp button => "up(" ++ toString button.toNat ++ ")"
  | .pointerMove duration origin x y =>
      "move(" ++ ", ".intercalate
        [originText origin, toString x.toInt, toString y.toInt, millisText duration] ++ ")"
  | .keyDown value => "key_down(" ++ codePointText value ++ ")"
  | .keyUp value => "key_up(" ++ codePointText value ++ ")"
  | .pause duration => "pause(" ++ millisText duration ++ ")"

/-- The line of a timeline. -/
def timelineLine (t : Timeline) : String :=
  "actions: " ++ t.device.wireId ++ " ["
    ++ ", ".intercalate (t.steps.map interactionText) ++ "]"

/-- The place of a mouse command. -/
def placeText : Option ElementRef → String
  | some e => e.display
  | none => "here"

/-- An offset with its sign. -/
def signedText (n : Int32) : String :=
  (if n.toInt < 0 then "" else "+") ++ toString n.toInt

/-- The line of a mouse command. -/
def mouseLine : MouseCommand → String
  | .click => "mouse: click " ++ placeText none
  | .contextClick => "mouse: context_click " ++ placeText none
  | .down => "mouse: down " ++ placeText none
  | .up => "mouse: up " ++ placeText none
  | .move target x y =>
      "mouse: move " ++ " ".intercalate [placeText target, signedText x, signedText y]

/-- The line of a keyboard command. -/
def keyboardLine : KeyboardCommand → String
  | .sendKeys keys => "keyboard: send_keys " ++ " ".intercalate (keys.map KeyInput.display)
  | .press key => "keyboard: press " ++ key.display
  | .release key => "keyboard: release " ++ key.display

/-- The line of a legacy command. -/
def commandLine : LegacyCommand → String
  | .mouse c => mouseLine c
  | .keyboard c => keyboardLine c

/-- The lines that one effect adds to the transcript; a wait adds none. -/
def effectLines (c : Console) : Effect → List String
  | .sequences ts =>
      if c.mode = .rejectActions then ["actions: rejected"] else ts.map timelineLine
  | .legacy (.command command) => [commandLine command]
  | .legacy (.wait _) => []

/-- The transcript of a performance. -/
def transcript (c : Console) (p : Performance) : List String :=
  p.effects.flatMap (effectLines c)

end Console

end GestureTimeline
