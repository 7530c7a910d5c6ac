import GestureTimeline.Legacy
import GestureTimeline.Timelines

/-! # Plans

    A plan is what a session had recorded when it was built: its timelines and its gestures.
    It is performed by the synchronized command when the remote end advertises that command,
    and through the legacy handles when it does not or answers that it lacks the command. -/

namespace GestureTimeline

/-- Both histories of a session as they stood at one moment. -/
structure Plan where
  timelines : List Timeline
  composite : List Gesture
  deriving DecidableEq, Inhabited

namespace Plan

/-- The ticks of a plan, read off its first timeline. -/
def tickCount (p : Plan) : Nat :=
  match p.timelines with
  | [] => 0
  | t :: _ => t.steps.length

/-- Whether a plan has neither ticks nor gestures. -/
def isEmpty (p : Plan) : Bool := p.tickCount == 0 && p.composite.isEmpty

/-- Whether two plans hold the same timelines of the same devices and the same gestures. -/
def isSame (p q : Plan) : Bool :=
  p.timelines.length == q.timelines.length
    && (p.timelines.zip q.timelines).all (fun (a, b) => a.isSame b)
    && p.composite == q.composite

end Plan

/-- The protocol that performed a plan. -/
inductive Protocol where
  | synchronized
  | legacy
  deriving DecidableEq, Inhabited

/-- The word for a protocol. -/
def Protocol.name : Protocol → String
  | synchronized => "synchronized"
  | legacy => "legacy"

/-- How the remote end answers while a plan is performed. -/
structure Answers where
  /-- The failure that answers the synchronized command, if one does. -/
  sequences : Option TargetError
  /-- The failure that answers the legacy command number `n` of the run, if one does. -/
  legacy : Nat → Option TargetError

/-- The ways that are open for performing a plan. -/
structure Route where
  /-- Whether there is a remote end to send the synchronized command to. -/
  hasTarget : Bool
  /-- Whether the remote end advertises the synchronized command. -/
  synchronized : Bool
  /-- The legacy handles, if any are known. -/
  handles : Option Handles
  deriving DecidableEq, Inhabited

/-- One thing that performing a plan does. -/
inductive Effect where
  /-- The synchronized command, with all timelines. -/
  | sequences (timelines : List Timeline)
  /-- A step of a legacy replay. -/
  | legacy (step : LegacyStep)
  deriving DecidableEq, Inhabited

/-- The nanoseconds that an effect waits. -/
def Effect.waitedNanos : Effect → Nat
  | legacy (.wait d) => d.nanos
  | _ => 0

/-- What performing a plan did, in order, and how it ended. -/
structure Performance where
  effects : List Effect
  result : Except ActionError Protocol

namespace Performance

/-- A performance that ends before it does anything. -/
def failed (e : ActionError) : Performance := ⟨[], .error e⟩

/-- The performance that a legacy replay makes. -/
def ofReplay (r : Replay) : Performance :=
  ⟨r.steps.map .legacy, r.result.map fun _ => .legacy⟩

/-- A performance with one effect in front. -/
def after (e : Effect) (p : Performance) : Performance := { p with effects := e :: p.effects }

/-- The legacy commands that a performance made. -/
def legacyCommands (p : Performance) : List LegacyCommand :=
  p.effects.filterMap fun
    | .legacy (.command c) => some c
    | _ => none

/-- The nanoseconds that a performance waited. -/
def waitedNanos (p : Performance) : Nat :=
  p.effects.foldr (fun e n => e.waitedNanos + n) 0

end Performance

namespace Plan

/-- Replays the gestures of a plan through the handles. -/
def performLegacy (p : Plan) (handles : Handles) (answers : Answers) : Performance :=
  .ofReplay (replay handles answers.legacy p.composite)

/-- Performs a plan.  The synchronized command is sent once if it is advertised; only the answer
    that the command is unsupported leads on to the legacy handles. -/
def perform (p : Plan) (route : Route) (answers : Answers) : Performance :=
  if route.hasTarget && route.synchronized then
    .after (.sequences p.timelines) <|
      match answers.sequences, route.handles with
      | none, _ => ⟨[], .ok .synchronized⟩
      | some e, some handles =>
          if e.isUnsupported then p.performLegacy handles answers else .failed (.target e)
      | some e, none => .failed (.target e)
  else
    match route.handles with
    | some handles => p.performLegacy handles answers
    | none => .failed (.noProtocol .bothProtocols)

end Plan

end GestureTimeline
