import GestureTimeline.Call
import GestureTimeline.CommandLine.Program
import GestureTimeline.Json.Reader
import GestureTimeline.Main
import GestureTimeline.Proofs.Batches
import GestureTimeline.Proofs.Events
import GestureTimeline.Proofs.Histories
import GestureTimeline.Proofs.Replay
import GestureTimeline.Proofs.Dispatch
import GestureTimeline.Proofs.SourceIds
import GestureTimeline.Proofs.Deferral
import GestureTimeline.Proofs.LegacySuccess
import GestureTimeline.Proofs.Growth
import GestureTimeline.Proofs.Identities
import GestureTimeline.Proofs.RecordingMode
import GestureTimeline.Proofs.Payload
import GestureTimeline.Proofs.SourceGrowth
import GestureTimeline.Proofs.Transcript
import GestureTimeline.Proofs.Blame
import GestureTimeline.Proofs.Prediction
import GestureTimeline.Proofs.Records
import GestureTimeline.Proofs.ScriptForms
import GestureTimeline.Proofs.ScriptRoundTrip
import GestureTimeline.Proofs.Repetition
import GestureTimeline.Proofs.ConsoleNames
import GestureTimeline.Proofs.RawTicks
import GestureTimeline.Proofs.Extension
import GestureTimeline.Proofs.HeldKeys
import GestureTimeline.Proofs.TickOrder
import GestureTimeline.Proofs.Typing
import GestureTimeline.Proofs.ScriptSize
import GestureTimeline.Proofs.Advance
import GestureTimeline.Proofs.JsonText
import GestureTimeline.Proofs.Pacing
import GestureTimeline.Proofs.SourceTypes
import GestureTimeline.Proofs.PartialConfig
import GestureTimeline.Proofs.Slots
