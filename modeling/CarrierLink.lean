import CarrierLink.Actuator
import CarrierLink.AlarmClock
import CarrierLink.Bench.Board
import CarrierLink.Bench.Platform
import CarrierLink.Bench.Readout
import CarrierLink.Bench.Session
import CarrierLink.Bench.Shell
import CarrierLink.Bytes
import CarrierLink.Callback
import CarrierLink.Central.Connection
import CarrierLink.Central.Script
import CarrierLink.Central.System
import CarrierLink.Central.Task
import CarrierLink.Clock
import CarrierLink.CommandLine.Arguments
import CarrierLink.CommandLine.Errand
import CarrierLink.CommandLine.Program
import CarrierLink.Diagnostic
import CarrierLink.Discovery
import CarrierLink.Error
import CarrierLink.Handles
import CarrierLink.Json.Document
import CarrierLink.Json.Token
import CarrierLink.Link
import CarrierLink.Main
import CarrierLink.Melody
import CarrierLink.Note
import CarrierLink.Number.Binary
import CarrierLink.Number.Decimal
import CarrierLink.Number.Digits
import CarrierLink.Number.Logarithm
import CarrierLink.Pitch
import CarrierLink.Profile
import CarrierLink.Proofs.AlarmText
import CarrierLink.Proofs.Arming
import CarrierLink.Proofs.Central.BoardOrder
import CarrierLink.Proofs.Central.Coherence
import CarrierLink.Proofs.Central.Conditions
import CarrierLink.Proofs.Central.Cycle
import CarrierLink.Proofs.Central.Exchange
import CarrierLink.Proofs.Central.FailedConnect
import CarrierLink.Proofs.Central.Failures
import CarrierLink.Proofs.Central.Floor
import CarrierLink.Proofs.Central.Groups
import CarrierLink.Proofs.Central.History
import CarrierLink.Proofs.Central.Isolation
import CarrierLink.Proofs.Central.LateWords
import CarrierLink.Proofs.Central.Limits
import CarrierLink.Proofs.Central.LostLink
import CarrierLink.Proofs.Central.Observer
import CarrierLink.Proofs.Central.Outstanding
import CarrierLink.Proofs.Central.Receipts
import CarrierLink.Proofs.Central.Representation
import CarrierLink.Proofs.Central.Samples
import CarrierLink.Proofs.Central.Session
import CarrierLink.Proofs.Central.Soundness
import CarrierLink.Proofs.Central.Stream
import CarrierLink.Proofs.Central.Tasks
import CarrierLink.Proofs.Central.Telemetry
import CarrierLink.Proofs.Central.Undisturbed
import CarrierLink.Proofs.Clock
import CarrierLink.Proofs.CommandLine.AlarmInput
import CarrierLink.Proofs.CommandLine.Closing
import CarrierLink.Proofs.CommandLine.Course
import CarrierLink.Proofs.CommandLine.Statuses
import CarrierLink.Proofs.Except
import CarrierLink.Proofs.Handles
import CarrierLink.Proofs.Melody.BoardText
import CarrierLink.Proofs.Melody.Drift
import CarrierLink.Proofs.Melody.Duration
import CarrierLink.Proofs.Melody.Editable
import CarrierLink.Proofs.Melody.Multiplier
import CarrierLink.Proofs.Melody.Reading
import CarrierLink.Proofs.Melody.RoundTrip
import CarrierLink.Proofs.Melody.WireText
import CarrierLink.Proofs.Note
import CarrierLink.Proofs.NoteNames
import CarrierLink.Proofs.Number.Decimal
import CarrierLink.Proofs.Number.Logarithm
import CarrierLink.Proofs.Number.Rounding
import CarrierLink.Proofs.Number.Value
import CarrierLink.Proofs.Pitch
import CarrierLink.Proofs.Radio
import CarrierLink.Proofs.Survey
import CarrierLink.Proofs.Text.Words
import CarrierLink.Proofs.Tuning
import CarrierLink.Proofs.View
import CarrierLink.Proofs.Wire
import CarrierLink.Radio
import CarrierLink.Settings
import CarrierLink.Table
import CarrierLink.Text.Printable
import CarrierLink.Text.Quoted
import CarrierLink.Text.Words
import CarrierLink.Uuid
import CarrierLink.Value
import CarrierLink.View
