import Delivery.Backoff.Calculator
import Delivery.Backoff.Error
import Delivery.Backoff.Strategy
import Delivery.Breaker.Basic
import Delivery.Breaker.Circuit
import Delivery.Breaker.Gate
import Delivery.Caller
import Delivery.CommandLine.Arguments
import Delivery.CommandLine.Help
import Delivery.CommandLine.Run
import Delivery.Courier
import Delivery.DeadLetter.Entry
import Delivery.DeadLetter.EntryId
import Delivery.DeadLetter.Error
import Delivery.DeadLetter.Filter
import Delivery.DeadLetter.Memory
import Delivery.DeadLetter.PurgeLoop
import Delivery.DeadLetter.Queue
import Delivery.DeadLetter.Reason
import Delivery.DeadLetter.Settings
import Delivery.DeadLetter.Store
import Delivery.Document.Number
import Delivery.Document.Reader
import Delivery.Document.Records
import Delivery.Document.Text
import Delivery.Document.Value
import Delivery.Double.Basic
import Delivery.Double.Decimal
import Delivery.Double.Shortest
import Delivery.Double.Text
import Delivery.Duration
import Delivery.Failure.CallError
import Delivery.Failure.Description
import Delivery.Failure.Kind
import Delivery.Failure.SystemError
import Delivery.Failure.TransportError
import Delivery.Main
import Delivery.Message
import Delivery.Opening
import Delivery.Program
import Delivery.Proofs.Breaker.Eager
import Delivery.Proofs.Breaker.Run
import Delivery.Proofs.Calls.Retrying
import Delivery.Proofs.Calls.Runner
import Delivery.Proofs.Calls.Scene
import Delivery.Proofs.DeadLetter.Memory
import Delivery.Proofs.Delivering.Account
import Delivery.Proofs.Registry.Reach
import Delivery.Proofs.Replay.Session
import Delivery.Proofs.Replay.System
import Delivery.Registry
import Delivery.Rehearsal.Calls
import Delivery.Rehearsal.Performance
import Delivery.Rehearsal.Scenario
import Delivery.Rehearsal.Schedule
import Delivery.Rehearsal.Session
import Delivery.Rehearsal.Stage
import Delivery.Rehearsal.Step
import Delivery.Rehearsal.Timeline
import Delivery.Rehearsal.Trial
import Delivery.Relational.Command
import Delivery.Relational.Row
import Delivery.Relational.Schema
import Delivery.Relational.Statement
import Delivery.Relational.Store
import Delivery.Relational.Table
import Delivery.Retry
import Delivery.Settings.Breaker
import Delivery.Settings.Courier
import Delivery.Settings.Error
import Delivery.Settings.Files
import Delivery.Settings.Logging
import Delivery.Settings.Registry
import Delivery.Settings.Retry
import Delivery.Text.Quoted
import Delivery.Text.Record
import Delivery.Timestamp.Basic
import Delivery.Timestamp.Text
import Delivery.Unicode.Blank
import Delivery.Unicode.Casing
import Delivery.Unicode.Graphic
import Delivery.Unicode.Identifier
import Delivery.Unicode.Lowercase
import Delivery.Unicode.Ranges
import Delivery.Proofs.Replay.Single
import Delivery.Proofs.Breaker.Moves
import Delivery.Proofs.Breaker.Sound
import Delivery.Proofs.Breaker.History
import Delivery.Proofs.Breaker.Traffic
import Delivery.Proofs.Breaker.Window
import Delivery.Proofs.Breaker.Probes
import Delivery.Proofs.DeadLetter.Lifetime
import Delivery.Proofs.Registry.Frame
import Delivery.Proofs.Registry.Docket
import Delivery.Proofs.Registry.InLine
import Delivery.Proofs.Registry.Isolation
import Delivery.Proofs.Relational.Queries
import Delivery.Proofs.Relational.Runs
import Delivery.Proofs.Relational.ReadBack
import Delivery.Proofs.Replay.Delivered
import Delivery.Proofs.Calls.Unrolled
import Delivery.Proofs.Delivering.Attempts
import Delivery.Proofs.Delivering.Reasons
import Delivery.Proofs.Delivering.Unhindered
import Delivery.Proofs.Registry.SwitchedOff
import Delivery.Proofs.Registry.Requests
import Delivery.Proofs.Unicode.Lowercase
import Delivery.Proofs.Delivering.Conservation
import Delivery.Proofs.Delivering.Desk
import Delivery.Proofs.Registry.Catalogue
import Delivery.Proofs.Registry.Broadcast
import Delivery.Proofs.DeadLetter.Pages
import Delivery.Proofs.DeadLetter.Claims
import Delivery.Proofs.Delivering.Batch
import Delivery.Proofs.Replay.Custody
import Delivery.Proofs.DeadLetter.Purges
import Delivery.Proofs.Calls.Chosen
import Delivery.Proofs.Registry.Overrides
import Delivery.Proofs.Relational.Identifiers
import Delivery.Proofs.Backoff.Exact
import Delivery.Proofs.Backoff.Jitter
import Delivery.Proofs.Breaker.Cancellation
import Delivery.Proofs.Relational.Tokens
import Delivery.Proofs.Relational.Structure
import Delivery.Proofs.DeadLetter.IdText
import Delivery.Proofs.Backoff.Linear
import Delivery.Proofs.Calls.Validation
import Delivery.Proofs.DeadLetter.Schedule
