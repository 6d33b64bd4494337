import EditBatch.CommandLine.Program
import EditBatch.Main
import EditBatch.Rehearsal.Client
import EditBatch.Rehearsal.Directory
import EditBatch.Rehearsal.Listener
import EditBatch.Rehearsal.Server
import EditBatch.Session.Script
import EditBatch.Proofs.Run.Course
import EditBatch.Proofs.Run.Transition
import EditBatch.Proofs.Run.Change
import EditBatch.Proofs.Run.Exclusion
import EditBatch.Proofs.Run.Timing
import EditBatch.Proofs.Run.Order
import EditBatch.Proofs.Command.Calls
import EditBatch.Proofs.Row.Layout
import EditBatch.Proofs.Run.Once
import EditBatch.Proofs.Run.Record
import EditBatch.Proofs.Run.Propagation
import EditBatch.Proofs.Run.Stepping
import EditBatch.Proofs.Run.Move
import EditBatch.Proofs.Run.Pace
import EditBatch.Proofs.Run.Flights
import EditBatch.Proofs.Run.Stopping
import EditBatch.Proofs.Run.Steady
import EditBatch.Proofs.Run.Completion
import EditBatch.Proofs.Run.Registration
import EditBatch.Proofs.Session.Course
import EditBatch.Proofs.Session.Stopping
import EditBatch.Proofs.Run.Sequence
import EditBatch.Proofs.Run.Enactment
import EditBatch.Proofs.Run.Renaming
import EditBatch.Proofs.Command.Replies
import EditBatch.Proofs.Run.Forecast
import EditBatch.Proofs.Run.Capacity
import EditBatch.Proofs.Run.Staying
import EditBatch.Proofs.Run.Ledger
import EditBatch.Proofs.Run.Resumption
import EditBatch.Proofs.Command.Export
import EditBatch.Proofs.Row.Grouping
import EditBatch.Proofs.Run.Agreement
import EditBatch.Proofs.Run.Closing
import EditBatch.Proofs.Row.Sharing
import EditBatch.Proofs.Run.Accounting
import EditBatch.Proofs.Session.Accounting
import EditBatch.Proofs.Run.Polling
import EditBatch.Proofs.Session.Polling
import EditBatch.Proofs.Command.Exchanges
import EditBatch.Proofs.Run.Creation
import EditBatch.Proofs.Run.Listening
import EditBatch.Proofs.Session.Notification
import EditBatch.Proofs.Session.Succession
import EditBatch.Proofs.Wiki.Replies
import EditBatch.Proofs.Command.Conduct
import EditBatch.Proofs.Http.Delivery
import EditBatch.Proofs.Wiki.Verdicts
import EditBatch.Proofs.Wiki.Documents
import EditBatch.Proofs.Wiki.Removal
import EditBatch.Proofs.CommandLine.Shown
import EditBatch.Proofs.Json.Nesting
import EditBatch.Proofs.CommandLine.Watching
import EditBatch.Proofs.CommandLine.Report
import EditBatch.Proofs.Row.Grammar
import EditBatch.Proofs.Text.Line
import EditBatch.Proofs.Text.Blank
import EditBatch.Proofs.Text.Pattern
import EditBatch.Proofs.Row.Sheet
import EditBatch.Proofs.CommandLine.Sources
import EditBatch.Proofs.Run.Forward
import EditBatch.Proofs.Run.Draining
import EditBatch.Proofs.Session.Draining
import EditBatch.Proofs.Item.Spelling
import EditBatch.Proofs.Row.Structure
import EditBatch.Proofs.Wiki.Languages
import EditBatch.Proofs.Wiki.Qualifiers
import EditBatch.Proofs.Wiki.BlankItems
import EditBatch.Proofs.Run.Identity
