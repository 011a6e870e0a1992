import BuildRunner.Main
import BuildRunner.Message.Builder
import BuildRunner.Process.Watch
import BuildRunner.Run.Inspect
import BuildRunner.Run.Planning
import BuildRunner.Run.Rehearsal
import BuildRunner.Proofs.Diagnostic.PublishAll
import BuildRunner.Proofs.Path.Table
import BuildRunner.Proofs.Diagnostic.Agreement
import BuildRunner.Proofs.Message.Lines
import BuildRunner.Proofs.Run.History
import BuildRunner.Proofs.Run.Transition
import BuildRunner.Proofs.Run.SingleFlight
import BuildRunner.Proofs.Run.Waiting
import BuildRunner.Proofs.Run.Announced
import BuildRunner.Proofs.Run.Isolation
import BuildRunner.Proofs.Run.Notice
import BuildRunner.Proofs.Run.Balance
import BuildRunner.Proofs.Run.Fate
import BuildRunner.Proofs.Run.Ending
import BuildRunner.Proofs.Run.Renumbering
import BuildRunner.Proofs.Run.Closing
import BuildRunner.Proofs.Run.Course
import BuildRunner.Proofs.Run.Stopped
import BuildRunner.Proofs.Run.Killed
import BuildRunner.Proofs.Run.Transcript
import BuildRunner.Proofs.Json.RoundTrip
import BuildRunner.Proofs.Text.Utf8
import BuildRunner.Proofs.Text.Lossy
import BuildRunner.Proofs.Process.LineDecoder
import BuildRunner.Proofs.Process.Pieces
import BuildRunner.Proofs.Process.Supervision
import BuildRunner.Proofs.Run.Planning
import BuildRunner.Proofs.Message.Written
import BuildRunner.Proofs.Run.Wire
import BuildRunner.Proofs.Run.PlainText
import BuildRunner.Proofs.Run.Busy
import BuildRunner.Proofs.Run.Refused
import BuildRunner.Proofs.Message.Settled
import BuildRunner.Proofs.Message.Told
import BuildRunner.Proofs.Process.WholeText
import BuildRunner.Proofs.Message.WellFormed
import BuildRunner.Proofs.Diagnostic.FirstReports
import BuildRunner.Proofs.Run.Unscreened
import BuildRunner.Proofs.Diagnostic.Printed
import BuildRunner.Proofs.Message.Coordinates
import BuildRunner.Proofs.Text.Split
import BuildRunner.Proofs.Path.Resolved
import BuildRunner.Proofs.Diagnostic.Resolved
import BuildRunner.Proofs.Text.Trimmed
import BuildRunner.Proofs.Verb.Spelled
import BuildRunner.Proofs.Message.Unread
import BuildRunner.Proofs.Process.Fleet
import BuildRunner.Proofs.CommandLine.Written
import BuildRunner.Proofs.Message.Chain
