import TraceLog.CallSite
import TraceLog.Clock
import TraceLog.CommandLine
import TraceLog.Diagnostics
import TraceLog.ErrorValue
import TraceLog.Fault
import TraceLog.FilePath
import TraceLog.FileTree
import TraceLog.FormatSpec
import TraceLog.Gate
import TraceLog.HostLogger
import TraceLog.Invocation
import TraceLog.Layout
import TraceLog.Level
import TraceLog.Logger
import TraceLog.Main
import TraceLog.Number.Binary64
import TraceLog.Number.Decimal
import TraceLog.Number.Radix
import TraceLog.Number.Reading
import TraceLog.Options
import TraceLog.Options.VariableFile
import TraceLog.Outlets
import TraceLog.Proofs.Agreement
import TraceLog.Proofs.Attempt
import TraceLog.Proofs.Blame
import TraceLog.Proofs.Calls
import TraceLog.Proofs.Command
import TraceLog.Proofs.Commitment
import TraceLog.Proofs.Complaints
import TraceLog.Proofs.Copies
import TraceLog.Proofs.Decoding
import TraceLog.Proofs.Delivery
import TraceLog.Proofs.Digits
import TraceLog.Proofs.Entanglement
import TraceLog.Proofs.Entries
import TraceLog.Proofs.Filling
import TraceLog.Proofs.Formatting
import TraceLog.Proofs.Grammar
import TraceLog.Proofs.Handles
import TraceLog.Proofs.Handover
import TraceLog.Proofs.Hearing
import TraceLog.Proofs.Isolation
import TraceLog.Proofs.LevelValues
import TraceLog.Proofs.Loaders
import TraceLog.Proofs.LoggerTree
import TraceLog.Proofs.Logging
import TraceLog.Proofs.Mirroring
import TraceLog.Proofs.Muting
import TraceLog.Proofs.Numerals
import TraceLog.Proofs.Outlets
import TraceLog.Proofs.Printing
import TraceLog.Proofs.ProcessWide
import TraceLog.Proofs.Reachable
import TraceLog.Proofs.Reconfiguration
import TraceLog.Proofs.Redirect
import TraceLog.Proofs.Redirections
import TraceLog.Proofs.Refusals
import TraceLog.Proofs.Rendering
import TraceLog.Proofs.Replaying
import TraceLog.Proofs.Reporting
import TraceLog.Proofs.Retry
import TraceLog.Proofs.Run
import TraceLog.Proofs.ShortestSpelling
import TraceLog.Proofs.Soundness
import TraceLog.Proofs.Sparing
import TraceLog.Proofs.Spellings
import TraceLog.Proofs.StandingClock
import TraceLog.Proofs.SteadyClock
import TraceLog.Proofs.Steps
import TraceLog.Proofs.StrictPolicy
import TraceLog.Proofs.Strictness
import TraceLog.Proofs.Suppression
import TraceLog.Proofs.Telling
import TraceLog.Proofs.Threshold
import TraceLog.Proofs.Transcript
import TraceLog.Proofs.Trimming
import TraceLog.Proofs.Variables
import TraceLog.Proofs.VirtualTime
import TraceLog.Proofs.Writes
import TraceLog.Proofs.WrittenTraces
import TraceLog.Record
import TraceLog.Replay
import TraceLog.Report
import TraceLog.Session
import TraceLog.Stream
import TraceLog.Table
import TraceLog.Template.Directive
import TraceLog.Template.Filling
import TraceLog.Text.Blank
import TraceLog.Text.Digit
import TraceLog.Text.Letter
import TraceLog.Text.Lines
import TraceLog.Text.Printable
import TraceLog.Text.Quoted
import TraceLog.Text.Similar
import TraceLog.Text.Split
import TraceLog.Text.Terminal
import TraceLog.Text.Utf8
import TraceLog.Text.Word
import TraceLog.Trace
import TraceLog.Value
import TraceLog.Value.Real
import TraceLog.Value.Whole
