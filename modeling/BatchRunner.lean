import BatchRunner.Batch
import BatchRunner.Cli.Arguments
import BatchRunner.Cli.Check
import BatchRunner.Cli.Command
import BatchRunner.Cli.Count
import BatchRunner.Cli.Init
import BatchRunner.Cli.Program
import BatchRunner.Cli.Run
import BatchRunner.Cli.RunOptions
import BatchRunner.Cli.Session
import BatchRunner.Cli.Transcript
import BatchRunner.Cli.UsageError
import BatchRunner.Configuration
import BatchRunner.Decimal.Layout
import BatchRunner.Decimal.Shortest
import BatchRunner.Decode.Basic
import BatchRunner.Decode.Choice
import BatchRunner.Decode.Error
import BatchRunner.Decode.Message
import BatchRunner.Decode.Node
import BatchRunner.Decode.Record
import BatchRunner.Environment
import BatchRunner.Error
import BatchRunner.Files.Lookup
import BatchRunner.Files.Tree
import BatchRunner.Files.Workspace
import BatchRunner.Hooks
import BatchRunner.Host
import BatchRunner.Json.Number
import BatchRunner.Json.Printer
import BatchRunner.Json.Reader
import BatchRunner.Json.Value
import BatchRunner.Machine.Basic
import BatchRunner.Machine.Host
import BatchRunner.Machine.JobControl
import BatchRunner.Machine.Line
import BatchRunner.Machine.Plan
import BatchRunner.Machine.Process
import BatchRunner.Machine.Program
import BatchRunner.Machine.Redirection
import BatchRunner.Machine.Schedule
import BatchRunner.Machine.Shell.Arithmetic
import BatchRunner.Machine.Shell.Builtin
import BatchRunner.Machine.Shell.Command
import BatchRunner.Machine.Shell.Condition
import BatchRunner.Machine.Shell.Context
import BatchRunner.Machine.Shell.Expansion
import BatchRunner.Machine.Shell.Format
import BatchRunner.Machine.Shell.Grammar
import BatchRunner.Machine.Shell.Options
import BatchRunner.Machine.Shell.Pattern
import BatchRunner.Machine.Shell.Source
import BatchRunner.Machine.Shell.Token
import BatchRunner.Machine.Shell.Word
import BatchRunner.Machine.Simple
import BatchRunner.Machine.Step
import BatchRunner.Machine.Tool.Call
import BatchRunner.Machine.Tool.Checksums
import BatchRunner.Machine.Tool.Compare
import BatchRunner.Machine.Tool.Edit.Basic
import BatchRunner.Machine.Tool.Edit.Reader
import BatchRunner.Machine.Tool.Edit.Run
import BatchRunner.Machine.Tool.Feed
import BatchRunner.Machine.Tool.Folder
import BatchRunner.Machine.Tool.Launcher
import BatchRunner.Machine.Tool.Lines
import BatchRunner.Machine.Tool.Listing
import BatchRunner.Machine.Tool.Plain
import BatchRunner.Machine.Tool.Records
import BatchRunner.Machine.Tool.Search
import BatchRunner.Machine.Tool.Stream
import BatchRunner.Machine.Tool.System
import BatchRunner.Machine.Tool.Table
import BatchRunner.Machine.Tool.Translate
import BatchRunner.Machine.Unwinding
import BatchRunner.Machine.Usual
import BatchRunner.Main
import BatchRunner.Os.Errno
import BatchRunner.Os.Fault
import BatchRunner.Os.Signal
import BatchRunner.Policy
import BatchRunner.Queue.Run
import BatchRunner.Queue.Runner
import BatchRunner.Queue.Stats
import BatchRunner.Readiness
import BatchRunner.Report
import BatchRunner.Settings
import BatchRunner.Store
import BatchRunner.Task.Basic
import BatchRunner.Task.Capture
import BatchRunner.Task.Halt
import BatchRunner.Task.Id
import BatchRunner.Task.Lifecycle
import BatchRunner.Task.Spec
import BatchRunner.Task.State
import BatchRunner.Task.Termination
import BatchRunner.Text.Blank
import BatchRunner.Text.Digest
import BatchRunner.Text.Escaped
import BatchRunner.Text.Octets
import BatchRunner.Text.Regex
import BatchRunner.Text.Scan
import BatchRunner.Text.Utf8
import BatchRunner.Toml.Assembly
import BatchRunner.Toml.Literal
import BatchRunner.Toml.Reader
import BatchRunner.Toml.Value
import BatchRunner.Toml.Writer
import BatchRunner.Verdict
import BatchRunner.Proofs.Queue.Recording
import BatchRunner.Proofs.Queue.Telling
import BatchRunner.Proofs.Host.Prompt
import BatchRunner.Proofs.Queue.Failures
import BatchRunner.Proofs.Queue.Closing
import BatchRunner.Proofs.Queue.Counting
import BatchRunner.Proofs.Queue.Admission
import BatchRunner.Proofs.Queue.Parallelism
import BatchRunner.Proofs.Queue.Awaiting
import BatchRunner.Proofs.Queue.Conserving
import BatchRunner.Proofs.Cli.Queueing
import BatchRunner.Proofs.Queue.Succeeding
import BatchRunner.Proofs.Cli.Status
import BatchRunner.Proofs.Files.Paths
import BatchRunner.Proofs.Files.Resolving
import BatchRunner.Proofs.Cli.Checking
import BatchRunner.Proofs.Host.Quiet
import BatchRunner.Proofs.Queue.OneByOne
import BatchRunner.Proofs.Queue.Rehearsing
import BatchRunner.Proofs.Queue.Unbroken
import BatchRunner.Proofs.Queue.Reuse
import BatchRunner.Proofs.Queue.Starting
import BatchRunner.Proofs.Queue.Learning
import BatchRunner.Proofs.Cli.Reporting
import BatchRunner.Proofs.Toml.Strings
import BatchRunner.Proofs.Toml.Values
import BatchRunner.Proofs.Toml.Lines
import BatchRunner.Proofs.Toml.Documents
import BatchRunner.Proofs.Files.Writing
import BatchRunner.Proofs.Store.Decoding
import BatchRunner.Proofs.Store.Saving
import BatchRunner.Proofs.Task.Unbroken
import BatchRunner.Proofs.Task.Lifetime
import BatchRunner.Proofs.Cli.Accepting
import BatchRunner.Proofs.Host.Alike
import BatchRunner.Proofs.Task.RunningOut
import BatchRunner.Proofs.Queue.AnyOrder
import BatchRunner.Proofs.Task.Answering
import BatchRunner.Proofs.Queue.Returning
import BatchRunner.Proofs.Queue.Progress
import BatchRunner.Proofs.Task.Classifying
import BatchRunner.Proofs.Readiness.Rows
import BatchRunner.Proofs.Cli.Initializing
import BatchRunner.Proofs.Cli.Options
