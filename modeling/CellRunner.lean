import CellRunner.Config.Basic
import CellRunner.Config.Load
import CellRunner.Config.Schema
import CellRunner.Decimal.Fixed
import CellRunner.Decimal.Shortest
import CellRunner.Directive.Arguments
import CellRunner.Directive.Basic
import CellRunner.Directive.Line
import CellRunner.Fault.Basic
import CellRunner.Fault.System
import CellRunner.Host.Invocation
import CellRunner.Host.Outcome
import CellRunner.Host.Run
import CellRunner.Host.Trouble
import CellRunner.Log.Level
import CellRunner.Log.Line
import CellRunner.Machine.Account
import CellRunner.Machine.Files
import CellRunner.Machine.Installed
import CellRunner.Machine.Kernel
import CellRunner.Machine.Schedule
import CellRunner.Machine.Signal
import CellRunner.Machine.System
import CellRunner.Machine.Task
import CellRunner.Main
import CellRunner.Regex.Basic
import CellRunner.Regex.Ordered.Basic
import CellRunner.Regex.Ordered.Parse
import CellRunner.Regex.Parse
import CellRunner.Session.Basic
import CellRunner.Session.Event
import CellRunner.Session.Job
import CellRunner.Session.Pipeline
import CellRunner.Session.Scene
import CellRunner.Session.TempFiles
import CellRunner.Shell.Arithmetic
import CellRunner.Shell.Braces
import CellRunner.Shell.Builtin.Basic
import CellRunner.Shell.Builtin.Complete
import CellRunner.Shell.Builtin.Control
import CellRunner.Shell.Builtin.Declare
import CellRunner.Shell.Builtin.Directory
import CellRunner.Shell.Builtin.Functions
import CellRunner.Shell.Builtin.History
import CellRunner.Shell.Builtin.Options
import CellRunner.Shell.Builtin.Read
import CellRunner.Shell.Builtin.Signals
import CellRunner.Shell.Candidates
import CellRunner.Shell.Condition
import CellRunner.Shell.Copy
import CellRunner.Shell.Eval
import CellRunner.Shell.Expand
import CellRunner.Shell.FileNames
import CellRunner.Shell.Format
import CellRunner.Shell.Handler
import CellRunner.Shell.Help
import CellRunner.Shell.Invoke
import CellRunner.Shell.Jobs
import CellRunner.Shell.Lookup
import CellRunner.Shell.Parse
import CellRunner.Shell.Pattern
import CellRunner.Shell.Printf
import CellRunner.Shell.Prompt
import CellRunner.Shell.Redirect
import CellRunner.Shell.RichArithmetic
import CellRunner.Shell.Show
import CellRunner.Shell.Signal
import CellRunner.Shell.Source
import CellRunner.Shell.Start
import CellRunner.Shell.State
import CellRunner.Shell.Syntax
import CellRunner.Shell.Trace
import CellRunner.Shell.Variables
import CellRunner.Shell.Word
import CellRunner.Supervisor.Basic
import CellRunner.Supervisor.Channel
import CellRunner.Supervisor.Decoder
import CellRunner.Supervisor.Step
import CellRunner.Supervisor.StreamDecoder
import CellRunner.Text.Blank
import CellRunner.Text.Case
import CellRunner.Text.Cased
import CellRunner.Text.Moment
import CellRunner.Text.Quoted
import CellRunner.Text.Ranges
import CellRunner.Text.Unshown
import CellRunner.Text.Utf8
import CellRunner.Toml.Cursor
import CellRunner.Toml.Node
import CellRunner.Toml.Plain
import CellRunner.Toml.Quotation
import CellRunner.Toml.Scalar
import CellRunner.Toml.Statement
import CellRunner.Tool.Amount
import CellRunner.Tool.Arguments
import CellRunner.Tool.Backup
import CellRunner.Tool.Basic
import CellRunner.Tool.Cat
import CellRunner.Tool.Charset
import CellRunner.Tool.Columns
import CellRunner.Tool.Compare
import CellRunner.Tool.Copying
import CellRunner.Tool.Count
import CellRunner.Tool.Difference
import CellRunner.Tool.Digest
import CellRunner.Tool.Dump
import CellRunner.Tool.Editing.Run
import CellRunner.Tool.Editing.Script
import CellRunner.Tool.Encoding
import CellRunner.Tool.Ends
import CellRunner.Tool.Expression
import CellRunner.Tool.Factors
import CellRunner.Tool.Facts
import CellRunner.Tool.Finding
import CellRunner.Tool.Installing
import CellRunner.Tool.Launch
import CellRunner.Tool.Lines
import CellRunner.Tool.Linking
import CellRunner.Tool.Listing
import CellRunner.Tool.Making
import CellRunner.Tool.Mode
import CellRunner.Tool.Moment
import CellRunner.Tool.Options
import CellRunner.Tool.Order
import CellRunner.Tool.Ownership
import CellRunner.Tool.Paragraphs
import CellRunner.Tool.Paths
import CellRunner.Tool.Precedence
import CellRunner.Tool.Records.Number
import CellRunner.Tool.Records.Parse
import CellRunner.Tool.Records.Run
import CellRunner.Tool.Records.Syntax
import CellRunner.Tool.Records.Table
import CellRunner.Tool.Records.Token
import CellRunner.Tool.Records.Value
import CellRunner.Tool.Search
import CellRunner.Tool.Sequence
import CellRunner.Tool.Shuffle
import CellRunner.Tool.Signalling
import CellRunner.Tool.Sorted
import CellRunner.Tool.Splitting
import CellRunner.Tool.Tree
import CellRunner.Tool.Units
import CellRunner.Tool.Words
import CellRunner.World
import CellRunner.Proofs.Supervisor.Schedule
import CellRunner.Proofs.Session.Stages
import CellRunner.Proofs.Supervisor.IllFormed
import CellRunner.Proofs.Supervisor.Books
import CellRunner.Proofs.Session.Aside
import CellRunner.Proofs.Session.Files
import CellRunner.Proofs.Session.Ledger
import CellRunner.Proofs.Session.Subprocesses
import CellRunner.Proofs.Session.Transcript
import CellRunner.Proofs.Supervisor.Failures
import CellRunner.Proofs.Supervisor.Renewal
import CellRunner.Proofs.Supervisor.Flush
import CellRunner.Proofs.Supervisor.Afterwards
import CellRunner.Proofs.Supervisor.Abandoned
import CellRunner.Proofs.Session.Orderly
import CellRunner.Proofs.Session.Ventures
import CellRunner.Proofs.Session.Requests
import CellRunner.Proofs.Session.Breakdown
import CellRunner.Proofs.Session.Lifetimes
import CellRunner.Proofs.Session.Effects
import CellRunner.Proofs.Session.Verification
import CellRunner.Proofs.Host.Sources
import CellRunner.Proofs.Text.Lines
import CellRunner.Proofs.Text.Case
import CellRunner.Proofs.Text.Expression
import CellRunner.Proofs.Directive.Lines
import CellRunner.Proofs.Directive.Tokens
import CellRunner.Proofs.Directive.Matches
import CellRunner.Proofs.Directive.Listing
import CellRunner.Proofs.Directive.Concatenation
import CellRunner.Proofs.Directive.QuotePairs
import CellRunner.Proofs.Supervisor.Feeding
import CellRunner.Proofs.Supervisor.Notices
import CellRunner.Proofs.Session.Removals
import CellRunner.Proofs.Session.Tracker
import CellRunner.Proofs.Toml.Keys
import CellRunner.Proofs.Config.Sections
import CellRunner.Proofs.Config.Loading
import CellRunner.Proofs.Session.Foretold
import CellRunner.Proofs.Host.Preview
