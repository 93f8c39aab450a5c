import Deadwood.Analyzer.Invocation
import Deadwood.Analyzer.Locator
import Deadwood.Binary64.Basic
import Deadwood.Binary64.Layout
import Deadwood.Binary64.Shortest
import Deadwood.Command.Basic
import Deadwood.Command.Parser
import Deadwood.Command.Printer
import Deadwood.Command.Usage
import Deadwood.Console.Program
import Deadwood.Console.Scan
import Deadwood.Definition
import Deadwood.Document.Position
import Deadwood.Document.Store
import Deadwood.Document.Word
import Deadwood.Duration
import Deadwood.Editor.Capabilities
import Deadwood.Editor.Diagnostic
import Deadwood.Editor.Message
import Deadwood.Editor.Method
import Deadwood.Editor.Params
import Deadwood.Editor.Server
import Deadwood.Editor.Session
import Deadwood.Failure
import Deadwood.FileTree.Basic
import Deadwood.FileTree.Change
import Deadwood.Finding.Basic
import Deadwood.Finding.Publication
import Deadwood.Finding.Render
import Deadwood.Host.Error
import Deadwood.Host.Execution
import Deadwood.Host.Files
import Deadwood.Host.Kernel
import Deadwood.Host.Process
import Deadwood.Host.Turn
import Deadwood.Hover
import Deadwood.Json.Basic
import Deadwood.Json.Fault
import Deadwood.Json.Reader
import Deadwood.Json.Schema
import Deadwood.Json.Writer
import Deadwood.Lens
import Deadwood.Log
import Deadwood.Path.Basic
import Deadwood.Path.Map
import Deadwood.Path.Order
import Deadwood.Pipeline.Basic
import Deadwood.Pipeline.Calls
import Deadwood.Pipeline.Reader
import Deadwood.Pipeline.Refreshes
import Deadwood.Pipeline.Subscriptions
import Deadwood.Pipeline.Snapshot
import Deadwood.Pipeline.Worker
import Deadwood.Regex.Basic
import Deadwood.Regex.Parser
import Deadwood.Report.Basic
import Deadwood.Report.Decode
import Deadwood.Report.Encode
import Deadwood.Report.Flaw
import Deadwood.Schedule.Basic
import Deadwood.Schedule.Timeline
import Deadwood.Schedule.Trigger
import Deadwood.Settings.Basic
import Deadwood.Settings.Json
import Deadwood.Shell.Arithmetic
import Deadwood.Shell.Builtin
import Deadwood.Shell.Condition
import Deadwood.Shell.Expansion
import Deadwood.Shell.Field
import Deadwood.Shell.Glob
import Deadwood.Shell.Job
import Deadwood.Shell.Lookup
import Deadwood.Shell.Option
import Deadwood.Shell.Parser
import Deadwood.Shell.Printing
import Deadwood.Shell.Program
import Deadwood.Shell.Run
import Deadwood.Shell.Scanner
import Deadwood.Shell.State
import Deadwood.Shell.Stream
import Deadwood.Shell.Syntax
import Deadwood.Text.Blank
import Deadwood.Text.Combining
import Deadwood.Text.Composition
import Deadwood.Text.Direction
import Deadwood.Text.Joining
import Deadwood.Text.Layout
import Deadwood.Text.Mark
import Deadwood.Text.Octets
import Deadwood.Text.Quoted
import Deadwood.Text.RangeTable
import Deadwood.Text.StepTable
import Deadwood.Text.Unprintable
import Deadwood.Text.Utf8
import Deadwood.Text.WordChar
import Deadwood.Url.Address
import Deadwood.Url.Basic
import Deadwood.Url.FilePath
import Deadwood.Url.Folding
import Deadwood.Url.Host
import Deadwood.Url.Label
import Deadwood.Url.Parser
import Deadwood.Url.Percent
import Deadwood.Url.Punycode
import Deadwood.Url.Segments
import Deadwood.Utility.Basic
import Deadwood.Utility.Edit.Instruction
import Deadwood.Utility.Edit.Parser
import Deadwood.Utility.Edit.Run
import Deadwood.Utility.File
import Deadwood.Utility.Installation
import Deadwood.Utility.Line
import Deadwood.Utility.Listing
import Deadwood.Utility.Option
import Deadwood.Utility.Quoting
import Deadwood.Utility.Search
import Deadwood.Utility.Simple
import Deadwood.Watch.Relevance
import Deadwood.Watch.Session
import Deadwood.Watch.Watches
import Deadwood.Main
import Deadwood.Proofs.Finding.Publication
import Deadwood.Proofs.Pipeline.Client
import Deadwood.Proofs.Schedule.Step
import Deadwood.Proofs.Schedule.Requests
import Deadwood.Proofs.Pipeline.Generations
import Deadwood.Proofs.Schedule.Delivery
import Deadwood.Proofs.Document.Position
import Deadwood.Proofs.Document.Sync
import Deadwood.Proofs.Pipeline.Calls
import Deadwood.Proofs.Text.Utf8
import Deadwood.Proofs.Json.RoundTrip
import Deadwood.Proofs.Json.Schema
import Deadwood.Proofs.Report.Form
import Deadwood.Proofs.Report.Schema
import Deadwood.Proofs.Report.RoundTrip
import Deadwood.Proofs.Path.Join
import Deadwood.Proofs.Url.FilePath
import Deadwood.Proofs.Editor.Shown
import Deadwood.Proofs.Definition
import Deadwood.Proofs.Finding.Table
import Deadwood.Proofs.Finding.Views
import Deadwood.Proofs.Editor.Keys
import Deadwood.Proofs.Editor.Lenses
import Deadwood.Proofs.Schedule.Timeline
import Deadwood.Proofs.Schedule.Client
import Deadwood.Proofs.Schedule.Debounce
import Deadwood.Proofs.Schedule.Clock
import Deadwood.Proofs.Schedule.Coalesce
import Deadwood.Proofs.Path.Entries
import Deadwood.Proofs.Finding.Account
import Deadwood.Proofs.Finding.Plan
import Deadwood.Proofs.Hover
import Deadwood.Proofs.Text.Slice
import Deadwood.Proofs.Document.Offset
import Deadwood.Proofs.Document.Lines
import Deadwood.Proofs.Document.Word
import Deadwood.Proofs.Editor.Contents
import Deadwood.Proofs.Editor.Placement
import Deadwood.Proofs.Finding.Render
import Deadwood.Proofs.Settings
import Deadwood.Proofs.Json.Grammar
import Deadwood.Proofs.Report.Acceptance
import Deadwood.Proofs.Pipeline.Subscriptions
import Deadwood.Proofs.Watch.Relevance
import Deadwood.Proofs.Analyzer.Locator
import Deadwood.Proofs.Command.RoundTrip
