import LifecycleHooks.Bus.Basic
import LifecycleHooks.Bus.Program
import LifecycleHooks.Calendar
import LifecycleHooks.CommandLine.Arguments
import LifecycleHooks.CommandLine.Report
import LifecycleHooks.CommandLine.Session
import LifecycleHooks.Context
import LifecycleHooks.Decision
import LifecycleHooks.Digest.Basic
import LifecycleHooks.Digest.Early
import LifecycleHooks.Digest.Secure
import LifecycleHooks.Engine.Basic
import LifecycleHooks.Engine.Program
import LifecycleHooks.Environment
import LifecycleHooks.EventType
import LifecycleHooks.Expression.Basic
import LifecycleHooks.Expression.Reader
import LifecycleHooks.FileTree.Basic
import LifecycleHooks.FileTree.Node
import LifecycleHooks.FileTree.Route
import LifecycleHooks.Hook.Basic
import LifecycleHooks.Hook.Declaration
import LifecycleHooks.HookMap
import LifecycleHooks.Invocation
import LifecycleHooks.Json.Basic
import LifecycleHooks.Json.Expectation
import LifecycleHooks.Json.Printer
import LifecycleHooks.Json.Reader
import LifecycleHooks.Json.Relaxed
import LifecycleHooks.Json.Scanner
import LifecycleHooks.Json.Token
import LifecycleHooks.Launch
import LifecycleHooks.Loading
import LifecycleHooks.Main
import LifecycleHooks.Number.Double
import LifecycleHooks.Number.Machine
import LifecycleHooks.Number.Places
import LifecycleHooks.Number.Shortest
import LifecycleHooks.Numbered
import LifecycleHooks.Path
import LifecycleHooks.Process.Channel
import LifecycleHooks.Process.Executable
import LifecycleHooks.Process.Signal
import LifecycleHooks.Process.Task
import LifecycleHooks.Process.Transfer
import LifecycleHooks.Process.Work
import LifecycleHooks.Process.World
import LifecycleHooks.Proofs.Bus.Delivery
import LifecycleHooks.Proofs.Bus.Run
import LifecycleHooks.Proofs.Decision
import LifecycleHooks.Proofs.Engine.Concurrent
import LifecycleHooks.Proofs.Engine.Gating
import LifecycleHooks.Proofs.Engine.Reachable
import LifecycleHooks.Proofs.Engine.Reload
import LifecycleHooks.Proofs.Engine.Script
import LifecycleHooks.Proofs.Engine.System
import LifecycleHooks.Proofs.Engine.Turns
import LifecycleHooks.Proofs.Hook.Declaration
import LifecycleHooks.Proofs.Hook.Grammar
import LifecycleHooks.Proofs.HookMap
import LifecycleHooks.Proofs.Json.Building
import LifecycleHooks.Proofs.Json.Expectation
import LifecycleHooks.Proofs.Json.Fields
import LifecycleHooks.Proofs.Json.KeyOrder
import LifecycleHooks.Proofs.Json.WellFormed
import LifecycleHooks.Proofs.Loading
import LifecycleHooks.Proofs.Registry.History
import LifecycleHooks.Proofs.Registry.Operations
import LifecycleHooks.Proofs.Registry.Sharing
import LifecycleHooks.Registry.Basic
import LifecycleHooks.Registry.Session
import LifecycleHooks.Result
import LifecycleHooks.Runner
import LifecycleHooks.Settings.Basic
import LifecycleHooks.Settings.File
import LifecycleHooks.Shell.Arithmetic
import LifecycleHooks.Shell.Builtin.Aliases
import LifecycleHooks.Shell.Builtin.Basic
import LifecycleHooks.Shell.Builtin.Control
import LifecycleHooks.Shell.Builtin.Directory
import LifecycleHooks.Shell.Builtin.Output
import LifecycleHooks.Shell.Builtin.Place
import LifecycleHooks.Shell.Builtin.Variables
import LifecycleHooks.Shell.Descriptors
import LifecycleHooks.Shell.Fields
import LifecycleHooks.Shell.Format
import LifecycleHooks.Shell.Grammar
import LifecycleHooks.Shell.Interpreter
import LifecycleHooks.Shell.Meaning
import LifecycleHooks.Shell.Numeral
import LifecycleHooks.Shell.Parameters
import LifecycleHooks.Shell.Pattern
import LifecycleHooks.Shell.Reader
import LifecycleHooks.Shell.Setting
import LifecycleHooks.Shell.Startup
import LifecycleHooks.Shell.State
import LifecycleHooks.SystemError
import LifecycleHooks.Text.Alphanumeric
import LifecycleHooks.Text.Blank
import LifecycleHooks.Text.Bytes
import LifecycleHooks.Text.CharacterClass
import LifecycleHooks.Text.Controls
import LifecycleHooks.Text.Identifier
import LifecycleHooks.Text.Lines
import LifecycleHooks.Text.Octets
import LifecycleHooks.Text.Quoted
import LifecycleHooks.Text.Ranges
import LifecycleHooks.Text.Unprintable
import LifecycleHooks.Tool.Account
import LifecycleHooks.Tool.Amount
import LifecycleHooks.Tool.Basic
import LifecycleHooks.Tool.Batches
import LifecycleHooks.Tool.Blocks
import LifecycleHooks.Tool.Characters
import LifecycleHooks.Tool.Columns
import LifecycleHooks.Tool.Comparing
import LifecycleHooks.Tool.Condition
import LifecycleHooks.Tool.Contents
import LifecycleHooks.Tool.Counting
import LifecycleHooks.Tool.Dates
import LifecycleHooks.Tool.Difference
import LifecycleHooks.Tool.Difference.Format
import LifecycleHooks.Tool.Difference.Script
import LifecycleHooks.Tool.Directory
import LifecycleHooks.Tool.Dumping
import LifecycleHooks.Tool.Editing
import LifecycleHooks.Tool.Editing.Script
import LifecycleHooks.Tool.Encoding
import LifecycleHooks.Tool.Ends
import LifecycleHooks.Tool.Finding
import LifecycleHooks.Tool.Folding
import LifecycleHooks.Tool.Formula
import LifecycleHooks.Tool.Lines
import LifecycleHooks.Tool.Listing
import LifecycleHooks.Tool.Mode
import LifecycleHooks.Tool.Naming
import LifecycleHooks.Tool.Options
import LifecycleHooks.Tool.Places
import LifecycleHooks.Tool.Printing
import LifecycleHooks.Tool.Records
import LifecycleHooks.Tool.Records.Reader
import LifecycleHooks.Tool.Records.Run
import LifecycleHooks.Tool.Records.Scanner
import LifecycleHooks.Tool.Records.State
import LifecycleHooks.Tool.Records.Syntax
import LifecycleHooks.Tool.Records.Texts
import LifecycleHooks.Tool.Records.Value
import LifecycleHooks.Tool.Relocation
import LifecycleHooks.Tool.Search
import LifecycleHooks.Tool.Sorting
import LifecycleHooks.Tool.Splitting
import LifecycleHooks.Tool.Starting
import LifecycleHooks.Tool.Sums
import LifecycleHooks.Tool.Versions
import LifecycleHooks.Warning
import LifecycleHooks.Watch.Relevance
import LifecycleHooks.Watch.Root
import LifecycleHooks.Watch.Watcher
import LifecycleHooks.Proofs.Hook.RoundTrip
import LifecycleHooks.Proofs.Json.RoundTrip
import LifecycleHooks.Proofs.Context
import LifecycleHooks.Proofs.FileTree.Leading
import LifecycleHooks.Proofs.Text.Octets
import LifecycleHooks.Proofs.Launch
import LifecycleHooks.Proofs.Settings.Spelling
import LifecycleHooks.Proofs.Settings.Cache
import LifecycleHooks.Proofs.CommandLine.ExitStatus
import LifecycleHooks.Proofs.Engine.Validity
import LifecycleHooks.Proofs.CommandLine.Listing
import LifecycleHooks.Proofs.Engine.Stopping
import LifecycleHooks.Proofs.Engine.Frame
import LifecycleHooks.Proofs.Launch.Environment
import LifecycleHooks.Proofs.Decision.Composition
import LifecycleHooks.Proofs.Registry.Disposal
import LifecycleHooks.Proofs.Loading.Accounts
import LifecycleHooks.Proofs.Path
import LifecycleHooks.Proofs.Watch.Relevance
import LifecycleHooks.Proofs.Path.Ancestors
import LifecycleHooks.Proofs.Path.Spelling
import LifecycleHooks.Proofs.Watch.AbsoluteTargets
import LifecycleHooks.Proofs.Bus.Subscribers
