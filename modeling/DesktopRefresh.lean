import DesktopRefresh.Boundary
import DesktopRefresh.Bytes
import DesktopRefresh.CommandLine.Help
import DesktopRefresh.CommandLine.Message
import DesktopRefresh.CommandLine.Parser
import DesktopRefresh.CommandLine.Token
import DesktopRefresh.Decision
import DesktopRefresh.Duration
import DesktopRefresh.Execution
import DesktopRefresh.Hook
import DesktopRefresh.Host
import DesktopRefresh.Host.Catalogue
import DesktopRefresh.Host.FileTree
import DesktopRefresh.Host.Files
import DesktopRefresh.Host.Process
import DesktopRefresh.Host.Search
import DesktopRefresh.Invocation
import DesktopRefresh.Kernel.Call
import DesktopRefresh.Kernel.Machine
import DesktopRefresh.Kernel.Signal
import DesktopRefresh.Log.Directive
import DesktopRefresh.Log.Filter
import DesktopRefresh.Log.Level
import DesktopRefresh.Log.Pattern
import DesktopRefresh.Manual.Build
import DesktopRefresh.Manual.Page
import DesktopRefresh.Manual.Roff
import DesktopRefresh.Number
import DesktopRefresh.Path
import DesktopRefresh.Program
import DesktopRefresh.Proofs.CommandLine.Acceptance
import DesktopRefresh.Proofs.CommandLine.Grammar
import DesktopRefresh.Proofs.CommandLine.Groups
import DesktopRefresh.Proofs.CommandLine.Insertion
import DesktopRefresh.Proofs.CommandLine.Reading
import DesktopRefresh.Proofs.CommandLine.Recognition
import DesktopRefresh.Proofs.CommandLine.Rejection
import DesktopRefresh.Proofs.CommandLine.Timeout
import DesktopRefresh.Proofs.CommandLine.Token
import DesktopRefresh.Proofs.CommandLine.Writing
import DesktopRefresh.Proofs.Decimal
import DesktopRefresh.Proofs.Decoding
import DesktopRefresh.Proofs.Execution
import DesktopRefresh.Proofs.Execution.Coherence
import DesktopRefresh.Proofs.Execution.Composition
import DesktopRefresh.Proofs.Execution.Forwarding
import DesktopRefresh.Proofs.Execution.Isolation
import DesktopRefresh.Proofs.Execution.Preview
import DesktopRefresh.Proofs.Execution.Turn
import DesktopRefresh.Proofs.Hook
import DesktopRefresh.Proofs.Host.Search
import DesktopRefresh.Proofs.Invocation
import DesktopRefresh.Proofs.Log
import DesktopRefresh.Proofs.Program
import DesktopRefresh.Proofs.Program.Ending
import DesktopRefresh.Proofs.Program.Silence
import DesktopRefresh.Proofs.Program.SoleArgument
import DesktopRefresh.Proofs.Supervision
import DesktopRefresh.Proofs.System
import DesktopRefresh.Proofs.Text
import DesktopRefresh.Proofs.Text.Quoted
import DesktopRefresh.Proofs.Trace
import DesktopRefresh.Proofs.Trigger
import DesktopRefresh.Record
import DesktopRefresh.Results
import DesktopRefresh.Runner
import DesktopRefresh.Runner.Scripted
import DesktopRefresh.Shell.Arithmetic
import DesktopRefresh.Shell.Builtin
import DesktopRefresh.Shell.Builtin.Arguments
import DesktopRefresh.Shell.Builtin.Directory
import DesktopRefresh.Shell.Builtin.Job
import DesktopRefresh.Shell.Builtin.Output
import DesktopRefresh.Shell.Builtin.Variable
import DesktopRefresh.Shell.Command
import DesktopRefresh.Shell.Condition
import DesktopRefresh.Shell.Evaluation
import DesktopRefresh.Shell.Expansion
import DesktopRefresh.Shell.Format
import DesktopRefresh.Shell.Lexer
import DesktopRefresh.Shell.Lookup
import DesktopRefresh.Shell.Parser
import DesktopRefresh.Shell.Pattern
import DesktopRefresh.Shell.Redirection
import DesktopRefresh.Shell.State
import DesktopRefresh.Shell.Token
import DesktopRefresh.Supervision
import DesktopRefresh.System
import DesktopRefresh.SystemError
import DesktopRefresh.Text.Alphanumeric
import DesktopRefresh.Text.Blank
import DesktopRefresh.Text.CharacterClass
import DesktopRefresh.Text.Control
import DesktopRefresh.Text.Decimal
import DesktopRefresh.Text.Digest
import DesktopRefresh.Text.Extending
import DesktopRefresh.Text.Floating
import DesktopRefresh.Text.Floating.Arithmetic
import DesktopRefresh.Text.Line
import DesktopRefresh.Text.Printable
import DesktopRefresh.Text.Quoted
import DesktopRefresh.Text.Range
import DesktopRefresh.Text.Regular
import DesktopRefresh.Text.Regular.Parser
import DesktopRefresh.Text.Similarity
import DesktopRefresh.Text.Terminal
import DesktopRefresh.Text.Utf8
import DesktopRefresh.Tool
import DesktopRefresh.Trace
import DesktopRefresh.Trigger
import DesktopRefresh.Utility
import DesktopRefresh.Utility.Awk
import DesktopRefresh.Utility.Awk.Evaluation
import DesktopRefresh.Utility.Awk.Lexer
import DesktopRefresh.Utility.Awk.Parser
import DesktopRefresh.Utility.Awk.Program
import DesktopRefresh.Utility.Awk.Value
import DesktopRefresh.Utility.Awk.World
import DesktopRefresh.Utility.Basic
import DesktopRefresh.Utility.Blocks
import DesktopRefresh.Utility.Characters
import DesktopRefresh.Utility.Checksum
import DesktopRefresh.Utility.Comparison
import DesktopRefresh.Utility.Concatenation
import DesktopRefresh.Utility.Condition
import DesktopRefresh.Utility.Directory
import DesktopRefresh.Utility.Edit
import DesktopRefresh.Utility.Edit.Parser
import DesktopRefresh.Utility.Edit.Script
import DesktopRefresh.Utility.Encoding
import DesktopRefresh.Utility.Excerpt
import DesktopRefresh.Utility.Expression
import DesktopRefresh.Utility.Finding
import DesktopRefresh.Utility.Finding.Expression
import DesktopRefresh.Utility.Identity
import DesktopRefresh.Utility.Launching
import DesktopRefresh.Utility.Listing
import DesktopRefresh.Utility.Mode
import DesktopRefresh.Utility.Naming
import DesktopRefresh.Utility.Order
import DesktopRefresh.Utility.Output
import DesktopRefresh.Utility.Search
import DesktopRefresh.Utility.Status
import DesktopRefresh.Utility.Tabs
import DesktopRefresh.Utility.Transfer
import DesktopRefresh.Utility.Usage
