import Backtick.CommandLine
import Backtick.Comment
import Backtick.Disk.Basic
import Backtick.Disk.Change
import Backtick.Disk.Error
import Backtick.Disk.Listing
import Backtick.Disk.Output
import Backtick.Double
import Backtick.Error
import Backtick.Fault
import Backtick.Formatter
import Backtick.Formatter.Scripted
import Backtick.Grammar
import Backtick.Grammar.Expression
import Backtick.Grammar.Markup
import Backtick.Grammar.Member
import Backtick.Grammar.Parser
import Backtick.Grammar.Rule
import Backtick.Grammar.Semicolon
import Backtick.Grammar.Source
import Backtick.Grammar.Statement
import Backtick.Grammar.Types
import Backtick.Lint
import Backtick.LintFile
import Backtick.Locate
import Backtick.Log
import Backtick.Log.Line
import Backtick.Log.Setup
import Backtick.Main
import Backtick.Number
import Backtick.Numeral
import Backtick.Options
import Backtick.Parse
import Backtick.Path
import Backtick.Process
import Backtick.Process.Handler
import Backtick.Region
import Backtick.Report
import Backtick.Settings
import Backtick.Settings.Entries
import Backtick.Settings.Issue
import Backtick.Settings.Load
import Backtick.Settings.Merge
import Backtick.Settings.Overlay
import Backtick.Shell.Filter
import Backtick.Shell.Printf
import Backtick.Shell.Programs
import Backtick.Shell.Run
import Backtick.Shell.Syntax
import Backtick.Shell.Utility
import Backtick.Splice
import Backtick.Text
import Backtick.Text.Blank
import Backtick.Text.LowerCase
import Backtick.Text.Printable
import Backtick.Text.Utf8
import Backtick.Transform
import Backtick.Tree
import Backtick.Value
import Backtick.Workspace
import Backtick.Yaml
import Backtick.Yaml.Base64
import Backtick.Yaml.Cursor
import Backtick.Yaml.Layout
import Backtick.Yaml.Meaning
import Backtick.Yaml.Node
import Backtick.Yaml.Property
import Backtick.Yaml.Scalar
import Backtick.Yaml.Tag
import Backtick.Yaml.Timestamp
import Backtick.Yaml.Token
import Backtick.Proofs.Transform.Job
import Backtick.Proofs.Transform.Trace
import Backtick.Proofs.Transform.Ledger
import Backtick.Proofs.Transform.Run
import Backtick.Proofs.Transform.Completion
import Backtick.Proofs.Transform.Failure
import Backtick.Proofs.Disk.Output
import Backtick.Proofs.LintFile
import Backtick.Proofs.Text.Offset
import Backtick.Proofs.Locate
import Backtick.Proofs.Splice.Bytes
import Backtick.Proofs.Disk.Walk
import Backtick.Proofs.Lint
import Backtick.Proofs.LintFile.Bytes
import Backtick.Proofs.Transform.Concurrency
import Backtick.Proofs.Splice.Accept
import Backtick.Proofs.Splice.Located
import Backtick.Proofs.DistinctKeys
import Backtick.Proofs.Alike
import Backtick.Proofs.Outcome
import Backtick.Proofs.Yaml.DistinctKeys
import Backtick.Proofs.Settings.Merge
import Backtick.Proofs.Settings.Field
import Backtick.Proofs.Settings.Precedence
import Backtick.Proofs.Disk.Faults
import Backtick.Proofs.LintFile.Escapes
import Backtick.Proofs.Locate.Outermost
import Backtick.Proofs.Comment
import Backtick.Proofs.Splice.Backwards
import Backtick.Proofs.Splice.Undo
import Backtick.Proofs.Text.Reader
import Backtick.Proofs.Disk.Atomic
import Backtick.Proofs.Transform.Queue
import Backtick.Proofs.Transform.Calls
import Backtick.Proofs.Transform.Cause
import Backtick.Proofs.Settings.MergeLaws
import Backtick.Proofs.Settings.Coercion
import Backtick.Proofs.Settings.Environment
import Backtick.Proofs.Settings.Reading
import Backtick.Proofs.Settings.TextField
import Backtick.Proofs.Locate.Narrow
import Backtick.Proofs.Locate.Widen
import Backtick.Proofs.Parse
import Backtick.Proofs.Log
import Backtick.Proofs.LintFile.Beside
import Backtick.Proofs.Tree.Walk
import Backtick.Proofs.Process.Handler
import Backtick.Proofs.Process.Course
import Backtick.Proofs.Transform.Ended
import Backtick.Proofs.Transform.Process
