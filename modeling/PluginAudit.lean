import PluginAudit.Analysis.Basic
import PluginAudit.Analysis.Session
import PluginAudit.Calendar
import PluginAudit.Command.Catalog
import PluginAudit.Command.Option
import PluginAudit.Command.Run
import PluginAudit.Command.Usage
import PluginAudit.Conflict.Basic
import PluginAudit.Conflict.Detect
import PluginAudit.Conflict.Gate
import PluginAudit.Conflict.Index
import PluginAudit.Console.Handler
import PluginAudit.Console.Handler.Expr
import PluginAudit.Console.Handler.Grammar
import PluginAudit.Console.Handler.Literal
import PluginAudit.Console.Handler.Match
import PluginAudit.Console.Handler.Text
import PluginAudit.Console.Handler.Token
import PluginAudit.Console.Handler.Trouble
import PluginAudit.Console.Layout
import PluginAudit.Console.Marked
import PluginAudit.Console.Markup
import PluginAudit.Console.Sequence
import PluginAudit.Console.Style
import PluginAudit.Console.Table
import PluginAudit.Dependency.Basic
import PluginAudit.Dependency.Check
import PluginAudit.Dependency.Graph
import PluginAudit.Dependency.Search
import PluginAudit.Failure
import PluginAudit.Files.Disk
import PluginAudit.Files.Fault
import PluginAudit.Files.Path
import PluginAudit.Files.Utf8
import PluginAudit.Json.Printer
import PluginAudit.Json.Reader
import PluginAudit.Log.Event
import PluginAudit.Log.Logged
import PluginAudit.Log.Record
import PluginAudit.Log.Sink
import PluginAudit.Main
import PluginAudit.Number.Binary64
import PluginAudit.Number.Exact
import PluginAudit.Number.Reader
import PluginAudit.Number.Render
import PluginAudit.Number.Shortest
import PluginAudit.Plugin
import PluginAudit.Popularity.Corpus
import PluginAudit.Popularity.Index
import PluginAudit.Popularity.Load
import PluginAudit.Popularity.Remark
import PluginAudit.Progress
import PluginAudit.Project.LoadOrder
import PluginAudit.Project.Scan
import PluginAudit.Register
import PluginAudit.Report.Document
import PluginAudit.Report.Tables
import PluginAudit.Report.Template
import PluginAudit.Report.Template.Doc
import PluginAudit.Report.Template.Fault
import PluginAudit.Report.Template.Field
import PluginAudit.Report.Template.Filling
import PluginAudit.Report.Template.Kind
import PluginAudit.Report.Template.Layout
import PluginAudit.Report.Template.Member
import PluginAudit.Script.Annotation
import PluginAudit.Script.Blanking
import PluginAudit.Script.Header
import PluginAudit.Script.Override
import PluginAudit.Script.Signature
import PluginAudit.Settings.Basic
import PluginAudit.Settings.Files
import PluginAudit.Text.Base64
import PluginAudit.Text.Blank
import PluginAudit.Text.Case
import PluginAudit.Text.Cased
import PluginAudit.Text.CharacterName
import PluginAudit.Text.Digit
import PluginAudit.Text.Distinct
import PluginAudit.Text.Finder
import PluginAudit.Text.Fold
import PluginAudit.Text.Identifier
import PluginAudit.Text.Pieces
import PluginAudit.Text.Printable
import PluginAudit.Text.Quoted
import PluginAudit.Text.Ranges
import PluginAudit.Text.Similar
import PluginAudit.Text.Width
import PluginAudit.Text.Word
import PluginAudit.Value.Basic
import PluginAudit.Value.Checked
import PluginAudit.Value.DataFault
import PluginAudit.Value.Naming
import PluginAudit.Value.SetOrder
import PluginAudit.Value.Text
import PluginAudit.Yaml.Block
import PluginAudit.Yaml.Cursor
import PluginAudit.Yaml.Fault
import PluginAudit.Yaml.Graph
import PluginAudit.Yaml.Node
import PluginAudit.Yaml.Printer
import PluginAudit.Yaml.Property
import PluginAudit.Yaml.Quoted
import PluginAudit.Yaml.Reader
import PluginAudit.Yaml.Scalar
import PluginAudit.Yaml.Tag
import PluginAudit.Yaml.Timestamp
import PluginAudit.Yaml.Token
import PluginAudit.Yaml.Tree
import PluginAudit.Proofs.Conflict.Gate
import PluginAudit.Proofs.Conflict.Index
import PluginAudit.Proofs.Conflict.Reordering
import PluginAudit.Proofs.Conflict.Report
import PluginAudit.Proofs.Dependency.Cycles
import PluginAudit.Proofs.Dependency.Graph
import PluginAudit.Proofs.Dependency.Health
import PluginAudit.Proofs.Dependency.Lineage
import PluginAudit.Proofs.Dependency.Roots
import PluginAudit.Proofs.Dependency.Rounds
import PluginAudit.Proofs.Dependency.Search
import PluginAudit.Proofs.Dependency.Stack
import PluginAudit.Proofs.Json.Integers
import PluginAudit.Proofs.Json.RoundTrip
import PluginAudit.Proofs.Json.Strings
import PluginAudit.Proofs.Popularity.Corpus
import PluginAudit.Proofs.Project.ArrayEnd
import PluginAudit.Proofs.Project.Completion
import PluginAudit.Proofs.Project.LoadOrder
import PluginAudit.Proofs.Reading
import PluginAudit.Proofs.Register
import PluginAudit.Proofs.Script.Blanking
import PluginAudit.Proofs.Script.Chain
import PluginAudit.Proofs.Script.Direct
import PluginAudit.Proofs.Script.Idempotence
import PluginAudit.Proofs.Script.Immunity
import PluginAudit.Proofs.Script.Lexer
import PluginAudit.Proofs.Script.Respacing
import PluginAudit.Proofs.Script.Seam
import PluginAudit.Proofs.Script.Search
import PluginAudit.Proofs.Popularity.Feedback
import PluginAudit.Proofs.Analysis.Session
import PluginAudit.Proofs.Analysis.Reading
import PluginAudit.Proofs.Report.Lossless
import PluginAudit.Proofs.Value.Writable
import PluginAudit.Proofs.Log.Noted
import PluginAudit.Proofs.Settings.Updating
import PluginAudit.Proofs.Settings.Precedence
import PluginAudit.Proofs.Files.Writing
import PluginAudit.Proofs.Command.Terminal
import PluginAudit.Proofs.Command.Import
import PluginAudit.Proofs.Command.Options
import PluginAudit.Proofs.Number.Magnitude
import PluginAudit.Proofs.Console.Tint
import PluginAudit.Proofs.Progress
import PluginAudit.Proofs.Project.Pace
import PluginAudit.Proofs.Analysis.Verbose
import PluginAudit.Proofs.Script.Alias
import PluginAudit.Proofs.Script.Concatenation
import PluginAudit.Proofs.Script.Provenance
import PluginAudit.Proofs.Project.Ordering
import PluginAudit.Proofs.Project.Absence
import PluginAudit.Proofs.Popularity.Ranking
import PluginAudit.Proofs.Script.Annotation
import PluginAudit.Proofs.Value.LineEnds
import PluginAudit.Proofs.Settings.Saving
import PluginAudit.Proofs.Files.Reading
import PluginAudit.Proofs.Settings.Loading
import PluginAudit.Proofs.Text.Sorting
import PluginAudit.Proofs.Conflict.Outcome
import PluginAudit.Proofs.Dependency.Forest
import PluginAudit.Proofs.Script.CommentEnd
