import StoryLint.CommandLine.Arguments
import StoryLint.CommandLine.Parse
import StoryLint.CommandLine.Switch
import StoryLint.Config
import StoryLint.Defect.Basic
import StoryLint.Defect.Kind
import StoryLint.Diagnostic.Basic
import StoryLint.Diagnostic.Emission
import StoryLint.Diagnostic.Layout
import StoryLint.Diagnostic.Snippet
import StoryLint.Dump.Error
import StoryLint.Dump.Load
import StoryLint.Dump.Reader
import StoryLint.Fields
import StoryLint.Files.Path
import StoryLint.Files.Tree
import StoryLint.Host
import StoryLint.Issue.Basic
import StoryLint.Issue.Classify
import StoryLint.Issue.Order
import StoryLint.Issue.Report
import StoryLint.Json.Basic
import StoryLint.Json.Parser
import StoryLint.Link
import StoryLint.Lint
import StoryLint.Log
import StoryLint.Main
import StoryLint.Number.Binary64
import StoryLint.Number.Integer
import StoryLint.Number.Rounding
import StoryLint.Number.Shortest
import StoryLint.Order.Merge
import StoryLint.Order.MergeSort
import StoryLint.Order.Run
import StoryLint.Order.Search
import StoryLint.Program
import StoryLint.Run
import StoryLint.Similarity
import StoryLint.Source.CodeMap
import StoryLint.Source.CodeTables
import StoryLint.Source.Context
import StoryLint.Source.Position
import StoryLint.Source.StoryFiles
import StoryLint.Story
import StoryLint.Terminal.ColorChoice
import StoryLint.Terminal.Device
import StoryLint.Terminal.Sink
import StoryLint.Terminal.Style
import StoryLint.Text.Blank
import StoryLint.Text.Digit
import StoryLint.Text.Grapheme.Cluster
import StoryLint.Text.Grapheme.Property
import StoryLint.Text.Printable
import StoryLint.Text.Quoted
import StoryLint.Text.Range
import StoryLint.Text.Search
import StoryLint.Text.Utf8
import StoryLint.Proofs.Diagnostic.Attribution
import StoryLint.Proofs.Diagnostic.Color
import StoryLint.Proofs.Diagnostic.Emission
import StoryLint.Proofs.Diagnostic.Gutter
import StoryLint.Proofs.Diagnostic.Labels
import StoryLint.Proofs.Diagnostic.Location
import StoryLint.Proofs.Diagnostic.Page
import StoryLint.Proofs.Diagnostic.ShownLine
import StoryLint.Proofs.Diagnostic.Underline
import StoryLint.Proofs.Dump.Contexts
import StoryLint.Proofs.Dump.Faults
import StoryLint.Proofs.Dump.FirstFault
import StoryLint.Proofs.Dump.Format
import StoryLint.Proofs.Dump.Load
import StoryLint.Proofs.Dump.Statement
import StoryLint.Proofs.Dump.Texts
import StoryLint.Proofs.Except
import StoryLint.Proofs.Fields
import StoryLint.Proofs.Issue.Order
import StoryLint.Proofs.Issue.Policy
import StoryLint.Proofs.Issue.Position
import StoryLint.Proofs.Issue.Report
import StoryLint.Proofs.Issue.Suggestion
import StoryLint.Proofs.Issue.UnknownNames
import StoryLint.Proofs.Json.Shown
import StoryLint.Proofs.Link.Deletion
import StoryLint.Proofs.Link.Repair
import StoryLint.Proofs.Lint.Calls
import StoryLint.Proofs.Lint.Color
import StoryLint.Proofs.Lint.Forms
import StoryLint.Proofs.Lint.Labels
import StoryLint.Proofs.Lint.Lines
import StoryLint.Proofs.Lint.Report
import StoryLint.Proofs.Lint.Verdict
import StoryLint.Proofs.Order.Arrangement
import StoryLint.Proofs.Order.FirstOccurrence
import StoryLint.Proofs.Order.Key
import StoryLint.Proofs.Order.Merging
import StoryLint.Proofs.Order.Search
import StoryLint.Proofs.Order.Sorting
import StoryLint.Proofs.Program.Isolation
import StoryLint.Proofs.Run.Capacity
import StoryLint.Proofs.Run.Loading
import StoryLint.Proofs.Run.Status
import StoryLint.Proofs.Run.Step
import StoryLint.Proofs.Run.Stream
import StoryLint.Proofs.Source.CodeMap
import StoryLint.Proofs.Source.CodeTables
import StoryLint.Proofs.Source.Line
import StoryLint.Proofs.Source.Offset
import StoryLint.Proofs.Source.Ranges
import StoryLint.Proofs.Terminal.Device
import StoryLint.Proofs.Terminal.Escape
import StoryLint.Proofs.Terminal.Sink
import StoryLint.Proofs.Text.Blank
import StoryLint.Proofs.Text.Digits
import StoryLint.Proofs.Text.Lines
import StoryLint.Proofs.Text.Search
import StoryLint.Proofs.Text.Utf8
