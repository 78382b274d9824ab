import ReleasePreview.Awk.Command
import ReleasePreview.Awk.Machine
import ReleasePreview.Awk.Parse
import ReleasePreview.Awk.Program
import ReleasePreview.Awk.Run
import ReleasePreview.Awk.Stream
import ReleasePreview.Awk.Table
import ReleasePreview.Awk.Token
import ReleasePreview.Awk.Value
import ReleasePreview.Backend.Error
import ReleasePreview.CommandLine.Arguments
import ReleasePreview.CommandLine.Failure
import ReleasePreview.CommandLine.Invocation
import ReleasePreview.CommandLine.Run
import ReleasePreview.Compiler.Basic
import ReleasePreview.Compiler.Command
import ReleasePreview.ContentDiff.Basic
import ReleasePreview.ContentDiff.Compare
import ReleasePreview.ContentDiff.Json
import ReleasePreview.Decimal.Natural
import ReleasePreview.Decimal.Shortest
import ReleasePreview.Docs.Basic
import ReleasePreview.Docs.Json
import ReleasePreview.Files.Access
import ReleasePreview.Files.Error
import ReleasePreview.Files.Path
import ReleasePreview.Files.Tree
import ReleasePreview.Format.Conversion
import ReleasePreview.Format.Floating
import ReleasePreview.Format.Print
import ReleasePreview.Http.Address
import ReleasePreview.Http.DomainName
import ReleasePreview.Http.NameMapping
import ReleasePreview.Http.NameRanges
import ReleasePreview.Http.Reply
import ReleasePreview.Http.Url
import ReleasePreview.Json.Decode
import ReleasePreview.Json.Document
import ReleasePreview.Json.Numeral
import ReleasePreview.Json.Record
import ReleasePreview.Json.Render
import ReleasePreview.Json.Token
import ReleasePreview.Json.Value
import ReleasePreview.LineDiff.Alignment
import ReleasePreview.LineDiff.Basic
import ReleasePreview.LineDiff.Compaction
import ReleasePreview.LineDiff.Frontier
import ReleasePreview.LineDiff.Script
import ReleasePreview.Logging
import ReleasePreview.Main
import ReleasePreview.NameMap
import ReleasePreview.Package.Json
import ReleasePreview.Package.Name
import ReleasePreview.Package.Releases
import ReleasePreview.Package.Version
import ReleasePreview.Preview.Build
import ReleasePreview.Preview.Error
import ReleasePreview.Preview.Json
import ReleasePreview.Preview.Update
import ReleasePreview.Process.Program
import ReleasePreview.Process.Schedule
import ReleasePreview.Process.World
import ReleasePreview.Project.Json
import ReleasePreview.Project.Manifest
import ReleasePreview.Project.Open
import ReleasePreview.Proofs.Awk.Places
import ReleasePreview.Proofs.Awk.Table
import ReleasePreview.Proofs.CommandLine.Arguments
import ReleasePreview.Proofs.CommandLine.Replies
import ReleasePreview.Proofs.Compiler.Messages
import ReleasePreview.Proofs.Compiler.Stages
import ReleasePreview.Proofs.ContentDiff.Annotation
import ReleasePreview.Proofs.ContentDiff.Order
import ReleasePreview.Proofs.ContentDiff.Reference
import ReleasePreview.Proofs.ContentDiff.Scope
import ReleasePreview.Proofs.Decimal.Natural
import ReleasePreview.Proofs.Docs.Acceptance
import ReleasePreview.Proofs.Files.Canonical
import ReleasePreview.Proofs.Files.Lexical
import ReleasePreview.Proofs.Files.Path
import ReleasePreview.Proofs.Files.Removal
import ReleasePreview.Proofs.Json.Acceptance
import ReleasePreview.Proofs.Json.Complete
import ReleasePreview.Proofs.Json.Decoding
import ReleasePreview.Proofs.Json.Lexing
import ReleasePreview.Proofs.Json.Members
import ReleasePreview.Proofs.Json.Reading
import ReleasePreview.Proofs.Json.Tolerance
import ReleasePreview.Proofs.Json.Whole
import ReleasePreview.Proofs.LineDiff.Alignment
import ReleasePreview.Proofs.LineDiff.Classification
import ReleasePreview.Proofs.LineDiff.Compaction
import ReleasePreview.Proofs.LineDiff.Differences
import ReleasePreview.Proofs.LineDiff.Distance
import ReleasePreview.Proofs.LineDiff.Frontier
import ReleasePreview.Proofs.LineDiff.Grid
import ReleasePreview.Proofs.LineDiff.Lossless
import ReleasePreview.Proofs.LineDiff.Regions
import ReleasePreview.Proofs.LineDiff.Split
import ReleasePreview.Proofs.NameMap
import ReleasePreview.Proofs.Package.Name
import ReleasePreview.Proofs.Package.Releases
import ReleasePreview.Proofs.Package.Version
import ReleasePreview.Proofs.Preview.Interleaving
import ReleasePreview.Proofs.Preview.Outcome
import ReleasePreview.Proofs.Preview.WireFormat
import ReleasePreview.Proofs.Preview.Worker
import ReleasePreview.Proofs.Process.Schedule
import ReleasePreview.Proofs.Process.World
import ReleasePreview.Proofs.Project.Discovery
import ReleasePreview.Proofs.Project.Manifest
import ReleasePreview.Proofs.Regex.Ends
import ReleasePreview.Proofs.Regex.Parse
import ReleasePreview.Proofs.Regex.Search
import ReleasePreview.Proofs.Report.Completeness
import ReleasePreview.Proofs.Report.Grammar
import ReleasePreview.Proofs.Report.Layout
import ReleasePreview.Proofs.Report.Padding
import ReleasePreview.Proofs.Report.Reading
import ReleasePreview.Proofs.Report.Records
import ReleasePreview.Proofs.Report.Replay
import ReleasePreview.Proofs.Report.Truncation
import ReleasePreview.Proofs.Report.WellFormed
import ReleasePreview.Proofs.Returns
import ReleasePreview.Proofs.Shell.Arithmetic
import ReleasePreview.Proofs.Shell.System
import ReleasePreview.Proofs.Source.CacheListing
import ReleasePreview.Proofs.Source.CachePaths
import ReleasePreview.Proofs.Source.Fallback
import ReleasePreview.Proofs.Source.History
import ReleasePreview.Proofs.Source.Requests
import ReleasePreview.Proofs.Text.Blank
import ReleasePreview.Proofs.Text.Lines
import ReleasePreview.Proofs.Text.Pattern
import ReleasePreview.Proofs.Text.Split
import ReleasePreview.Proofs.Text.Utf8
import ReleasePreview.Proofs.Tools.Sorting
import ReleasePreview.Regex.Expression
import ReleasePreview.Regex.Parse
import ReleasePreview.Report.Basic
import ReleasePreview.Report.Json
import ReleasePreview.Report.Line
import ReleasePreview.Report.Scan
import ReleasePreview.Settings
import ReleasePreview.Shell.Arithmetic
import ReleasePreview.Shell.Builtin.Lookup
import ReleasePreview.Shell.Builtin.Options
import ReleasePreview.Shell.Builtin.Places
import ReleasePreview.Shell.Builtin.Signals
import ReleasePreview.Shell.Builtin.Variables
import ReleasePreview.Shell.Command
import ReleasePreview.Shell.Condition
import ReleasePreview.Shell.Eval
import ReleasePreview.Shell.Expand
import ReleasePreview.Shell.Field
import ReleasePreview.Shell.Image
import ReleasePreview.Shell.Main
import ReleasePreview.Shell.Parse
import ReleasePreview.Shell.Redirection
import ReleasePreview.Shell.State
import ReleasePreview.Shell.System
import ReleasePreview.Shell.Token
import ReleasePreview.Source.Baseline
import ReleasePreview.Source.Basic
import ReleasePreview.Source.Cache
import ReleasePreview.Source.Registry
import ReleasePreview.Source.Scripted
import ReleasePreview.Source.Site
import ReleasePreview.Source.Summary
import ReleasePreview.StreamEditor.Command
import ReleasePreview.StreamEditor.Run
import ReleasePreview.StreamEditor.Script
import ReleasePreview.Text.Blank
import ReleasePreview.Text.CharacterTable
import ReleasePreview.Text.Composition
import ReleasePreview.Text.Decomposition
import ReleasePreview.Text.Pattern
import ReleasePreview.Text.Split
import ReleasePreview.Text.Unprintable
import ReleasePreview.Text.Utf8
import ReleasePreview.Tools.Basic
import ReleasePreview.Tools.Blocks
import ReleasePreview.Tools.Calculating
import ReleasePreview.Tools.Calendar
import ReleasePreview.Tools.Characters
import ReleasePreview.Tools.Columns
import ReleasePreview.Tools.Comparing
import ReleasePreview.Tools.Copying
import ReleasePreview.Tools.Dumping
import ReleasePreview.Tools.Finding
import ReleasePreview.Tools.Listing
import ReleasePreview.Tools.Names
import ReleasePreview.Tools.Nodes
import ReleasePreview.Tools.Pieces
import ReleasePreview.Tools.Running
import ReleasePreview.Tools.Searching
import ReleasePreview.Tools.Sorting
