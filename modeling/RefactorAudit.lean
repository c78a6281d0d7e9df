import RefactorAudit.Audit.Corpus
import RefactorAudit.Audit.Diff
import RefactorAudit.Audit.Findings
import RefactorAudit.Audit.Project
import RefactorAudit.Audit.Report
import RefactorAudit.Audit.Summary
import RefactorAudit.Collection.Ascending
import RefactorAudit.Collection.Table
import RefactorAudit.CommandLine.Arguments
import RefactorAudit.CommandLine.Command
import RefactorAudit.CommandLine.Run
import RefactorAudit.Config
import RefactorAudit.Config.Discovery
import RefactorAudit.Coverage.Attribution
import RefactorAudit.Coverage.Cobertura
import RefactorAudit.Coverage.FileCoverage
import RefactorAudit.Coverage.Index
import RefactorAudit.Coverage.JsonReport
import RefactorAudit.Coverage.Markup
import RefactorAudit.Coverage.Reading
import RefactorAudit.Coverage.Resolution
import RefactorAudit.Coverage.Tracefile
import RefactorAudit.Decimal.Binary
import RefactorAudit.Decimal.Layout
import RefactorAudit.Decimal.Nearest
import RefactorAudit.Decimal.Shortest
import RefactorAudit.Fault
import RefactorAudit.Figure
import RefactorAudit.FileTree
import RefactorAudit.FileTree.Exclusion
import RefactorAudit.FileTree.Ignore
import RefactorAudit.FileTree.IgnoreRule
import RefactorAudit.FileTree.Loading
import RefactorAudit.FileTree.Walk
import RefactorAudit.FileTree.Wildcard
import RefactorAudit.Grammar.Automaton
import RefactorAudit.Grammar.Confusion
import RefactorAudit.Grammar.Draft
import RefactorAudit.Grammar.Item
import RefactorAudit.Grammar.Merging
import RefactorAudit.Grammar.Pattern
import RefactorAudit.Grammar.Rule
import RefactorAudit.Grammar.Scanner
import RefactorAudit.Json.Printer
import RefactorAudit.Json.Reader
import RefactorAudit.Json.Shape
import RefactorAudit.Json.Value
import RefactorAudit.Main
import RefactorAudit.Path
import RefactorAudit.Path.Hierarchy
import RefactorAudit.Proofs.Audit.Completeness
import RefactorAudit.Proofs.Audit.CoverageIndependence
import RefactorAudit.Proofs.Audit.Difference
import RefactorAudit.Proofs.Audit.Findings
import RefactorAudit.Proofs.Audit.Isolation
import RefactorAudit.Proofs.Audit.ListedMethods
import RefactorAudit.Proofs.Audit.Mention
import RefactorAudit.Proofs.Audit.MethodTable
import RefactorAudit.Proofs.Audit.MissingTests
import RefactorAudit.Proofs.Audit.ShownComplexity
import RefactorAudit.Proofs.Collection.Canonical
import RefactorAudit.Proofs.Collection.Selection
import RefactorAudit.Proofs.Config.Discovery
import RefactorAudit.Proofs.Config.Sections
import RefactorAudit.Proofs.Config.UsableWeights
import RefactorAudit.Proofs.Coverage.Agreement
import RefactorAudit.Proofs.Coverage.Attribution
import RefactorAudit.Proofs.Coverage.CoberturaElements
import RefactorAudit.Proofs.Coverage.CoberturaSections
import RefactorAudit.Proofs.Coverage.Consistency
import RefactorAudit.Proofs.Coverage.Documents
import RefactorAudit.Proofs.Coverage.Elements
import RefactorAudit.Proofs.Coverage.Entities
import RefactorAudit.Proofs.Coverage.EntityReading
import RefactorAudit.Proofs.Coverage.JsonEntries
import RefactorAudit.Proofs.Coverage.JsonSections
import RefactorAudit.Proofs.Coverage.Resolution
import RefactorAudit.Proofs.Coverage.Sections
import RefactorAudit.Proofs.Coverage.TracefileSections
import RefactorAudit.Proofs.Figure.Exact
import RefactorAudit.Proofs.Figure.Methods
import RefactorAudit.Proofs.FileTree.Walk
import RefactorAudit.Proofs.Json.Ordered
import RefactorAudit.Proofs.Json.Reading
import RefactorAudit.Proofs.Json.Spelling
import RefactorAudit.Proofs.Json.Token
import RefactorAudit.Proofs.Outcome
import RefactorAudit.Proofs.Path.Joining
import RefactorAudit.Proofs.Path.Parts
import RefactorAudit.Proofs.Python.Complexity
import RefactorAudit.Proofs.Python.FirstFault
import RefactorAudit.Proofs.Python.Lines
import RefactorAudit.Proofs.Python.Occurrences
import RefactorAudit.Proofs.Python.Outermost
import RefactorAudit.Proofs.Python.Recording
import RefactorAudit.Proofs.Report.CanonicalPath
import RefactorAudit.Proofs.Report.Conservation
import RefactorAudit.Proofs.Report.LastWriter
import RefactorAudit.Proofs.Report.ListedFindings
import RefactorAudit.Proofs.Report.PriorReport
import RefactorAudit.Proofs.Report.Reading
import RefactorAudit.Proofs.Severity.AuditFigures
import RefactorAudit.Proofs.Severity.Monotone
import RefactorAudit.Proofs.Severity.Place
import RefactorAudit.Proofs.Severity.Ranking
import RefactorAudit.Proofs.Terminal.Grid
import RefactorAudit.Proofs.Text.Blank
import RefactorAudit.Proofs.Text.ByteOrder
import RefactorAudit.Proofs.Text.Digits
import RefactorAudit.Proofs.Text.Run
import RefactorAudit.Python.Complexity
import RefactorAudit.Python.Extract
import RefactorAudit.Python.Grammar
import RefactorAudit.Python.Layout
import RefactorAudit.Python.Lexer
import RefactorAudit.Python.Reading.Node
import RefactorAudit.Python.Reading.Reader
import RefactorAudit.Python.Reading.Stack
import RefactorAudit.Python.Spelling
import RefactorAudit.Python.SyntaxTree
import RefactorAudit.Report.Merge
import RefactorAudit.Report.Normalizer
import RefactorAudit.Report.Source
import RefactorAudit.Severity.Ranking
import RefactorAudit.Severity.Score
import RefactorAudit.Severity.Weights
import RefactorAudit.Snapshot
import RefactorAudit.Snapshot.Document
import RefactorAudit.Terminal.Characters
import RefactorAudit.Terminal.Grid
import RefactorAudit.Terminal.Style
import RefactorAudit.Terminal.Width
import RefactorAudit.Text.Blank
import RefactorAudit.Text.Identifier
import RefactorAudit.Text.Natural
import RefactorAudit.Text.Position
import RefactorAudit.Text.Quoted
import RefactorAudit.Text.Ranges
import RefactorAudit.Text.WordCharacter
import RefactorAudit.Toml.Document
import RefactorAudit.Toml.Scalar
import RefactorAudit.Toml.Statement
import RefactorAudit.Toml.Token
import RefactorAudit.Warning
