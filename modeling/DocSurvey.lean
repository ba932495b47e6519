import DocSurvey.ApiDocs
import DocSurvey.CommandLine.Arguments
import DocSurvey.CommandLine.Colours
import DocSurvey.CommandLine.LogFilter
import DocSurvey.CommandLine.Program
import DocSurvey.Config.Load
import DocSurvey.Config.Settings
import DocSurvey.Config.Validation
import DocSurvey.Coverage.Dashboard
import DocSurvey.Coverage.Issue
import DocSurvey.Coverage.Report
import DocSurvey.Coverage.Score
import DocSurvey.Coverage.Stats
import DocSurvey.Coverage.Summary
import DocSurvey.Coverage.Survey
import DocSurvey.Data.Error
import DocSurvey.Data.JsonReader
import DocSurvey.Data.Ordered
import DocSurvey.Data.Schema
import DocSurvey.Declarations.Counts
import DocSurvey.Declarations.Language
import DocSurvey.Declarations.Pattern
import DocSurvey.Declarations.Script
import DocSurvey.Declarations.Survey
import DocSurvey.Files.Output
import DocSurvey.Files.Path
import DocSurvey.Files.Tree
import DocSurvey.Files.Walk
import DocSurvey.Footer.Analysis
import DocSurvey.Footer.Check
import DocSurvey.Footer.Decoding
import DocSurvey.Footer.Report
import DocSurvey.Glob.Parser
import DocSurvey.Glob.Token
import DocSurvey.Json.Parser
import DocSurvey.Json.Printer
import DocSurvey.Json.Value
import DocSurvey.Log
import DocSurvey.Main
import DocSurvey.Number.Binary64
import DocSurvey.Number.Decimal
import DocSurvey.Number.Whole
import DocSurvey.Proofs.ApiDocs
import DocSurvey.Proofs.Coverage.Assessment
import DocSurvey.Proofs.Coverage.Isolation
import DocSurvey.Proofs.Declarations.Scan
import DocSurvey.Proofs.Files.Changes
import DocSurvey.Proofs.Files.Path
import DocSurvey.Proofs.Files.Tree
import DocSurvey.Proofs.Files.Walk
import DocSurvey.Proofs.Glob.Bytes
import DocSurvey.Proofs.Glob.Match
import DocSurvey.Proofs.Number.Rounding
import DocSurvey.Python.Annotation
import DocSurvey.Python.Definitions
import DocSurvey.Python.Expression
import DocSurvey.Python.Layout
import DocSurvey.Python.Literal
import DocSurvey.Python.Module
import DocSurvey.Python.Number
import DocSurvey.Python.Parser
import DocSurvey.Python.Pattern
import DocSurvey.Python.SimpleStatement
import DocSurvey.Python.Statement
import DocSurvey.Python.Syntax
import DocSurvey.Readme
import DocSurvey.Text.CaseRanges
import DocSurvey.Text.CharClass
import DocSurvey.Text.CharRange
import DocSurvey.Text.LetterRanges
import DocSurvey.Text.Lowercase
import DocSurvey.Text.MarkRanges
import DocSurvey.Text.Quoted
import DocSurvey.Text.Search
import DocSurvey.Text.Style
import DocSurvey.Text.UnprintableRanges
import DocSurvey.Time.Calendar
import DocSurvey.Time.Instant
import DocSurvey.Time.Reader
import DocSurvey.Yaml.Cursor
import DocSurvey.Yaml.Node
import DocSurvey.Yaml.Plain
import DocSurvey.Yaml.Reader
import DocSurvey.Yaml.Scalar
import DocSurvey.Yaml.Token
import DocSurvey.Proofs.Coverage.Consistency
import DocSurvey.Proofs.Files.Reading
import DocSurvey.Proofs.Text.Lowercase
import DocSurvey.Proofs.Declarations.Matches
import DocSurvey.Proofs.Declarations.Script
import DocSurvey.Proofs.Footer.Check
import DocSurvey.Proofs.Python.Program
import DocSurvey.Proofs.Python.Layout
import DocSurvey.Proofs.Python.Outline
import DocSurvey.Proofs.Python.Reading
import DocSurvey.Proofs.Python.Literals
import DocSurvey.Proofs.Python.Lines
import DocSurvey.Proofs.Python.Headers
import DocSurvey.Proofs.Python.Blocks
import DocSurvey.Proofs.Python.Definitions
import DocSurvey.Proofs.Number.Exactness
import DocSurvey.Proofs.Coverage.Formula
import DocSurvey.Proofs.Json.Tokens
import DocSurvey.Proofs.Json.RoundTrip
import DocSurvey.Proofs.Data.Records
import DocSurvey.Proofs.Files.Writing
import DocSurvey.Proofs.Footer.Storage
import DocSurvey.Proofs.Files.Spelling
import DocSurvey.Proofs.Files.Plain
import DocSurvey.Proofs.Files.Frame
import DocSurvey.Proofs.Footer.Repetition
import DocSurvey.Proofs.Readme
import DocSurvey.Proofs.Coverage.ReportFile
import DocSurvey.Proofs.Coverage.Traces
import DocSurvey.Proofs.Coverage.Percentages
import DocSurvey.Proofs.Coverage.Averages
import DocSurvey.Proofs.Declarations.Exclusion
import DocSurvey.Proofs.CommandLine.Exit
import DocSurvey.Proofs.Readme.Score
import DocSurvey.Proofs.Declarations.Formatting
import DocSurvey.Proofs.Python.Outcome
import DocSurvey.Proofs.Python.Docstrings
import DocSurvey.Proofs.Declarations.Exports
import DocSurvey.Proofs.Footer.Marks
import DocSurvey.Proofs.Glob.Case
import DocSurvey.Proofs.Files.Growth
import DocSurvey.Proofs.ApiDocs.Verdict
import DocSurvey.Proofs.Text.ByteOrder
import DocSurvey.Proofs.Readme.Selection
import DocSurvey.Proofs.Footer.Accounting
import DocSurvey.Proofs.Files.Parent
import DocSurvey.Proofs.Footer.Outputs
import DocSurvey.Proofs.Number.Digits
import DocSurvey.Proofs.Time.Calendar
import DocSurvey.Proofs.Time.Stamp
import DocSurvey.Proofs.Files.Naming
import DocSurvey.Proofs.Coverage.ReportNames
import DocSurvey.Proofs.Python.Slices
import DocSurvey.Proofs.Footer.Keys
import DocSurvey.Proofs.Footer.Preview
