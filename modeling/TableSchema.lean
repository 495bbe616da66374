import TableSchema.Calendar
import TableSchema.Check
import TableSchema.CommandLine
import TableSchema.CommandLine.Arguments
import TableSchema.CommandLine.Demand
import TableSchema.CommandLine.Flag
import TableSchema.CommandLine.Word
import TableSchema.Csv.Reader
import TableSchema.Csv.Source
import TableSchema.Encoding.Charset
import TableSchema.Encoding.Decode
import TableSchema.Engine
import TableSchema.EnvFile
import TableSchema.Environment
import TableSchema.FileTree
import TableSchema.Frame
import TableSchema.Location
import TableSchema.Log
import TableSchema.Log.Registry
import TableSchema.Main
import TableSchema.Message
import TableSchema.Number.Binary64
import TableSchema.Number.Decimal
import TableSchema.Number.Integer
import TableSchema.PathResolver
import TableSchema.Pattern
import TableSchema.Pattern.CharClass
import TableSchema.Pattern.Fault
import TableSchema.Pattern.Matching
import TableSchema.Pattern.Node
import TableSchema.Pattern.Reader
import TableSchema.Pattern.Source
import TableSchema.Progress
import TableSchema.Proofs.Calendar.DateTimes
import TableSchema.Proofs.Calendar.Dates
import TableSchema.Proofs.CommandLine.ExitCode
import TableSchema.Proofs.CommandLine.Options
import TableSchema.Proofs.CommandLine.Presets
import TableSchema.Proofs.CommandLine.Switches
import TableSchema.Proofs.Csv.LineReports
import TableSchema.Proofs.Csv.Quoted
import TableSchema.Proofs.Csv.ReadFaults
import TableSchema.Proofs.Csv.RowLines
import TableSchema.Proofs.Csv.Scanning
import TableSchema.Proofs.Encoding.ByteOrder
import TableSchema.Proofs.Encoding.Streaming
import TableSchema.Proofs.Log.Handlers
import TableSchema.Proofs.Log.History
import TableSchema.Proofs.Log.Levels
import TableSchema.Proofs.Number.Binary64
import TableSchema.Proofs.Number.Decimal
import TableSchema.Proofs.Number.Grammar
import TableSchema.Proofs.Number.Numeral
import TableSchema.Proofs.Number.Order
import TableSchema.Proofs.Number.Spelling
import TableSchema.Proofs.Path.ExactNames
import TableSchema.Proofs.Path.FileUris
import TableSchema.Proofs.Path.Substitutions
import TableSchema.Proofs.Rule.Answers
import TableSchema.Proofs.Rule.Arguments
import TableSchema.Proofs.Rule.Breaking
import TableSchema.Proofs.Rule.Dates
import TableSchema.Proofs.Rule.Faults
import TableSchema.Proofs.Rule.Folding
import TableSchema.Proofs.Rule.Ranges
import TableSchema.Proofs.Rule.References
import TableSchema.Proofs.Rule.Unanswered
import TableSchema.Proofs.Rule.Uniqueness
import TableSchema.Proofs.Schema.Acceptance
import TableSchema.Proofs.Schema.AddedRules
import TableSchema.Proofs.Schema.Agreement
import TableSchema.Proofs.Schema.Canonical
import TableSchema.Proofs.Schema.Completeness
import TableSchema.Proofs.Schema.Conclusion
import TableSchema.Proofs.Schema.CrossChecks
import TableSchema.Proofs.Schema.Depth
import TableSchema.Proofs.Schema.Diagnosis
import TableSchema.Proofs.Schema.Faults
import TableSchema.Proofs.Schema.FirstFault
import TableSchema.Proofs.Schema.FromFile
import TableSchema.Proofs.Schema.Grammar
import TableSchema.Proofs.Schema.Invariants
import TableSchema.Proofs.Schema.Layout
import TableSchema.Proofs.Schema.Lexing
import TableSchema.Proofs.Schema.Outcome
import TableSchema.Proofs.Schema.ParserLog
import TableSchema.Proofs.Schema.Quoting
import TableSchema.Proofs.Schema.RangeRendering
import TableSchema.Proofs.Schema.Rendering
import TableSchema.Proofs.Schema.RoundTrip
import TableSchema.Proofs.Schema.Soundness
import TableSchema.Proofs.Schema.Tiling
import TableSchema.Proofs.Schema.Tokens
import TableSchema.Proofs.Schema.Unbroken
import TableSchema.Proofs.Settings.Bindings
import TableSchema.Proofs.Settings.EffectiveValues
import TableSchema.Proofs.Settings.Sources
import TableSchema.Proofs.Settings.Variables
import TableSchema.Proofs.Table.AddedReferences
import TableSchema.Proofs.Table.Alternatives
import TableSchema.Proofs.Table.Answers
import TableSchema.Proofs.Table.Arrangement
import TableSchema.Proofs.Table.Directives
import TableSchema.Proofs.Table.Faults
import TableSchema.Proofs.Table.FileErrors
import TableSchema.Proofs.Table.FileRuns
import TableSchema.Proofs.Table.Findings
import TableSchema.Proofs.Table.FirstError
import TableSchema.Proofs.Table.History
import TableSchema.Proofs.Table.Independence
import TableSchema.Proofs.Table.Inversion
import TableSchema.Proofs.Table.LetterCase
import TableSchema.Proofs.Table.LineNumbers
import TableSchema.Proofs.Table.Listing
import TableSchema.Proofs.Table.Progress
import TableSchema.Proofs.Table.Reading
import TableSchema.Proofs.Table.References
import TableSchema.Proofs.Table.Repeats
import TableSchema.Proofs.Table.Reports
import TableSchema.Proofs.Table.Sequence
import TableSchema.Proofs.Table.Verdict
import TableSchema.Proofs.Table.Watching
import TableSchema.Proofs.Text.Characters
import TableSchema.Proofs.Text.Lines
import TableSchema.Proofs.Text.Utf8
import TableSchema.Proofs.Text.WellFormed
import TableSchema.Proofs.Uri.Escapes
import TableSchema.Rule
import TableSchema.Rule.Build
import TableSchema.Rule.Evaluation
import TableSchema.Run
import TableSchema.Schema
import TableSchema.Schema.Diagnostic
import TableSchema.Schema.File
import TableSchema.Schema.Parser
import TableSchema.Schema.Token
import TableSchema.Settings
import TableSchema.Text.Blank
import TableSchema.Text.Case
import TableSchema.Text.Case.Table
import TableSchema.Text.CharacterName
import TableSchema.Text.CharacterName.Table
import TableSchema.Text.Digit
import TableSchema.Text.Interval
import TableSchema.Text.Letter
import TableSchema.Text.Lines
import TableSchema.Text.Printable
import TableSchema.Text.Quoted
import TableSchema.Text.Split
import TableSchema.Text.Utf8
import TableSchema.Uri
import TableSchema.Uri.Address
