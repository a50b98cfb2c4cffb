import TagQuery.Calendar.Date
import TagQuery.Calendar.Shift
import TagQuery.Calendar.Stamp
import TagQuery.Calendar.TagDate
import TagQuery.Comparison
import TagQuery.Dictionary
import TagQuery.Element.Basic
import TagQuery.Element.Kind
import TagQuery.Element.Lifecycle
import TagQuery.Element.Record
import TagQuery.Element.Slots
import TagQuery.Element.View
import TagQuery.Filter.Basic
import TagQuery.Filter.Cache
import TagQuery.Filter.Evaluation
import TagQuery.Filter.Lazy
import TagQuery.Filter.Pattern
import TagQuery.Filter.Predicate
import TagQuery.Filter.Registry
import TagQuery.Json.Basic
import TagQuery.Json.Number
import TagQuery.Json.Parser
import TagQuery.Literal.Date
import TagQuery.Literal.Error
import TagQuery.Main
import TagQuery.Number.Binary64
import TagQuery.Number.Decimal
import TagQuery.Number.Extent
import TagQuery.Number.Scientific
import TagQuery.Number.Shortest
import TagQuery.Number.Whole
import TagQuery.Number.Word
import TagQuery.Proofs.Calendar.DayNumber
import TagQuery.Proofs.Calendar.RelativeDate
import TagQuery.Proofs.Calendar.ShiftOrder
import TagQuery.Proofs.Calendar.Spelling
import TagQuery.Proofs.Calendar.Stamp
import TagQuery.Proofs.Calendar.TagDate
import TagQuery.Proofs.Element.Lifecycle
import TagQuery.Proofs.Element.Record
import TagQuery.Proofs.Except
import TagQuery.Proofs.Filter.AddedUnits
import TagQuery.Proofs.Filter.Age
import TagQuery.Proofs.Filter.Alternatives
import TagQuery.Proofs.Filter.Anchoring
import TagQuery.Proofs.Filter.Cache
import TagQuery.Proofs.Filter.Clock
import TagQuery.Proofs.Filter.Comparison
import TagQuery.Proofs.Filter.Compilation
import TagQuery.Proofs.Filter.Composition
import TagQuery.Proofs.Filter.Lazy
import TagQuery.Proofs.Filter.LeftmostFault
import TagQuery.Proofs.Filter.Lookups
import TagQuery.Proofs.Filter.NegationNormalForm
import TagQuery.Proofs.Filter.PlainPatterns
import TagQuery.Proofs.Filter.Registry
import TagQuery.Proofs.Filter.SameMoment
import TagQuery.Proofs.Filter.ShortCircuit
import TagQuery.Proofs.Json.Spelling
import TagQuery.Proofs.Literal.Date
import TagQuery.Proofs.Number.Nearest
import TagQuery.Proofs.Number.Numeral
import TagQuery.Proofs.Number.Rounding
import TagQuery.Proofs.Number.Whole
import TagQuery.Proofs.Query.Derivation
import TagQuery.Proofs.Query.Fault
import TagQuery.Proofs.Query.Grammar
import TagQuery.Proofs.Query.Layout
import TagQuery.Proofs.Query.Leaves
import TagQuery.Proofs.Query.LexFault
import TagQuery.Proofs.Query.Lexing
import TagQuery.Proofs.Query.Lookahead
import TagQuery.Proofs.Query.Printing
import TagQuery.Proofs.Regex.Bracket
import TagQuery.Proofs.Regex.Choice
import TagQuery.Proofs.Regex.Escape
import TagQuery.Proofs.Regex.Matching
import TagQuery.Proofs.Regex.Parser
import TagQuery.Proofs.Regex.Reading
import TagQuery.Proofs.Run.Pipeline
import TagQuery.Proofs.Run.Rerun
import TagQuery.Proofs.Run.Today
import TagQuery.Proofs.Text.ByteOrder
import TagQuery.Proofs.Text.Digits
import TagQuery.Proofs.Text.LetterCase
import TagQuery.Proofs.Text.Words
import TagQuery.Proofs.Units
import TagQuery.Proofs.Units.History
import TagQuery.Proofs.Units.LetterCase
import TagQuery.Proofs.Units.Lookup
import TagQuery.Quantity
import TagQuery.Query.Basic
import TagQuery.Query.Expr
import TagQuery.Query.Parser
import TagQuery.Query.Token
import TagQuery.Regex.Basic
import TagQuery.Regex.Bracket
import TagQuery.Regex.CharClass
import TagQuery.Regex.Escape
import TagQuery.Regex.Flags
import TagQuery.Regex.Matching
import TagQuery.Regex.Parser
import TagQuery.Run.CommandLine
import TagQuery.Run.Files
import TagQuery.Run.Help
import TagQuery.Run.Pipeline
import TagQuery.Run.Program
import TagQuery.Run.Progress
import TagQuery.Run.Today
import TagQuery.Settings.Basic
import TagQuery.Settings.File
import TagQuery.Settings.FromIni
import TagQuery.Settings.FromJson
import TagQuery.Settings.FromJson5
import TagQuery.Settings.FromRon
import TagQuery.Settings.FromToml
import TagQuery.Settings.FromYaml
import TagQuery.Settings.Path
import TagQuery.Settings.Setting
import TagQuery.Settings.Toml.Moment
import TagQuery.Settings.Toml.Scalar
import TagQuery.Settings.Toml.Tables
import TagQuery.Settings.Toml.Text
import TagQuery.Text.Blank
import TagQuery.Text.Digits
import TagQuery.Text.Lines
import TagQuery.Text.Quoted
import TagQuery.Text.Utf8
import TagQuery.Unicode.Age
import TagQuery.Unicode.BinaryProperty
import TagQuery.Unicode.CaseFolding
import TagQuery.Unicode.CodePoints
import TagQuery.Unicode.Edition
import TagQuery.Unicode.GeneralCategory
import TagQuery.Unicode.GraphemeBreak
import TagQuery.Unicode.Script
import TagQuery.Unicode.SentenceBreak
import TagQuery.Unicode.WordBreak
import TagQuery.Unicode.WordCharacter
import TagQuery.Units
import TagQuery.Yaml.Basic
import TagQuery.Yaml.Block
import TagQuery.Yaml.Character
import TagQuery.Yaml.Cursor
import TagQuery.Yaml.Directive
import TagQuery.Yaml.Document
import TagQuery.Yaml.Layout
import TagQuery.Yaml.Plain
import TagQuery.Yaml.Quoted
import TagQuery.Yaml.Scalar
import TagQuery.Yaml.Tag
import TagQuery.Yaml.Token
