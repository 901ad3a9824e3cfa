import RecordQuery.Backend
import RecordQuery.Command.Invocation
import RecordQuery.Command.Run
import RecordQuery.Files.Path
import RecordQuery.Files.Tree
import RecordQuery.Json.Numeral
import RecordQuery.Json.Reader
import RecordQuery.Json.Value
import RecordQuery.Json.Writer
import RecordQuery.Main
import RecordQuery.Number.Basic
import RecordQuery.Number.Layout
import RecordQuery.Number.Numeral
import RecordQuery.Number.Rounding
import RecordQuery.Number.Shortest
import RecordQuery.Query.Builder
import RecordQuery.Query.Cleanup
import RecordQuery.Query.Comparison
import RecordQuery.Query.Condition
import RecordQuery.Query.Document
import RecordQuery.Query.Literal
import RecordQuery.Query.Match
import RecordQuery.Query.Parsed
import RecordQuery.Query.Problem
import RecordQuery.Query.Segment
import RecordQuery.Query.Term
import RecordQuery.Query.Token
import RecordQuery.Query.Tree
import RecordQuery.Record.Field
import RecordQuery.Record.Filter
import RecordQuery.Record.Sort
import RecordQuery.Regex.Bracket
import RecordQuery.Regex.CharClass
import RecordQuery.Regex.Escape
import RecordQuery.Regex.Flags
import RecordQuery.Regex.Matching
import RecordQuery.Regex.Pattern
import RecordQuery.Regex.Property
import RecordQuery.Regex.Property.Age
import RecordQuery.Regex.Property.Binary
import RecordQuery.Regex.Property.Break
import RecordQuery.Regex.Property.Category
import RecordQuery.Regex.Property.Script
import RecordQuery.Regex.Property.ScriptExtension
import RecordQuery.Regex.Property.Word
import RecordQuery.Regex.Reader
import RecordQuery.Settings.Basic
import RecordQuery.Settings.Discovery
import RecordQuery.Settings.File
import RecordQuery.Settings.Layer
import RecordQuery.Text.Alphanumeric
import RecordQuery.Text.Parts
import RecordQuery.Text.CaseFold
import RecordQuery.Text.Table
import RecordQuery.Text.Lowercase
import RecordQuery.Text.Quoted
import RecordQuery.Time.Calendar
import RecordQuery.Time.Instant
import RecordQuery.Time.Reading
import RecordQuery.Toml.Lexeme
import RecordQuery.Toml.Quoted
import RecordQuery.Toml.Document
import RecordQuery.Toml.Scalar
import RecordQuery.Toml.Table
import RecordQuery.Toml.Value
import RecordQuery.Proofs.Query.Shape
import RecordQuery.Proofs.Query.Segmentation
import RecordQuery.Proofs.Query.Cleanup
import RecordQuery.Proofs.Query.Lossless
import RecordQuery.Proofs.Query.Reads
import RecordQuery.Proofs.Query.Placement
import RecordQuery.Proofs.Query.Printing
import RecordQuery.Proofs.Query.Beginning
import RecordQuery.Proofs.Query.RoundTrip
import RecordQuery.Proofs.Query.Flattening
import RecordQuery.Proofs.Query.Nesting
import RecordQuery.Proofs.Record.Order
import RecordQuery.Proofs.Record.Preparation
import RecordQuery.Proofs.Query.Literal
import RecordQuery.Proofs.Record.Meaning
import RecordQuery.Proofs.Query.Compared
import RecordQuery.Proofs.Text.Words
import RecordQuery.Proofs.Record.Partition
import RecordQuery.Proofs.Query.Locality
import RecordQuery.Proofs.Query.Balance
import RecordQuery.Proofs.Query.Seams
import RecordQuery.Proofs.Query.Grouping
import RecordQuery.Proofs.Query.GroupTree
import RecordQuery.Proofs.Record.Complement
import RecordQuery.Proofs.Record.Counting
import RecordQuery.Proofs.Query.Unclosed
import RecordQuery.Proofs.Query.Ranged
import RecordQuery.Proofs.Record.Interval
import RecordQuery.Proofs.Query.Barrier
import RecordQuery.Proofs.Query.Between
import RecordQuery.Proofs.Query.Operand
import RecordQuery.Proofs.Record.RangeOperand
import RecordQuery.Proofs.Query.GroupRow
import RecordQuery.Proofs.Command.Combined
import RecordQuery.Proofs.Query.Joined
import RecordQuery.Proofs.Query.AllowList
import RecordQuery.Proofs.Query.Waiting
import RecordQuery.Proofs.Query.TakenOut
import RecordQuery.Proofs.Query.Rejection
import RecordQuery.Proofs.Time.Padded
import RecordQuery.Proofs.Query.CalendarPeriod
import RecordQuery.Proofs.Record.Periods
import RecordQuery.Proofs.Backend.Calls
import RecordQuery.Proofs.Settings.Precedence
import RecordQuery.Proofs.Settings.Root
import RecordQuery.Proofs.Toml.Quoted
import RecordQuery.Proofs.Toml.Scalar
import RecordQuery.Proofs.Toml.Document
import RecordQuery.Proofs.Settings.Rendering
import RecordQuery.Proofs.Query.NormalForm
import RecordQuery.Proofs.Record.Sorted
import RecordQuery.Proofs.Query.Held
import RecordQuery.Proofs.Query.Vanished
import RecordQuery.Proofs.Query.WrittenDate
import RecordQuery.Proofs.Number.Overflow
import RecordQuery.Proofs.Query.WrittenNumeral
import RecordQuery.Proofs.Query.LiteralGrammar
import RecordQuery.Proofs.Query.Tiling
import RecordQuery.Proofs.Query.Formatted
import RecordQuery.Proofs.Time.Reading
import RecordQuery.Proofs.Record.DateAgreement
import RecordQuery.Proofs.Query.Strictness
import RecordQuery.Proofs.Query.Unread
import RecordQuery.Proofs.Query.WholeChunk
import RecordQuery.Proofs.Query.Reports
import RecordQuery.Proofs.Text.Lowering
import RecordQuery.Proofs.Record.IgnoringCase
import RecordQuery.Proofs.Query.Conditions
import RecordQuery.Proofs.Record.Patterns
import RecordQuery.Proofs.Record.Neutrality
import RecordQuery.Proofs.Record.SortMarkers
import RecordQuery.Proofs.Query.DefaultKey
import RecordQuery.Proofs.Settings.Warnings
import RecordQuery.Proofs.Text.Bytes
import RecordQuery.Proofs.Query.ByteReader
import RecordQuery.Proofs.Query.ByteShape
import RecordQuery.Proofs.Query.FaultFree
