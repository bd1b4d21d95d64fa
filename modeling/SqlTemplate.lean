import SqlTemplate.Brackets
import SqlTemplate.Coercion
import SqlTemplate.Coercion.Rejection
import SqlTemplate.Coercion.Scalar
import SqlTemplate.Config
import SqlTemplate.Dialect
import SqlTemplate.Double.Basic
import SqlTemplate.Double.Cast
import SqlTemplate.Double.Rounding
import SqlTemplate.Double.Shortest
import SqlTemplate.Double.Text
import SqlTemplate.Entries
import SqlTemplate.Index
import SqlTemplate.Inspection
import SqlTemplate.Key
import SqlTemplate.Number.Integer
import SqlTemplate.Number.Numeral
import SqlTemplate.Number.Power
import SqlTemplate.Pattern
import SqlTemplate.Pattern.Reader
import SqlTemplate.Pattern.Regex
import SqlTemplate.Placeholder
import SqlTemplate.Placeholder.Map
import SqlTemplate.Proofs.Asking
import SqlTemplate.Proofs.Binding
import SqlTemplate.Proofs.Block
import SqlTemplate.Proofs.Call
import SqlTemplate.Proofs.Contained
import SqlTemplate.Proofs.CustomBrackets
import SqlTemplate.Proofs.Declaring
import SqlTemplate.Proofs.Document
import SqlTemplate.Proofs.DocumentNumber
import SqlTemplate.Proofs.Ensures
import SqlTemplate.Proofs.Expansion
import SqlTemplate.Proofs.Explicit
import SqlTemplate.Proofs.Fault
import SqlTemplate.Proofs.Filling
import SqlTemplate.Proofs.Identifier
import SqlTemplate.Proofs.Independence
import SqlTemplate.Proofs.Injection
import SqlTemplate.Proofs.Inlining
import SqlTemplate.Proofs.Joining
import SqlTemplate.Proofs.Literal
import SqlTemplate.Proofs.Mandatory
import SqlTemplate.Proofs.MapCalls
import SqlTemplate.Proofs.Missing
import SqlTemplate.Proofs.Modifiers
import SqlTemplate.Proofs.Naming
import SqlTemplate.Proofs.NormalForm
import SqlTemplate.Proofs.Number
import SqlTemplate.Proofs.Number.Denotation
import SqlTemplate.Proofs.Number.Lossless
import SqlTemplate.Proofs.Number.Narrowing
import SqlTemplate.Proofs.Number.Nearest
import SqlTemplate.Proofs.Numbering
import SqlTemplate.Proofs.Outcome
import SqlTemplate.Proofs.Parsing
import SqlTemplate.Proofs.Pattern.Default
import SqlTemplate.Proofs.Pattern.Match
import SqlTemplate.Proofs.Positional
import SqlTemplate.Proofs.Printing
import SqlTemplate.Proofs.Quoted
import SqlTemplate.Proofs.Reading
import SqlTemplate.Proofs.Rendering
import SqlTemplate.Proofs.Renumbering
import SqlTemplate.Proofs.Scanning
import SqlTemplate.Proofs.Segments
import SqlTemplate.Proofs.Separator
import SqlTemplate.Proofs.Session
import SqlTemplate.Proofs.Sharing
import SqlTemplate.Proofs.Spans
import SqlTemplate.Proofs.Splitting
import SqlTemplate.Proofs.Steady
import SqlTemplate.Proofs.Stepwise
import SqlTemplate.Proofs.Supplying
import SqlTemplate.Proofs.TableListing
import SqlTemplate.Proofs.Unquoting
import SqlTemplate.Proofs.Verbatim
import SqlTemplate.Proofs.WholeNumber
import SqlTemplate.Proofs.Within
import SqlTemplate.Query
import SqlTemplate.SlotType
import SqlTemplate.Statement
import SqlTemplate.Template.Declaration
import SqlTemplate.Template.Marker
import SqlTemplate.Template.Piece
import SqlTemplate.Template.Segment
import SqlTemplate.Text.CharClass
import SqlTemplate.Text.Decimal
import SqlTemplate.Text.Escape
import SqlTemplate.Text.Listing
import SqlTemplate.Text.Unicode.Alphabetic
import SqlTemplate.Text.Unicode.Connector
import SqlTemplate.Text.Unicode.Mark
import SqlTemplate.Text.Unicode.Number
import SqlTemplate.Text.Unicode.Ranges
import SqlTemplate.Text.Unicode.WhiteSpace
import SqlTemplate.Value
import SqlTemplate.Value.Document
