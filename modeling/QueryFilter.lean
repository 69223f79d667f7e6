import QueryFilter.Text.Ranges
import QueryFilter.Text.Blank
import QueryFilter.Text.Alphanumeric
import QueryFilter.Text.Uppercase
import QueryFilter.Text.Name
import QueryFilter.Text.Printable
import QueryFilter.Entries
import QueryFilter.Text.Quoted
import QueryFilter.Text.Hex
import QueryFilter.Text.Digits
import QueryFilter.Binary64
import QueryFilter.Decimal.Shortest
import QueryFilter.Decimal.Written
import QueryFilter.Json.Basic
import QueryFilter.Json.Printer
import QueryFilter.Json.Token
import QueryFilter.Json.Numeral
import QueryFilter.Json.Reader
import QueryFilter.Calendar.Day
import QueryFilter.Calendar.Instant
import QueryFilter.Calendar.Fault
import QueryFilter.Calendar.Scan
import QueryFilter.Calendar.Rfc3339
import QueryFilter.Calendar.Reading
import QueryFilter.Calendar.Pattern
import QueryFilter.Calendar.Resolve
import QueryFilter.Identifier
import QueryFilter.Value.Basic
import QueryFilter.Value.Json
import QueryFilter.Value.Serializer
import QueryFilter.Operator
import QueryFilter.DateFormat
import QueryFilter.Config.Basic
import QueryFilter.Config.Text
import QueryFilter.Condition
import QueryFilter.Record.Field
import QueryFilter.Record.FieldType
import QueryFilter.Builder
import QueryFilter.View
import QueryFilter.Session
import QueryFilter.Record.Literal
import QueryFilter.Record.Attribute
import QueryFilter.Record.Constant
import QueryFilter.Record.Schema
import QueryFilter.Proofs.Entries.Laws
import QueryFilter.Proofs.Entries.Overlay
import QueryFilter.Proofs.Session.Edit
import QueryFilter.Proofs.Session.Effect
import QueryFilter.Proofs.Session.Forgetting
import QueryFilter.Proofs.Session.LastWrite
import QueryFilter.Proofs.Session.Groups
import QueryFilter.Proofs.Session.Segments
import QueryFilter.Proofs.Session.Alternatives
import QueryFilter.Proofs.Session.Refusal
import QueryFilter.Proofs.Calendar.Civil
import QueryFilter.Proofs.Calendar.Digits
import QueryFilter.Proofs.Calendar.Timestamp
import QueryFilter.Proofs.Calendar.Items
import QueryFilter.Proofs.Calendar.Written
import QueryFilter.Proofs.Identifier.Hex
import QueryFilter.Proofs.Identifier.Spelling
import QueryFilter.Proofs.Value.Numbers
import QueryFilter.Proofs.Value.Decoding
import QueryFilter.Proofs.Record.Keys
import QueryFilter.Proofs.Record.Declaration
import QueryFilter.Proofs.Record.Constant
import QueryFilter.Proofs.Session.Records
import QueryFilter.Proofs.Calendar.Stated
import QueryFilter.Proofs.Calendar.Offset
import QueryFilter.Proofs.Calendar.Clock
import QueryFilter.Proofs.Calendar.Rendered
import QueryFilter.Proofs.Session.DateText
import QueryFilter.Proofs.Session.Commuting
import QueryFilter.Proofs.Session.Ledger
import QueryFilter.Proofs.Session.Shape
import QueryFilter.Proofs.Session.Grammar
import QueryFilter.Proofs.Session.Restart
import QueryFilter.Proofs.Session.Conditions
import QueryFilter.Proofs.Session.Replay
import QueryFilter.Proofs.Value.Serialization
import QueryFilter.Proofs.Entries.Sorting
import QueryFilter.Proofs.Value.Sorted
import QueryFilter.Proofs.Value.Equality
import QueryFilter.Proofs.Record.Conversion
import QueryFilter.Proofs.Record.Attributes
import QueryFilter.Proofs.Config.Reloading
import QueryFilter.Proofs.Identifier.Order
import QueryFilter.Proofs.Record.Words
