import WideColumn.Binary64
import WideColumn.Calendar
import WideColumn.Collection
import WideColumn.Consistency
import WideColumn.Datum
import WideColumn.Decimal
import WideColumn.Execution
import WideColumn.Identifier
import WideColumn.Inline
import WideColumn.Numeral
import WideColumn.Operator
import WideColumn.Paging
import WideColumn.Query
import WideColumn.Query.Call
import WideColumn.QueryError
import WideColumn.Row
import WideColumn.Session
import WideColumn.Session.Operation
import WideColumn.SessionError
import WideColumn.Settings
import WideColumn.Settings.Decode
import WideColumn.Settings.Document
import WideColumn.Settings.Source
import WideColumn.Statement
import WideColumn.Store
import WideColumn.Text.Blank
import WideColumn.Text.Digits
import WideColumn.Text.Escaped
import WideColumn.Text.Extending
import WideColumn.Text.Quote
import WideColumn.Text.Unprintable
import WideColumn.Timestamp
import WideColumn.Toml.Document
import WideColumn.Toml.Quoted
import WideColumn.Toml.Scalar
import WideColumn.Toml.Table
import WideColumn.Uuid
import WideColumn.Value
import WideColumn.Value.Tagged
import WideColumn.Proofs.Bindings
import WideColumn.Proofs.Identifiers
import WideColumn.Proofs.Inlining
import WideColumn.Proofs.Legible
import WideColumn.Proofs.PagedCount
import WideColumn.Proofs.LegibleClauses
import WideColumn.Proofs.Faithful
import WideColumn.Proofs.Reading
import WideColumn.Proofs.Interleaving
import WideColumn.Proofs.SessionLog
import WideColumn.Proofs.TimestampText
import WideColumn.Proofs.TaggedValues
import WideColumn.Proofs.DecimalText
import WideColumn.Proofs.TomlStrings
import WideColumn.Proofs.SettingsRoundTrip
import WideColumn.Proofs.CollectionItems
import WideColumn.Proofs.Refilling
import WideColumn.Proofs.Earliest
import WideColumn.Proofs.Refusals
import WideColumn.Proofs.InsertMany
import WideColumn.Proofs.PageSizes
import WideColumn.Proofs.Deletions
import WideColumn.Proofs.ByteOrder
import WideColumn.Proofs.EqualQueries
import WideColumn.Proofs.RowOrder
import WideColumn.Proofs.Keywords
import WideColumn.Proofs.Passwords
import WideColumn.Proofs.SettingsOmissions
import WideColumn.Proofs.Wrapping
