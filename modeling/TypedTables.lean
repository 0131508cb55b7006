import TypedTables.Text.Quoted
import TypedTables.Text.Escaped
import TypedTables.Text.Blank
import TypedTables.Text.Split
import TypedTables.Text.Digits
import TypedTables.Text.Utf8
import TypedTables.Number.Binary64
import TypedTables.Number.Decimal
import TypedTables.FieldType
import TypedTables.Table
import TypedTables.Dynamic
import TypedTables.Backend.Recorded
import TypedTables.Json
import TypedTables.Json.Draft
import TypedTables.Target
import TypedTables.Target.ConfigFile
import TypedTables.Command
import TypedTables.CommandLine
import TypedTables.Backend.Scripted
import TypedTables.Store.Affinity
import TypedTables.Store.Collation
import TypedTables.Store
import TypedTables.Main
import TypedTables.Cursor.Counted
import TypedTables.Sql.Token
import TypedTables.Store.Expression
import TypedTables.Proofs.Naming
import TypedTables.Proofs.Backend.Trial
import TypedTables.Proofs.Migration.Course
import TypedTables.Proofs.PlainStore
import TypedTables.Proofs.Migration.Stages
import TypedTables.Proofs.Migration.Forward
import TypedTables.Proofs.Migration.Untouched
import TypedTables.Proofs.Migration.Retry
import TypedTables.Proofs.Migration.Progress
import TypedTables.Proofs.Migration.History
import TypedTables.Proofs.Migration.Presence
import TypedTables.Proofs.Number.Written
import TypedTables.Proofs.Sql.Lexeme
import TypedTables.Proofs.Sql.Spelling
import TypedTables.Proofs.FieldType
import TypedTables.Proofs.Formula
import TypedTables.Proofs.RoundTrip
import TypedTables.Proofs.Sql.Template
import TypedTables.Proofs.Sql.Compilation
import TypedTables.Proofs.Sql.Condition
import TypedTables.Proofs.Sql.Request
import TypedTables.Proofs.Sql.Placement
import TypedTables.Proofs.Table.Meaning
import TypedTables.Proofs.Table.KeyMap
import TypedTables.Proofs.Table.Rows
import TypedTables.Proofs.Table.KeyValue
import TypedTables.Proofs.Table.Equality
import TypedTables.Proofs.Naming.Collision
import TypedTables.Proofs.Migration.Downgrade
import TypedTables.Proofs.Migration.Indexes
import TypedTables.Proofs.Sql.Independence
import TypedTables.Proofs.Naming.Ownership
import TypedTables.Proofs.FieldType.Chain
import TypedTables.Proofs.FieldType.Coercion
import TypedTables.Proofs.Number.Exact
import TypedTables.Proofs.FieldType.Faithful
import TypedTables.Proofs.Listing
import TypedTables.Proofs.Text.Marker
import TypedTables.Proofs.Naming.Grammar
import TypedTables.Proofs.Naming.Clean
import TypedTables.Proofs.Naming.Reading
import TypedTables.Proofs.Migration.Ledger
import TypedTables.Proofs.Migration.Script
import TypedTables.Proofs.Migration.Filled
import TypedTables.Proofs.Sql.Inlined
import TypedTables.Proofs.Plan.Choice
import TypedTables.Proofs.Filter
import TypedTables.Proofs.QueryResult.Rows
import TypedTables.Proofs.QueryResult.Release
import TypedTables.Proofs.RootType.Literal
import TypedTables.Proofs.Sql.Constant
import TypedTables.Proofs.FieldType.Integer
import TypedTables.Proofs.FieldType.Enumeration
import TypedTables.Proofs.Index
import TypedTables.Proofs.Cursor
