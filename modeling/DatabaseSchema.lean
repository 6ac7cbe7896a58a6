import DatabaseSchema.Catalog
import DatabaseSchema.CommandLine
import DatabaseSchema.CommandLine.Arguments
import DatabaseSchema.Connection
import DatabaseSchema.Environment
import DatabaseSchema.Error
import DatabaseSchema.Json
import DatabaseSchema.Json.Forms
import DatabaseSchema.Json.Parser
import DatabaseSchema.Keys
import DatabaseSchema.Logged
import DatabaseSchema.Main
import DatabaseSchema.Pattern
import DatabaseSchema.Pattern.Class
import DatabaseSchema.Pattern.Parser
import DatabaseSchema.Pattern.Property
import DatabaseSchema.Pattern.Scan
import DatabaseSchema.Policy
import DatabaseSchema.Provider
import DatabaseSchema.Request
import DatabaseSchema.Row
import DatabaseSchema.Settings
import DatabaseSchema.Settings.Load
import DatabaseSchema.Snapshot
import DatabaseSchema.Source
import DatabaseSchema.Source.Fixture
import DatabaseSchema.Sqlite.Database
import DatabaseSchema.Sqlite.Disk
import DatabaseSchema.Sqlite.Pragma
import DatabaseSchema.Sqlite.Statement
import DatabaseSchema.Text
import DatabaseSchema.Text.CaseTable
import DatabaseSchema.Text.Category
import DatabaseSchema.Text.CategoryTable
import DatabaseSchema.Text.ScriptTable
import DatabaseSchema.Toml
import DatabaseSchema.Toml.Parser
import DatabaseSchema.Toml.Quoted
import DatabaseSchema.Toml.Scalar
import DatabaseSchema.Proofs.Act
import DatabaseSchema.Proofs.Canonical
import DatabaseSchema.Proofs.Catalog
import DatabaseSchema.Proofs.Catalog.Insertion
import DatabaseSchema.Proofs.Catalog.TableNames
import DatabaseSchema.Proofs.ColumnDefaults
import DatabaseSchema.Proofs.Columns
import DatabaseSchema.Proofs.Columns.Conversion
import DatabaseSchema.Proofs.Columns.TableByTable
import DatabaseSchema.Proofs.CommandLine.Agreement
import DatabaseSchema.Proofs.CommandLine.Opening
import DatabaseSchema.Proofs.DefaultPolicies
import DatabaseSchema.Proofs.ExactIntegers
import DatabaseSchema.Proofs.Expansion
import DatabaseSchema.Proofs.Expansion.Unreferenced
import DatabaseSchema.Proofs.Failure
import DatabaseSchema.Proofs.Folding
import DatabaseSchema.Proofs.Following
import DatabaseSchema.Proofs.Growth
import DatabaseSchema.Proofs.Handles
import DatabaseSchema.Proofs.Indexes
import DatabaseSchema.Proofs.Indexes.Grouping
import DatabaseSchema.Proofs.Json.RoundTrip
import DatabaseSchema.Proofs.Json.Scalars
import DatabaseSchema.Proofs.Json.Value
import DatabaseSchema.Proofs.Listings
import DatabaseSchema.Proofs.Listwise
import DatabaseSchema.Proofs.Loading
import DatabaseSchema.Proofs.Lockstep
import DatabaseSchema.Proofs.Lookup
import DatabaseSchema.Proofs.Padding
import DatabaseSchema.Proofs.Pattern.PerformanceIndex
import DatabaseSchema.Proofs.Pattern.Spans
import DatabaseSchema.Proofs.Piece
import DatabaseSchema.Proofs.PrimaryKey
import DatabaseSchema.Proofs.PrimaryKey.Order
import DatabaseSchema.Proofs.PrimaryKey.Repeats
import DatabaseSchema.Proofs.PrimaryKey.Resolution
import DatabaseSchema.Proofs.Rendering
import DatabaseSchema.Proofs.Rendering.Clauses
import DatabaseSchema.Proofs.Rendering.Lines
import DatabaseSchema.Proofs.Replacement
import DatabaseSchema.Proofs.Replay
import DatabaseSchema.Proofs.Replay.Columns
import DatabaseSchema.Proofs.Replay.Indexes
import DatabaseSchema.Proofs.Replay.Keys
import DatabaseSchema.Proofs.Replay.Rows
import DatabaseSchema.Proofs.Retelling
import DatabaseSchema.Proofs.RowGroups
import DatabaseSchema.Proofs.Serving
import DatabaseSchema.Proofs.Sqlite.Autonumbering
import DatabaseSchema.Proofs.Sqlite.ColumnRows
import DatabaseSchema.Proofs.Sqlite.DeclaredTypes
import DatabaseSchema.Proofs.Sqlite.IndexEntries
import DatabaseSchema.Proofs.Sqlite.Indexes
import DatabaseSchema.Proofs.Sqlite.KeyPlaces
import DatabaseSchema.Proofs.Sqlite.PrimaryKeys
import DatabaseSchema.Proofs.Sqlite.Schemas
import DatabaseSchema.Proofs.Sqlite.SecondaryIndexes
import DatabaseSchema.Proofs.Sqlite.Statement
import DatabaseSchema.Proofs.Sqlite.TypeWords
import DatabaseSchema.Proofs.Text.Containment
import DatabaseSchema.Proofs.Text.Decimal
import DatabaseSchema.Proofs.Text.Spaced
import DatabaseSchema.Proofs.Text.Upper
import DatabaseSchema.Proofs.Text.Words
import DatabaseSchema.Proofs.Tracking
import DatabaseSchema.Proofs.Transparency
import DatabaseSchema.Proofs.Uncached
import DatabaseSchema.Proofs.Uncached.Snapshot
import DatabaseSchema.Proofs.WriteOnce
