import DatabaseSchema.Snapshot
import DatabaseSchema.Source
import DatabaseSchema.Text

namespace DatabaseSchema

inductive Failure where
  | query (message : String)
  | cursor (message : String)
  deriving DecidableEq, Repr

structure Fixture where
  tables : List Row := []
  columns : List Row := []
  primaryKeys : List Row := []
  indexes : List Row := []
  failures : List (QueryKind × Failure) := []
  deriving DecidableEq, Repr

structure ColumnSpec where
  table : String
  name : String
  typeCode : Int32
  typeName : String
  size : Int32
  digits : Int32
  nullable : Bool := true
  autonumbered : Bool := false
  default : Option String := none
  deriving DecidableEq, Repr

namespace ColumnSpec

def integer (table name : String) : ColumnSpec :=
  { table, name, typeCode := 4, typeName := "INTEGER", size := 10, digits := 0 }

def bigint (table name : String) : ColumnSpec :=
  { table, name, typeCode := -5, typeName := "BIGINT", size := 19, digits := 0 }

def varchar (table name : String) (width : Int32) : ColumnSpec :=
  { table, name, typeCode := 12, typeName := "VARCHAR", size := width, digits := 0 }

def decimal (table name : String) (precision scale : Int32) : ColumnSpec :=
  { table, name, typeCode := 3, typeName := "DECIMAL", size := precision, digits := scale }

def boolean (table name : String) : ColumnSpec :=
  { table, name, typeCode := 16, typeName := "BOOLEAN", size := 1, digits := 0 }

def date (table name : String) : ColumnSpec :=
  { table, name, typeCode := 91, typeName := "DATE", size := 10, digits := 0 }

def blob (table name : String) : ColumnSpec :=
  { table, name, typeCode := 2004, typeName := "BLOB", size := 0, digits := 0 }

def row (c : ColumnSpec) : Row :=
  ⟨[.text c.table, .text c.name, .ofInt32 c.typeCode, .text c.typeName, .ofInt32 c.size,
    .ofInt32 c.digits, .yesNo c.nullable, .yesNo c.autonumbered,
    .ofText? c.default, .null]⟩

end ColumnSpec

namespace Fixture

def addRow (f : Fixture) (kind : QueryKind) (r : Row) : Fixture :=
  match kind with
  | .tables => { f with tables := f.tables ++ [r] }
  | .columns => { f with columns := f.columns ++ [r] }
  | .primaryKeys => { f with primaryKeys := f.primaryKeys ++ [r] }
  | .indexes => { f with indexes := f.indexes ++ [r] }

def object (f : Fixture) (name kind : String) : Fixture :=
  f.addRow .tables ⟨[.null, .text name, .text kind, .null]⟩

def table (f : Fixture) (name : String) : Fixture := f.object name "TABLE"

def view (f : Fixture) (name : String) : Fixture := f.object name "VIEW"

def column (f : Fixture) (c : ColumnSpec) : Fixture := f.addRow .columns c.row

def primaryKey (f : Fixture) (table column : String) (sequence : Int32) : Fixture :=
  f.addRow .primaryKeys ⟨[.text table, .text column, .ofInt32 sequence, .null]⟩

def indexRows (table name : String) (unique : Bool) (columns : List String) : List Row :=
  columns.zipIdx.map fun (column, i) =>
    ⟨[.text table, .boolean !unique, .text name, .integer (Int64.ofNat (i + 1)), .text column]⟩

def index (f : Fixture) (table name : String) (unique : Bool) (columns : List String) : Fixture :=
  { f with indexes := f.indexes ++ indexRows table name unique columns }

def fail (f : Fixture) (kind : QueryKind) (failure : Failure) : Fixture :=
  { f with failures := (kind, failure) :: f.failures }

-- Whether a row belongs to a table. A row whose table cannot be told belongs to every table.
def isOfTable (table : String) (position : Nat) (r : Row) : Bool :=
  match r.text? position with
  | .ok (some name) => sameName name table
  | _ => true

def isOfKind (kinds : List String) (r : Row) : Bool :=
  match r.text? TableRow.kind with
  | .ok (some kind) => kinds.isEmpty || kinds.contains kind
  | _ => true

def isUnique (r : Row) : Bool :=
  match r.boolean IndexRow.nonUnique with
  | .ok nonUnique => !nonUnique
  | .error _ => false

def rows (f : Fixture) : Query → List Row
  | .tables _ kinds => f.tables.filter (isOfKind kinds)
  | .columns _ => f.columns
  | .primaryKeys _ table => f.primaryKeys.filter (isOfTable table KeyRow.table)
  | .indexes _ table uniqueOnly _ =>
      (f.indexes.filter (isOfTable table IndexRow.table)).filter (!uniqueOnly || isUnique ·)

def items (f : Fixture) (q : Query) : Items :=
  let rows : List Item := (f.rows q).map .ok
  match f.failures.lookup q.kind with
  | none => .ok rows
  | some (.query message) => .error message
  | some (.cursor message) => .ok (rows ++ [.error message])

def source (f : Fixture) : Source := ⟨fun _ q => ⟨f.items q, []⟩⟩

end Fixture

inductive BuilderCall where
  | table (name : String)
  | view (name : String)
  | column (c : ColumnSpec)
  | primaryKey (table column : String) (sequence : Int32)
  | index (table name : String) (unique : Bool) (columns : List String)
  deriving DecidableEq, Repr

namespace BuilderCall

def apply (f : Fixture) : BuilderCall → Fixture
  | table name => f.table name
  | view name => f.view name
  | column c => f.column c
  | primaryKey owner name sequence => f.primaryKey owner name sequence
  | index owner name unique columns => f.index owner name unique columns

def table? : BuilderCall → Option String
  | table name => some name
  | _ => none

def view? : BuilderCall → Option String
  | view name => some name
  | _ => none

def column? : BuilderCall → Option ColumnSpec
  | column c => some c
  | _ => none

def keyEntry? (key : String) : BuilderCall → Option (Int32 × String)
  | primaryKey owner name sequence =>
      if nameKey owner = key then some (sequence, name) else none
  | _ => none

def index? (key : String) : BuilderCall → Option Index
  | index owner name unique columns =>
      if nameKey owner = key then some ⟨name, unique, columns⟩ else none
  | _ => none

end BuilderCall

def Fixture.build (calls : List BuilderCall) : Fixture :=
  calls.foldl BuilderCall.apply {}

def ordersSnapshot : SchemaSnapshot where
  tables := [{
    name := "Orders"
    primaryKey := ["id"]
    columns := [
      { name := "Id", dataType := .integer, width := 10, scale := 0, primaryKey := true },
      { name := "Version", dataType := .integer, width := 10, scale := 0, nullable := true,
        defaultValue := "0" }]
    indexes := [{ name := "ByVersion", unique := false, columnNames := ["Version", "Id"] }] }]
  views := ["Open"]

def ordersCalls : List BuilderCall :=
  [.index "ORDERS" "ByVersion" false ["Version", "Id"], .view "Open", .primaryKey "orders" "id" 1,
    .column { ColumnSpec.integer "Orders" "Id" with nullable := false },
    .column (.integer "orders" "Version"), .table "Orders"]

end DatabaseSchema
