import DatabaseSchema.Error
import DatabaseSchema.Logged
import DatabaseSchema.Policy
import DatabaseSchema.Source
import DatabaseSchema.Text

namespace DatabaseSchema

structure Catalog (α : Type) where
  kind : NameKind
  entries : List α
  positions : List (String × Nat)
  deriving DecidableEq, Repr

namespace Catalog

def empty (kind : NameKind) : Catalog α := ⟨kind, [], []⟩

def size (c : Catalog α) : Nat := c.entries.length

def isEmpty (c : Catalog α) : Bool := c.entries.isEmpty

def contains (c : Catalog α) (name : String) : Bool :=
  (c.positions.lookup (nameKey name)).isSome

def get? (c : Catalog α) (name : String) : Option α := do
  let position ← c.positions.lookup (nameKey name)
  c.entries[position]?

def insert (c : Catalog α) (name : String) (a : α) : Except SchemaError (Catalog α) :=
  if c.contains name then .error (.duplicateName c.kind name)
  else .ok ⟨c.kind, c.entries ++ [a], (nameKey name, c.size) :: c.positions⟩

end Catalog

def Subject.check (s : Subject) : Except CellError α → Except SchemaError α
  | .ok a => .ok a
  | .error e => .error (.query s (.cell e))

def Subject.items (s : Subject) : Items → Except SchemaError (List Item)
  | .ok items => .ok items
  | .error message => .error (.query s (.source message))

def Subject.row (s : Subject) : Item → Except SchemaError Row
  | .ok r => .ok r
  | .error message => .error (.query s (.source message))

def Part.check (p : Part) : Except CellError α → Except SchemaError α
  | .ok a => .ok a
  | .error e => .error (.read p e)

@[simp] theorem Subject.items_eq_ok {s : Subject} {answer : Items} {items : List Item} :
    s.items answer = .ok items ↔ answer = .ok items := by
  cases answer <;> simp [Subject.items]

@[simp] theorem Part.check_eq_ok {p : Part} {r : Except CellError α} {a : α} :
    p.check r = .ok a ↔ r = .ok a := by
  cases r <;> simp [Part.check]

theorem Part.check_eq_error {p : Part} {r : Except CellError α} {e : SchemaError} :
    p.check r = .error e ↔ ∃ cell, r = .error cell ∧ e = .read p cell := by
  cases r <;> simp [Part.check, eq_comm]

namespace Catalog

def addTable (p : Policy) (c : Catalog String) (item : Item) : Logged (Catalog String) := do
  let row ← Logged.ofExcept (Subject.tables.row item)
  let name ← Logged.ofExcept (Subject.tables.check (p.tableName row))
  let schema ← Logged.ofExcept ((Part.table name).check (row.text? TableRow.schema))
  let kind ← Logged.ofExcept ((Part.table name).check (row.text? TableRow.kind))
  let system := p.isSystemTable name
  let ignored := p.isIgnoredTable name
  Logged.emit (.foundTable name (kind.getD "") (schema.getD "") system ignored)
  if system || ignored then return c
  else Logged.ofExcept (c.insert name name)

def tableNames (p : Policy) (answer : Items) : Logged (Catalog String) := do
  let items ← Logged.ofExcept (Subject.tables.items answer)
  let c ← items.foldlM (addTable p) (empty .table)
  Logged.emit (.loadedTableNames c.size)
  return c

def addView (p : Policy) (c : Catalog String) (item : Item) : Logged (Catalog String) := do
  let row ← Logged.ofExcept (Subject.views.row item)
  let name ← Logged.ofExcept (Subject.views.check (p.viewName row))
  Logged.emit (.foundView name)
  Logged.ofExcept (c.insert name name)

def viewNames (p : Policy) (answer : Items) : Logged (Catalog String) := do
  let items ← Logged.ofExcept (Subject.views.items answer)
  let c ← items.foldlM (addView p) (empty .view)
  Logged.emit (.loadedViews c.size)
  return c

end Catalog

structure ColumnCatalog where
  tables : List (String × List Column)
  deriving DecidableEq, Repr

namespace ColumnCatalog

def ofTables (names : Catalog String) : ColumnCatalog :=
  ⟨names.entries.map fun name => (nameKey name, [])⟩

def columns? (c : ColumnCatalog) (table : String) : Option (List Column) :=
  c.tables.lookup (nameKey table)

def size (c : ColumnCatalog) : Nat := c.tables.length

def append (c : ColumnCatalog) (key : String) (column : Column) : ColumnCatalog :=
  ⟨c.tables.map fun t => if t.1 == key then (t.1, t.2 ++ [column]) else t⟩

end ColumnCatalog

def Column.ofRow (p : Policy) (table name : String) (row : Row) : Except SchemaError Column := do
  let part := Part.column name table
  let typeName ← part.check (row.text? ColumnRow.typeName)
  let typeCode ← part.check (row.int ColumnRow.typeCode)
  let width ← part.check (row.int ColumnRow.size)
  let scale ← part.check (row.int ColumnRow.digits)
  let dataType ← p.dataType typeCode (typeName.getD "") width
  let column : Column := { name, dataType, width, scale }
  let column ← part.check (p.nullabilityStep table column row)
  let column ← part.check (p.autonumberingStep table column row)
  part.check (p.furtherStep table (p.defaultStep table column row) row)

namespace ColumnCatalog

-- Takes in the next row of the column list. Of a row for a table without an entry only the table
-- name is read.
def addColumn (p : Policy) (c : ColumnCatalog) (item : Item) : Logged ColumnCatalog := do
  let row ← Logged.ofExcept (Subject.columns.row item)
  let table ← Logged.ofExcept (Subject.columns.check (row.text ColumnRow.table))
  match c.columns? table with
  | none => return c
  | some columns =>
      let name ← Logged.ofExcept (Subject.columns.check (p.columnName row))
      let column ← Logged.ofExcept (Column.ofRow p table name row)
      if columns.any (·.isNamed name) then
        Logged.fail (.duplicateName .column (table ++ "." ++ name))
      else
        Logged.emit (.foundColumn column table)
        return c.append (nameKey table) column

def ofAnswer (p : Policy) (names : Catalog String) (answer : Items) : Logged ColumnCatalog := do
  let items ← Logged.ofExcept (Subject.columns.items answer)
  let c ← items.foldlM (addColumn p) (ofTables names)
  Logged.emit (.loadedColumns c.size)
  return c

end ColumnCatalog

end DatabaseSchema
