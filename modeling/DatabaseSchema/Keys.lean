import DatabaseSchema.Catalog

namespace DatabaseSchema.PrimaryKey

def entry (table : String) (item : Item) : Except SchemaError (Int32 × String) := do
  let row ← (Subject.primaryKey table).row item
  let column ← (Part.primaryKey table).check (row.text KeyRow.column)
  let sequence ← (Part.primaryKey table).check (row.int KeyRow.sequence)
  return (sequence, column)

def inSequence (entries : List (Int32 × String)) : List String :=
  (entries.mergeSort fun a b => a.1 ≤ b.1).map (·.2)

def ofAnswer (table : String) (answer : Items) : Logged (List String) := do
  let items ← Logged.ofExcept ((Subject.primaryKey table).items answer)
  let entries ← Logged.ofExcept (items.mapM (entry table))
  let key := inSequence entries
  Logged.emit (.foundPrimaryKey key table)
  return key

def mark (columns : List Column) (key : List String) : List Column :=
  columns.map fun c => if key.any c.isNamed then { c with primaryKey := true } else c

-- Walks over the columns, and puts the column that the next key name stands for wherever a
-- flagged column stands. Once the key is used up, flagged columns stay.
def arrange (all : List Column) : List String → List Column → List Column
  | _, [] => []
  | [], columns => columns
  | name :: key, c :: columns =>
      if c.primaryKey then
        (all.find? (·.isNamed name)).toList ++ arrange all key columns
      else c :: arrange all (name :: key) columns

def order (table : String) (key : List String) (columns : List Column) :
    Except SchemaError (List Column) :=
  match key.find? fun name => !columns.any (·.isNamed name) with
  | some missing => .error (.missingKeyColumn table missing (columns.map (·.name)))
  | none => .ok (arrange columns key columns)

end DatabaseSchema.PrimaryKey

namespace DatabaseSchema.Index

def appendColumn (indexes : List Index) (name column : String) : List Index :=
  indexes.map fun i =>
    if i.name == name then { i with columnNames := i.columnNames ++ [column] } else i

-- Takes in the next row. The first row of an index decides whether it is unique. Index names
-- count with their case.
def addRow (p : Policy) (table : String) (indexes : List Index) (item : Item) :
    Logged (List Index) := do
  let row ← Logged.ofExcept ((Subject.indexes table).row item)
  match ← Logged.ofExcept ((Part.table table).check (p.indexName? row)) with
  | none => return indexes
  | some name =>
      if p.isKeyIndex name then return indexes
      else if p.isIgnoredIndex name then
        Logged.emit (.ignoringIndex name table)
        return indexes
      else
        let part := Part.index name table
        let column ← Logged.ofExcept (part.check (row.text IndexRow.column))
        if indexes.any (·.name == name) then return appendColumn indexes name column
        else
          let nonUnique ← Logged.ofExcept (part.check (row.boolean IndexRow.nonUnique))
          return indexes ++ [⟨name, !nonUnique, [column]⟩]

def ofItems (p : Policy) (table : String) (items : List Item) : Logged (List Index) := do
  let indexes ← items.foldlM (addRow p table) []
  Logged.emitAll (indexes.map (.foundIndex · table))
  return indexes

def ofAnswer (p : Policy) (table : String) (answer : Items) : Logged (List Index) := do
  let items ← Logged.ofExcept ((Subject.indexes table).items answer)
  ofItems p table items

end DatabaseSchema.Index
