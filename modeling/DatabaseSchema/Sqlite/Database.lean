import DatabaseSchema.Sqlite.Pragma
import DatabaseSchema.Sqlite.Statement

namespace DatabaseSchema.Sqlite

structure StoredIndex where
  name : String
  unique : Bool
  origin : IndexOrigin
  columns : List (Option String)
  deriving DecidableEq, Repr

-- A table or view. The newest index comes first.
structure StoredObject where
  name : String
  kind : ObjectKind
  sql : String
  columns : List TableInfo
  indexes : List StoredIndex := []
  deriving DecidableEq, Repr

structure Schema where
  name : String
  objects : List StoredObject := []
  deriving DecidableEq, Repr

structure Database where
  schemas : List Schema
  deriving DecidableEq, Repr

def Database.empty : Database := ⟨[⟨"main", []⟩, ⟨"temp", []⟩]⟩

namespace Schema

def object? (s : Schema) (name : String) : Option StoredObject :=
  s.objects.find? (Text.sameAscii ·.name name)

def hasIndex (s : Schema) (name : String) : Bool :=
  s.objects.any fun o => o.indexes.any (Text.sameAscii ·.name name)

def isFree (s : Schema) (name : String) : Bool :=
  (s.object? name).isNone && !s.hasIndex name && !isSystemName name

def updateObject (s : Schema) (name : String) (f : StoredObject → StoredObject) : Schema :=
  { s with objects := s.objects.map fun o => if Text.sameAscii o.name name then f o else o }

def removeObject (s : Schema) (name : String) : Schema :=
  { s with objects := s.objects.filter fun o => !Text.sameAscii o.name name }

end Schema

namespace Database

def schema? (d : Database) (name : String) : Option Schema :=
  d.schemas.find? (Text.sameAscii ·.name name)

def updateSchema (d : Database) (name : String) (f : Schema → Schema) : Database :=
  ⟨d.schemas.map fun s => if Text.sameAscii s.name name then f s else s⟩

def searchOrder (d : Database) : List Schema :=
  d.schemas.filter (·.name == "temp") ++ d.schemas.filter (·.name != "temp")

def locate? (d : Database) (database : Option String) (holds : Schema → Bool) : Option Schema :=
  match database with
  | some name => (d.schema? name).filter holds
  | none => d.searchOrder.find? holds

end Database

namespace TableDefinition

def hasDistinctColumns (t : TableDefinition) : Bool :=
  let names := t.columns.map fun c => c.name.map Char.toLower
  names.eraseDups.length == names.length

def columnNames (t : TableDefinition) : List String := t.columns.map (·.name)

def isIntegerColumn (t : TableDefinition) (name : String) : Bool :=
  t.columns.any fun c =>
    Text.sameAscii c.name name && Text.sameAscii (Text.trim (c.type.getD "")) "INTEGER"

def key? (t : TableDefinition) : Option (List String) :=
  match t.columns.find? (·.key), t.primaryKey with
  | some c, _ => some [c.name]
  | none, key => key

def hasIntegerKey (t : TableDefinition) : Bool :=
  match t.key? with
  | some [name] => t.isIntegerColumn name
  | _ => false

def isAutoincrement (t : TableDefinition) : Bool := t.columns.any (·.autoincrement)

def isSound (t : TableDefinition) : Bool :=
  let keys := t.columns.countP (·.key) + t.primaryKey.toList.length
  let known (names : List String) : Bool :=
    !names.isEmpty && names.all fun n => (columnNamed? t.columnNames n).isSome
  !t.columns.isEmpty && t.hasDistinctColumns && keys ≤ 1
    && t.columns.all (fun c => !c.autoincrement || (c.key && t.isIntegerColumn c.name))
    && t.primaryKey.all known && t.uniques.all (known ·.columns)
    && (!t.withoutRowid || (keys == 1 && !t.isAutoincrement))

def spelt (t : TableDefinition) (names : List String) : List String :=
  names.filterMap (columnNamed? t.columnNames)

end TableDefinition

-- Makes room for a constraint: an index over the same columns serves for both constraints, and
-- then backs the primary key if either is the primary key.
def addConstraint (table : String) (origin : IndexOrigin) (indexes : List StoredIndex)
    (columns : List String) : List StoredIndex :=
  let terms := columns.map some
  if indexes.any (·.columns == terms) then
    if origin = .primaryKey then
      indexes.map fun i => if i.columns == terms then { i with origin := .primaryKey } else i
    else indexes
  else
    let name := "sqlite_autoindex_" ++ table ++ "_" ++ toString (indexes.length + 1)
    ⟨name, true, origin, terms⟩ :: indexes

namespace TableDefinition

def constraints (t : TableDefinition) : List (IndexOrigin × List String) :=
  let ofColumn (c : ColumnDefinition) : List (IndexOrigin × List String) :=
    (if c.key && !t.hasIntegerKey then [(.primaryKey, [c.name])] else [])
      ++ (if c.unique then [(.uniqueConstraint, [c.name])] else [])
  let key := match t.primaryKey with
    | some names => if t.hasIntegerKey then [] else [(IndexOrigin.primaryKey, t.spelt names)]
    | none => []
  let late := if t.withoutRowid && t.hasIntegerKey then
      [(IndexOrigin.primaryKey, t.spelt (t.key?.getD []))]
    else []
  t.columns.flatMap ofColumn ++ key
    ++ t.uniques.map (fun u => (.uniqueConstraint, t.spelt u.columns)) ++ late

def keptKey (t : TableDefinition) : List String :=
  let names := t.spelt (t.key?.getD [])
  if t.withoutRowid then names.eraseDups else names

def indexes (t : TableDefinition) : List StoredIndex :=
  let made := t.constraints.foldl (fun is c => addConstraint t.name c.1 is c.2) []
  if t.withoutRowid then
    made.map fun i => if i.origin = .primaryKey then { i with columns := i.columns.eraseDups } else i
  else made

def keyPlace (t : TableDefinition) (name : String) : Nat :=
  match t.keptKey.findIdx? (· == name) with
  | some i => i + 1
  | none => 0

def keptDefault (sql : String) : String :=
  let cs := Text.trimChars sql.toList
  match cs, cs.getLast? with
  | '(' :: rest, some ')' => String.ofList (Text.trimChars rest.dropLast)
  | cs, _ => String.ofList cs

def columnInfo (t : TableDefinition) (c : ColumnDefinition) : TableInfo :=
  let place := t.keyPlace c.name
  { name := c.name
    declaredType := Text.trim (c.type.getD "")
    notNull := c.notNull || (t.withoutRowid && 0 < place)
    default := c.default.map keptDefault
    key := Int32.ofNat place }

def stored (t : TableDefinition) : StoredObject :=
  { name := t.name, kind := .table, sql := t.sql, columns := t.columns.map t.columnInfo,
    indexes := t.indexes }

end TableDefinition

def sequenceTable : StoredObject :=
  { name := "sqlite_sequence", kind := .table, sql := "CREATE TABLE sqlite_sequence(name,seq)",
    columns := ["name", "seq"].map fun n => ⟨n, "", false, none, 0⟩ }

def Schema.createTable (s : Schema) (t : TableDefinition) : Option Schema :=
  if s.isFree t.name && t.isSound then
    let needsSequence := t.isAutoincrement && (s.object? sequenceTable.name).isNone
    some { s with
      objects := s.objects ++ [t.stored] ++ (if needsSequence then [sequenceTable] else []) }
  else none

def viewObject (name : String) : StoredObject :=
  { name, kind := .view, sql := "CREATE VIEW " ++ quoteName name ++ " AS SELECT 1",
    columns := [⟨"1", "", false, none, 0⟩] }

def Schema.createView (s : Schema) (name : String) : Option Schema :=
  if s.isFree name then some { s with objects := s.objects ++ [viewObject name] } else none

def Schema.createIndex (s : Schema) (i : IndexDefinition) : Option Schema := do
  let o ← s.object? i.table
  if o.kind = .view || isSystemName o.name || !s.isFree i.name || i.terms.isEmpty then none
  else
    let columns ← i.terms.mapM (·.resolve? (o.columns.map (·.name)))
    let stored : StoredIndex := ⟨i.name, i.unique, .statement, columns.flatten⟩
    return s.updateObject o.name fun o => { o with indexes := stored :: o.indexes }

def Schema.dropIndex (s : Schema) (name : String) : Option Schema :=
  let isNamed (i : StoredIndex) : Bool := Text.sameAscii i.name name
  let found := s.objects.flatMap fun o => o.indexes.filter isNamed
  if found.any (·.origin == .statement) then
    some { s with
      objects := s.objects.map fun o => { o with indexes := o.indexes.filter (!isNamed ·) } }
  else none

def Schema.dropObject (s : Schema) (kind : ObjectKind) (name : String) : Option Schema := do
  let o ← s.object? name
  if o.kind = kind && !isSystemName o.name then some (s.removeObject name) else none

namespace Database

def changed (d : Database) (s : Schema) (outcome : Option Schema) : Option Database :=
  outcome.map fun s' => d.updateSchema s.name fun _ => s'

-- An index goes where its table is; without a schema that is the main one, unless a temporary
-- table has the name.
def indexSchema? (d : Database) (database : Option String) (table : String) : Option Schema :=
  match database with
  | some name => d.schema? name
  | none =>
      match (d.schema? "temp").filter fun s => (s.object? table).isSome with
      | some s => some s
      | none => d.schema? "main"

def attachLimit : Nat := 10

def execute (d : Database) : Statement → Option Database
  | .attach name =>
      if (d.schema? name).isSome || attachLimit + 2 ≤ d.schemas.length then none
      else some ⟨d.schemas ++ [⟨name, []⟩]⟩
  | .createTable database t => do
      let s ← d.schema? (database.getD "main")
      d.changed s (s.createTable t)
  | .createView database name => do
      let s ← d.schema? (database.getD "main")
      d.changed s (s.createView name)
  | .createIndex database i => do
      let s ← d.indexSchema? database i.table
      d.changed s (s.createIndex i)
  | .drop database .index name => do
      let s ← d.locate? database (·.hasIndex name)
      d.changed s (s.dropIndex name)
  | .drop database .table name => do
      let s ← d.locate? database fun s => (s.object? name).isSome
      d.changed s (s.dropObject .table name)
  | .drop database .view name => do
      let s ← d.locate? database fun s => (s.object? name).isSome
      d.changed s (s.dropObject .view name)

def build (statements : List Statement) : Database :=
  statements.foldl (fun d s => (d.execute s).getD d) empty

def quoteText (s : String) : String :=
  String.ofList
    ('\'' :: s.toList.flatMap (fun c => if c = '\'' then ['\'', '\''] else [c]) ++ ['\''])

def requireSchema (d : Database) (database : String) : Except String Schema :=
  match d.schema? database with
  | some s => .ok s
  | none => .error ("unknown database " ++ quoteText database)

def objectOf? (d : Database) (database name : String) : Except String (Option StoredObject) := do
  return (← d.requireSchema database).object? name

def master (d : Database) (database : String) : Except String (List MasterEntry) :=
  match d.schema? database with
  | none => .error ("no such table: " ++ database ++ ".sqlite_master")
  | some s =>
      let entries := s.objects.map fun o => (⟨o.name, o.kind, some o.sql⟩ : MasterEntry)
      .ok (entries.mergeSort fun a b => a.name ≤ b.name)

def tableInfo (d : Database) (database table : String) : Except String (List TableInfo) := do
  return ((← d.objectOf? database table).map (·.columns)).getD []

def indexList (d : Database) (database table : String) : Except String (List IndexListing) := do
  let o ← d.objectOf? database table
  return ((o.map (·.indexes)).getD []).map fun i => ⟨i.name, i.unique, i.origin⟩

def indexInfo (d : Database) (database index : String) : Except String (List IndexTerm) := do
  let s ← d.requireSchema database
  let indexes := s.objects.flatMap (·.indexes)
  match indexes.find? (Text.sameAscii ·.name index) with
  | some i => return i.columns.zipIdx.map fun (name, place) => ⟨place, name⟩
  | none => return []

def pragmas (d : Database) : Pragmas :=
  ⟨d.master, d.tableInfo, d.indexList, d.indexInfo⟩

def source (d : Database) : Source := d.pragmas.source

end Database

end DatabaseSchema.Sqlite
