import DatabaseSchema.Catalog
import DatabaseSchema.Keys
import DatabaseSchema.Snapshot

namespace DatabaseSchema

structure Context where
  policy : Policy
  schema : Option String := none

structure Table where
  name : String
  primaryKey : List String
  entry : List Column
  context : Context
  columns : Option (List Column) := none
  indexes : Option (List Index) := none

structure Provider where
  context : Context
  keptNames : Option (Catalog String) := none
  keptColumns : Option ColumnCatalog := none
  keptViews : Option (Catalog String) := none
  numbers : List (String × Nat) := []

-- A provider, all tables ever handed out, whose numbers are their places in the list, the queries
-- asked so far, latest first, and what was reported.
structure Session where
  provider : Provider
  handles : List Table := []
  history : List Query := []
  events : List Event := []

def Session.start (context : Context) : Session := { provider := { context } }

def Session.withPolicy (s : Session) (policy : Policy) : Session :=
  { s with provider := { context := { s.provider.context with policy } } }

def Session.withSchema (s : Session) (schema : String) : Session :=
  { s with provider := { context := { s.provider.context with schema := some schema } } }

-- What is done with a source in a session. A failure keeps what the session has gained.
abbrev Act := ReaderT Source (ExceptT SchemaError (StateM Session))

def Act.run (act : Act α) (source : Source) (s : Session) : Except SchemaError α × Session :=
  act source s

def report (events : List Event) : Act Unit :=
  modify fun s => { s with events := s.events ++ events }

def ask (q : Query) : Act Items := do
  let s ← get
  let a := (← read).answer s.history q
  set { s with history := q :: s.history, events := s.events ++ a.events }
  return a.items

def perform (x : Logged α) : Act α := do
  report x.events
  match x.result with
  | .ok a => return a
  | .error e => throw e

namespace Context

def loadTableNames (c : Context) : Act (Catalog String) := do
  perform (Catalog.tableNames c.policy (← ask (.tables c.schema c.policy.tableKinds)))

def loadColumns (c : Context) (names : Catalog String) : Act ColumnCatalog := do
  perform (ColumnCatalog.ofAnswer c.policy names (← ask (.columns c.schema)))

def loadViews (c : Context) : Act (Catalog String) := do
  perform (Catalog.viewNames c.policy (← ask (.tables c.schema c.policy.viewKinds)))

def loadPrimaryKey (c : Context) (table : String) : Act (List String) := do
  perform (PrimaryKey.ofAnswer table (← ask (.primaryKeys c.schema table)))

def loadIndexes (c : Context) (table : String) : Act (List Index) := do
  perform (Index.ofAnswer c.policy table (← ask (.indexes c.schema table false false)))

end Context

namespace Provider

def modifySelf (f : Provider → Provider) : Act Unit :=
  modify fun s => { s with provider := f s.provider }

def tableCatalog : Act (Catalog String) := do
  let p := (← get).provider
  match p.keptNames with
  | some c => return c
  | none =>
      let c ← p.context.loadTableNames
      modifySelf fun p => { p with keptNames := some c }
      return c

def columnCatalog : Act ColumnCatalog := do
  let p := (← get).provider
  match p.keptColumns with
  | some c => return c
  | none =>
      let names ← tableCatalog
      let c ← p.context.loadColumns names
      modifySelf fun p => { p with keptColumns := some c }
      return c

def viewCatalog : Act (Catalog String) := do
  let p := (← get).provider
  match p.keptViews with
  | some c => return c
  | none =>
      let c ← p.context.loadViews
      modifySelf fun p => { p with keptViews := some c }
      return c

def isEmpty : Act Bool := return (← tableCatalog).isEmpty

def tableExists (name : String) : Act Bool := return (← tableCatalog).contains name

def tableNames : Act (List String) := return (← tableCatalog).entries

def viewExists (name : String) : Act Bool := return (← viewCatalog).contains name

def viewNames : Act (List String) := return (← viewCatalog).entries

def views : Act (List View) := return (← viewCatalog).entries.map .database

def getView (name : String) : Act View := do
  match (← viewCatalog).get? name with
  | some name => return .database name
  | none => throw (.viewNotFound name)

def viewsByName : Act (List View) := do
  (← viewNames).mapM getView

def loadTable (name : String) : Act Table := do
  let context := (← get).provider.context
  match (← tableCatalog).get? name with
  | none => throw (.tableNotFound name)
  | some table =>
      let primaryKey ← context.loadPrimaryKey table
      let entry := ((← columnCatalog).columns? table).getD []
      report [.loadedTable table]
      return { name := table, primaryKey, entry, context }

def getTable (name : String) : Act Nat := do
  let key := nameKey name
  match (← get).provider.numbers.lookup key with
  | some number => return number
  | none =>
      let table ← loadTable name
      let number := (← get).handles.length
      modify fun s => { s with handles := s.handles ++ [table] }
      modifySelf fun p => { p with numbers := (key, number) :: p.numbers }
      return number

def tables : Act (List Nat) := do
  (← tableNames).mapM getTable

end Provider

namespace Table

def columnsOf (number : Nat) : Act (List Column) := do
  match (← get).handles[number]? with
  | none => return []
  | some t =>
      match t.columns with
      | some columns => return columns
      | none =>
          match PrimaryKey.order t.name t.primaryKey (PrimaryKey.mark t.entry t.primaryKey) with
          | .error e => throw e
          | .ok columns =>
              modify fun s =>
                { s with handles := s.handles.set number { t with columns := some columns } }
              return columns

def columnOf? (number : Nat) (name : String) : Act (Option Column) :=
  return (← columnsOf number).find? (·.isNamed name)

def indexesOf (number : Nat) : Act (List Index) := do
  match (← get).handles[number]? with
  | none => return []
  | some t =>
      match t.indexes with
      | some indexes => return indexes
      | none =>
          report [.loadingIndexes t.name]
          let indexes ← t.context.loadIndexes t.name
          modify fun s =>
            { s with handles := s.handles.modify number ({ · with indexes := some indexes }) }
          return indexes

def snapshotOf (number : Nat) : Act TableSnapshot := do
  let columns ← columnsOf number
  let indexes ← indexesOf number
  let t? := (← get).handles[number]?
  return {
    name := (t?.map (·.name)).getD ""
    columns
    indexes
    primaryKey := (t?.map (·.primaryKey)).getD [] }

end Table

def Provider.snapshot : Act SchemaSnapshot := do
  let tables ← (← Provider.tables).mapM Table.snapshotOf
  let views ← Provider.viewNames
  report [.capturedSnapshot tables.length views.length]
  return { tables, views }

end DatabaseSchema
