import DatabaseSchema.Connection
import DatabaseSchema.Environment
import DatabaseSchema.Json.Parser
import DatabaseSchema.Sqlite.Database

namespace DatabaseSchema.Sqlite

def member? (j : Json) (name : String) : Option Json :=
  match j with
  | .object members => members.lookup name
  | _ => none

def textOf? (j : Json) (name : String) : Option String := do (← member? j name).text?

def flagOf (j : Json) (name : String) : Bool :=
  match member? j name with
  | some (.bool b) => b
  | _ => false

def textsOf? (j : Json) (name : String) : Option (List String) := do (← member? j name).texts?

def ColumnDefinition.ofJson? (j : Json) : Option ColumnDefinition := do
  return {
    name := ← textOf? j "name"
    type := textOf? j "type"
    notNull := flagOf j "not_null"
    default := textOf? j "default"
    key := flagOf j "pk"
    autoincrement := flagOf j "autoinc"
    unique := flagOf j "unique" }

def IndexedTerm.ofJson? (j : Json) : Option IndexedTerm :=
  match j with
  | .text name => some (.column name)
  | j => (textOf? j "expr").map .expression

def TableDefinition.ofJson? (j : Json) : Option TableDefinition := do
  let columns ← (← member? j "columns").list?
  let uniques := ((member? j "uniques").bind Json.list?).getD []
  return {
    name := ← textOf? j "table"
    columns := ← columns.mapM ColumnDefinition.ofJson?
    primaryKey := textsOf? j "primary_key"
    uniques := ← uniques.mapM fun j => j.texts?.map fun columns => { columns }
    withoutRowid := flagOf j "without_rowid" }

def IndexDefinition.ofJson? (j : Json) : Option IndexDefinition := do
  let terms ← (← member? j "columns").list?
  return {
    name := ← textOf? j "index"
    table := ← textOf? j "table"
    terms := ← terms.mapM IndexedTerm.ofJson?
    unique := flagOf j "unique" }

def DropKind.ofName? : String → Option DropKind
  | "TABLE" => some .table
  | "INDEX" => some .index
  | "VIEW" => some .view
  | _ => none

def Statement.ofJson? (j : Json) : Option Statement := do
  let database := textOf? j "db"
  if let some name := textOf? j "attach" then return .attach name
  if let some kind := textOf? j "drop" then
    return .drop database (← DropKind.ofName? kind) (← textOf? j "name")
  if (member? j "index").isSome then return .createIndex database (← IndexDefinition.ofJson? j)
  if (member? j "table").isSome then return .createTable database (← TableDefinition.ofJson? j)
  return .createView database (← textOf? j "view")

def script? (j : Json) : Option (List Statement) := do
  (← j.list?).mapM Statement.ofJson?

inductive OpenFailure where
  | notThere (path : String)
  | isDirectory
  | nulAt (place : Nat)
  deriving DecidableEq, Repr

def OpenFailure.message : OpenFailure → String
  | notThere path => "unable to open database file: " ++ path
  | isDirectory => "disk I/O error"
  | nulAt place => "nul byte found in provided data at position: " ++ toString place

def Database.saved (d : Database) : Database :=
  match d.schema? "main" with
  | some s => empty.updateSchema "main" fun _ => s
  | none => empty

structure Disk where
  contents : List (Location × Database) := []
  files : Files := []

def isTransient (path : String) : Bool :=
  path.isEmpty || path == ":memory:"

def nulPlace? (path : String) : Option Nat :=
  (Text.splitFirst? '\x00' path.toList).map fun parts => (String.ofList parts.1).utf8ByteSize

-- One byte is as good as none; anything else that is not a database is found out when it is read.
def pragmasOf : File → Except OpenFailure Pragmas
  | .directory => .error .isDirectory
  | .content bytes =>
      if bytes.size ≤ 1 then .ok Database.empty.pragmas
      else .ok (.failing "file is not a database")

namespace Disk

def pragmas (d : Disk) (path : String) : Except OpenFailure Pragmas :=
  match nulPlace? path with
  | some place => .error (.nulAt place)
  | none =>
      if isTransient path then .ok Database.empty.pragmas
      else
        let place := Location.ofPath path
        match d.contents.lookup place, d.files.at? place with
        | some database, _ => .ok database.pragmas
        | none, some f => pragmasOf f
        | none, none => .error (.notThere path)

def databases (d : Disk) : Databases := fun path =>
  match d.pragmas path with
  | .ok p => .ok p.source
  | .error failure => .error failure.message

end Disk

end DatabaseSchema.Sqlite
