import DatabaseSchema.Policy
import DatabaseSchema.Source
import DatabaseSchema.Text
import DatabaseSchema.Text.Category

namespace DatabaseSchema.Sqlite

structure DeclaredType where
  typeCode : Int32
  typeName : String
  width : Int32
  scale : Int32
  deriving DecidableEq, Repr

namespace DeclaredType

def codeOf (name : String) : Int32 :=
  let has (word : String) : Bool := Text.contains name word
  if name.isEmpty then 2004
  else if has "BIGINT" then -5
  else if has "TINYINT" then -6
  else if has "SMALLINT" then 5
  else if has "INT" then 4
  else if has "BOOL" || name == "BIT" then 16
  else if has "CLOB" then 2005
  else if has "CHAR" then if has "VAR" then 12 else 1
  else if has "TEXT" then 12
  else if has "BLOB" then 2004
  else if has "BINARY" then -3
  else if has "DOUB" then 8
  else if has "FLOA" then 6
  else if has "REAL" then 7
  else if has "DEC" then 3
  else if has "NUMERIC" then 2
  else if has "DATETIME" || has "TIMESTAMP" then 93
  else if has "DATE" then 91
  else if has "TIME" then 92
  else 2

def arguments (cs : List Char) : List (List Char) :=
  let body := ((Text.trimEndChars cs).reverse.dropWhile (· == ')')).reverse
  Text.splitOn ',' body

def number (argument : List Char) : Int32 :=
  (Text.int32? (Text.trimChars argument)).getD 0

def ofUpper (cs : List Char) : DeclaredType :=
  match Text.splitFirst? '(' cs with
  | some (base, rest) =>
      let name := String.ofList (Text.trimChars base)
      let numbers := (arguments rest).map number
      ⟨codeOf name, name, numbers[0]?.getD 0, numbers[1]?.getD 0⟩
  | none =>
      let name := String.ofList cs
      ⟨codeOf name, name, 0, 0⟩

def classify (declared : String) : DeclaredType :=
  ofUpper (Text.upper (Text.trim declared)).toList

end DeclaredType

inductive ObjectKind where
  | table
  | view
  deriving DecidableEq, Repr

structure MasterEntry where
  name : String
  kind : ObjectKind
  sql : Option String
  deriving DecidableEq, Repr

structure TableInfo where
  name : String
  declaredType : String
  notNull : Bool
  default : Option String
  key : Int32
  deriving DecidableEq, Repr

inductive IndexOrigin where
  | primaryKey
  | uniqueConstraint
  | statement
  deriving DecidableEq, Repr

structure IndexListing where
  name : String
  unique : Bool
  origin : IndexOrigin
  deriving DecidableEq, Repr

structure IndexTerm where
  sequence : Nat
  name : Option String
  deriving DecidableEq, Repr

structure Pragmas where
  master : String → Except String (List MasterEntry)
  tableInfo : String → String → Except String (List TableInfo)
  indexList : String → String → Except String (List IndexListing)
  indexInfo : String → String → Except String (List IndexTerm)

def defaultDatabase : String := "main"

def isSystemName (name : String) : Bool :=
  "sqlite_".toList.isPrefixOf (name.map Char.toLower).toList

def MasterEntry.kindName (e : MasterEntry) : String :=
  if isSystemName e.name then "SYSTEM TABLE"
  else match e.kind with
    | .view => "VIEW"
    | .table => "TABLE"

def isAutonumbered (sql : Option String) (columns : List TableInfo) (c : TableInfo) : Bool :=
  sql.any (fun sql => Text.contains (Text.upper sql) "AUTOINCREMENT")
    && columns.countP (0 < ·.key) == 1
    && c.key == 1
    && Text.sameAscii c.declaredType "INTEGER"

def tableRow (database : String) (e : MasterEntry) : Row :=
  ⟨[.text database, .text e.name, .text e.kindName, .null]⟩

def columnRow (e : MasterEntry) (columns : List TableInfo) (c : TableInfo) : Row :=
  let declared := DeclaredType.classify c.declaredType
  ⟨[.text e.name, .text c.name, .ofInt32 declared.typeCode, .text declared.typeName,
    .ofInt32 declared.width, .ofInt32 declared.scale, .yesNo (!c.notNull && c.key == 0),
    .yesNo (isAutonumbered e.sql columns c), .ofText? c.default, .null]⟩

def keyRow (table : String) (c : TableInfo) : Row :=
  ⟨[.text table, .text c.name, .ofInt32 c.key, .null]⟩

structure IndexEntry where
  nonUnique : Bool
  name : String
  ordinal : Nat
  column : Option String
  deriving DecidableEq, Repr

def IndexEntry.le (a b : IndexEntry) : Bool :=
  if a.nonUnique != b.nonUnique then b.nonUnique
  else if a.name != b.name then a.name < b.name
  else a.ordinal ≤ b.ordinal

def IndexEntry.row (table : String) (e : IndexEntry) : Row :=
  ⟨[.text table, .boolean e.nonUnique, .text e.name, .integer (Int64.ofNat e.ordinal),
    .ofText? e.column]⟩

def IndexListing.reportedName (i : IndexListing) : String :=
  if i.origin = .primaryKey then primaryIndexName else i.name

def indexEntries (i : IndexListing) (terms : List IndexTerm) : List IndexEntry :=
  terms.map fun t => ⟨!i.unique, i.reportedName, t.sequence + 1, t.name⟩

namespace Pragmas

def tableItems (p : Pragmas) (database : String) (kinds : List String) : Items := do
  let entries ← p.master database
  let kept := entries.filter fun e => kinds.isEmpty || kinds.contains e.kindName
  return kept.map fun e => .ok (tableRow database e)

def columnsOf (p : Pragmas) (database : String) (e : MasterEntry) : Except String (List Row) := do
  match e.kind with
  | .view => return []
  | .table =>
      let columns ← p.tableInfo database e.name
      return columns.map (columnRow e columns)

def columnItems (p : Pragmas) (database : String) : Items := do
  let entries ← p.master database
  let rows ← entries.mapM (p.columnsOf database)
  return rows.flatten.map .ok

def keyItems (p : Pragmas) (database table : String) : Items := do
  let columns ← p.tableInfo database table
  return (columns.filter (0 < ·.key)).map fun c => .ok (keyRow table c)

def entriesOf (p : Pragmas) (database table : String) (i : IndexListing) :
    Except String (List IndexEntry × List Event) := do
  let terms ← p.indexInfo database i.name
  if terms.any (·.name.isNone) then return ([], [.skippingExpressionIndex i.name table])
  else return (indexEntries i terms, [])

-- All indexes one after another; what is skipped before a failure is reported all the same.
def allEntries (p : Pragmas) (database table : String) :
    List IndexListing → Except String (List IndexEntry) × List Event
  | [] => (.ok [], [])
  | i :: rest =>
      match p.entriesOf database table i with
      | .error message => (.error message, [])
      | .ok (entries, events) =>
          let (more, later) := allEntries p database table rest
          (more.map (entries ++ ·), events ++ later)

def indexAnswer (p : Pragmas) (database table : String) (uniqueOnly : Bool) : Answer :=
  match p.indexList database table with
  | .error message => ⟨.error message, []⟩
  | .ok listed =>
      let (entries, events) :=
        p.allEntries database table (listed.filter fun i => !uniqueOnly || i.unique)
      ⟨entries.map fun es => (es.mergeSort IndexEntry.le).map fun e => .ok (e.row table), events⟩

def databaseName (schema : Option String) : String := schema.getD defaultDatabase

def answer (p : Pragmas) : Query → Answer
  | .tables schema kinds => ⟨p.tableItems (databaseName schema) kinds, []⟩
  | .columns schema => ⟨p.columnItems (databaseName schema), []⟩
  | .primaryKeys schema table => ⟨p.keyItems (databaseName schema) table, []⟩
  | .indexes schema table uniqueOnly _ => p.indexAnswer (databaseName schema) table uniqueOnly

def source (p : Pragmas) : Source := ⟨fun _ q => p.answer q⟩

def failing (message : String) : Pragmas :=
  ⟨fun _ => .error message, fun _ _ => .error message, fun _ _ => .error message,
    fun _ _ => .error message⟩

end Pragmas

end DatabaseSchema.Sqlite
