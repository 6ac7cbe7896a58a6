import DatabaseSchema.Text

namespace DatabaseSchema

inductive DataType where
  | integer
  | bigInteger
  | decimal
  | string
  | boolean
  | date
  | blob
  | clob
  deriving DecidableEq, Repr

namespace DataType

def all : List DataType :=
  [integer, bigInteger, decimal, string, boolean, date, blob, clob]

def name : DataType → String
  | integer => "INTEGER"
  | bigInteger => "BIG_INTEGER"
  | decimal => "DECIMAL"
  | string => "STRING"
  | boolean => "BOOLEAN"
  | date => "DATE"
  | blob => "BLOB"
  | clob => "CLOB"

def ofName? (s : String) : Option DataType :=
  all.find? (·.name == s)

theorem ofName?_name (t : DataType) : ofName? t.name = some t := by
  cases t <;> decide

def isNumeric : DataType → Bool
  | integer | bigInteger | decimal => true
  | _ => false

def hasWidth : DataType → Bool
  | decimal | string => true
  | _ => false

end DataType

structure Column where
  name : String
  dataType : DataType
  width : Int32
  scale : Int32
  nullable : Bool := false
  primaryKey : Bool := false
  autonumbered : Bool := false
  autonumberStart : Int32 := -1
  defaultValue : String := ""
  deriving DecidableEq, Repr

namespace Column

def isNamed (c : Column) (name : String) : Bool :=
  sameName c.name name

def display (c : Column) : String :=
  c.name ++ " " ++ c.dataType.name
    ++ (if c.dataType.hasWidth then
          "(" ++ toString c.width.toInt ++ "," ++ toString c.scale.toInt ++ ")"
        else "")
    ++ (if c.primaryKey then " PK" else "")
    ++ (if c.nullable then "" else " NOT NULL")
    ++ (if c.autonumbered then " AUTONUMBER(" ++ toString c.autonumberStart.toInt ++ ")" else "")
    ++ (if c.defaultValue.isEmpty then "" else " DEFAULT '" ++ c.defaultValue ++ "'")

end Column

structure Index where
  name : String
  unique : Bool
  columnNames : List String
  deriving DecidableEq, Repr

def Index.display (i : Index) : String :=
  i.name ++ (if i.unique then " UNIQUE" else "") ++ " (" ++ ", ".intercalate i.columnNames ++ ")"

inductive View where
  | database (name : String)
  | declared (name : String) (selectStatement : String) (dependencies : List String)
  deriving DecidableEq, Repr

namespace View

def name : View → String
  | database name => name
  | declared name _ _ => name

def selectStatement? : View → Option String
  | database _ => none
  | declared _ select _ => some select

def dependencies? : View → Option (List String)
  | database _ => none
  | declared _ _ dependencies => some dependencies

end View

structure TableSnapshot where
  name : String
  columns : List Column
  indexes : List Index
  primaryKey : List String
  deriving DecidableEq, Repr

def TableSnapshot.column? (t : TableSnapshot) (name : String) : Option Column :=
  t.columns.find? (·.isNamed name)

structure SchemaSnapshot where
  tables : List TableSnapshot
  views : List String
  deriving DecidableEq, Repr

def SchemaSnapshot.table? (s : SchemaSnapshot) (name : String) : Option TableSnapshot :=
  s.tables.find? (sameName ·.name name)

def SchemaSnapshot.isEmpty (s : SchemaSnapshot) : Bool :=
  s.tables.isEmpty

def TableSnapshot.text (t : TableSnapshot) : String :=
  "TABLE " ++ t.name ++ "\n"
    ++ String.join (t.columns.map fun c => "  " ++ c.display ++ "\n")
    ++ (if t.primaryKey.isEmpty then "" else
          "  PRIMARY KEY (" ++ ", ".intercalate t.primaryKey ++ ")\n")
    ++ String.join (t.indexes.map fun i => "  INDEX " ++ i.display ++ "\n")

def viewLine (name : String) : String :=
  "VIEW " ++ name ++ "\n"

def SchemaSnapshot.text (s : SchemaSnapshot) : String :=
  "\n".intercalate (s.tables.map TableSnapshot.text)
    ++ (if s.views.isEmpty then "" else
          (if s.tables.isEmpty then "" else "\n") ++ String.join (s.views.map viewLine))

end DatabaseSchema
