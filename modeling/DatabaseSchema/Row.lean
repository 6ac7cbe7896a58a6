import DatabaseSchema.Text
import DatabaseSchema.Text.Category

namespace DatabaseSchema

inductive Cell where
  | null
  | integer (n : Int64)
  | boolean (b : Bool)
  | text (s : String)
  deriving DecidableEq, Repr

def Cell.display : Cell → String
  | null => "NULL"
  | integer n => toString n.toInt
  | boolean b => if b then "true" else "false"
  | text s => s

def Cell.kind : Cell → String
  | null => "null"
  | integer _ => "integer"
  | boolean _ => "boolean"
  | text _ => "text"

abbrev Cell.ofInt32 (n : Int32) : Cell := integer n.toInt64

def Cell.yesNo (b : Bool) : Cell := text (if b then "YES" else "NO")

def Cell.ofText? (s : Option String) : Cell := (s.map text).getD null

structure Row where
  cells : List Cell
  deriving DecidableEq, Repr

inductive Reading where
  | integer
  | boolean
  deriving DecidableEq, Repr

def Reading.name : Reading → String
  | integer => "integer"
  | boolean => "boolean"

inductive CellError where
  | missing (position width : Nat)
  | null (position : Nat)
  | incompatible (position : Nat) (cell : Cell) (expected : Reading)
  deriving DecidableEq, Repr

def CellError.message : CellError → String
  | missing position width =>
      "no value at position " ++ toString position ++ " (row has " ++ toString width ++ " values)"
  | null position => "value at position " ++ toString position ++ " is null"
  | incompatible position cell expected =>
      "cannot read " ++ cell.kind ++ " value '" ++ cell.display ++ "' at position "
        ++ toString position ++ " as " ++ expected.name

def truth? (s : String) : Option Bool :=
  match String.ofList ((Text.trimChars s.toList).map Char.toLower) with
  | "true" | "1" | "y" | "yes" => some true
  | "false" | "0" | "n" | "no" | "" => some false
  | _ => none

namespace Row

def cell (r : Row) (position : Nat) : Except CellError Cell :=
  match r.cells[position]? with
  | some c => .ok c
  | none => .error (.missing position r.cells.length)

def text? (r : Row) (position : Nat) : Except CellError (Option String) := do
  match ← r.cell position with
  | .null => return none
  | c => return some c.display

def text (r : Row) (position : Nat) : Except CellError String := do
  match ← r.text? position with
  | some s => return s
  | none => throw (.null position)

def int (r : Row) (position : Nat) : Except CellError Int32 := do
  let c ← r.cell position
  let n? := match c with
    | .null => some 0
    | .integer n => Text.narrow? n.toInt
    | .boolean b => some (if b then 1 else 0)
    | .text s => Text.int32? (Text.trimChars s.toList)
  match n? with
  | some n => return n
  | none => throw (.incompatible position c .integer)

def boolean (r : Row) (position : Nat) : Except CellError Bool := do
  let c ← r.cell position
  let b? := match c with
    | .null => some false
    | .integer n => some (n != 0)
    | .boolean b => some b
    | .text s => truth? s
  match b? with
  | some b => return b
  | none => throw (.incompatible position c .boolean)

end Row

namespace TableRow
abbrev schema : Nat := 0
abbrev name : Nat := 1
abbrev kind : Nat := 2
end TableRow

namespace ColumnRow
abbrev table : Nat := 0
abbrev name : Nat := 1
abbrev typeCode : Nat := 2
abbrev typeName : Nat := 3
abbrev size : Nat := 4
abbrev digits : Nat := 5
abbrev isNullable : Nat := 6
abbrev isAutonumbered : Nat := 7
abbrev remarks : Nat := 9
end ColumnRow

namespace KeyRow
abbrev table : Nat := 0
abbrev column : Nat := 1
abbrev sequence : Nat := 2
end KeyRow

namespace IndexRow
abbrev table : Nat := 0
abbrev nonUnique : Nat := 1
abbrev name : Nat := 2
abbrev column : Nat := 4
end IndexRow

namespace Row

def tableName (r : Row) : Except CellError String := r.text TableRow.name

def viewName (r : Row) : Except CellError String := r.text TableRow.name

def columnName (r : Row) : Except CellError String := r.text ColumnRow.name

def indexName? (r : Row) : Except CellError (Option String) := r.text? IndexRow.name

end Row

end DatabaseSchema
