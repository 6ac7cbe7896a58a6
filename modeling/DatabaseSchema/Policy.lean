import DatabaseSchema.Error
import DatabaseSchema.Pattern
import DatabaseSchema.Snapshot

namespace DatabaseSchema.TypeCode

def dataType? (code : Int32) : Option DataType :=
  match code.toInt with
  | -6 | 5 | 4 => some .integer
  | -5 => some .bigInteger
  | 6 | 7 | 8 | 2 | 3 => some .decimal
  | 1 | -15 | 12 | -9 | -1 | -16 => some .string
  | 16 | -7 => some .boolean
  | 91 => some .date
  | 2004 | -2 | -3 | -4 => some .blob
  | 2005 | 2011 => some .clob
  | _ => none

def dataType (code : Int32) (typeName : String) (width : Int32) : Except SchemaError DataType :=
  match dataType? code with
  | some t => .ok t
  | none => .error (.unknownType typeName code width)

end DatabaseSchema.TypeCode

namespace DatabaseSchema

namespace Column

def withNullability (c : Column) (r : Row) : Except CellError Column := do
  if (← r.text? ColumnRow.isNullable) = some "YES" then return { c with nullable := true }
  else return c

def withAutonumbering (c : Column) (r : Row) : Except CellError Column := do
  if (← r.text? ColumnRow.isAutonumbered) = some "YES" then
    return { c with autonumbered := true, autonumberStart := -1 }
  else return c

end Column

-- A column is finished from its row in four steps, each of which is told the table. By default
-- they do not look at the table, and the last two go by `defaultValue` and `further`.
structure Policy where
  isSystemTable : String → Bool
  isIgnoredTable : String → Bool
  isKeyIndex : String → Bool
  isIgnoredIndex : String → Bool
  tableKinds : List String := ["TABLE"]
  viewKinds : List String := ["VIEW"]
  tableName : Row → Except CellError String := Row.tableName
  viewName : Row → Except CellError String := Row.viewName
  columnName : Row → Except CellError String := Row.columnName
  indexName? : Row → Except CellError (Option String) := Row.indexName?
  dataType : Int32 → String → Int32 → Except SchemaError DataType := TypeCode.dataType
  defaultValue : String → String
  further : Column → Row → Except CellError Column := fun c _ => .ok c
  nullabilityStep : String → Column → Row → Except CellError Column :=
    fun _ => Column.withNullability
  autonumberingStep : String → Column → Row → Except CellError Column :=
    fun _ => Column.withAutonumbering
  defaultStep : String → Column → Row → Column :=
    fun _ c _ => { c with defaultValue := defaultValue c.name }
  furtherStep : String → Column → Row → Except CellError Column := fun _ => further

def primaryIndexName : String := "PRIMARY"

def performanceIndex : Pattern :=
  let anyCase (c : Char) : Pattern := .one (.folded (.only c))
  [anyCase '_', anyCase 'P', anyCase 'R', anyCase 'F', .repeated (.one .digit) 1 none,
    .look .textEnd].foldr .seq .empty

def isPerformanceIndex (index : String) : Bool :=
  performanceIndex.isMatch index

def conventionalDefault (column : String) : String :=
  if sameName column "version" then "0" else ""

namespace Policy

def conventional : Policy where
  isSystemTable _ := false
  isIgnoredTable _ := false
  isKeyIndex := (· == primaryIndexName)
  isIgnoredIndex := isPerformanceIndex
  defaultValue := conventionalDefault

@[simp] theorem isKeyIndex_conventional (index : String) :
    conventional.isKeyIndex index = (index == primaryIndexName) := rfl

@[simp] theorem isIgnoredIndex_conventional :
    conventional.isIgnoredIndex = isPerformanceIndex := by
  rw [conventional]

variable {table : String}

@[simp] theorem columnName_conventional : conventional.columnName = Row.columnName := rfl

@[simp] theorem dataType_conventional : conventional.dataType = TypeCode.dataType := rfl

@[simp] theorem nullabilityStep_conventional :
    conventional.nullabilityStep table = Column.withNullability := rfl

@[simp] theorem autonumberingStep_conventional :
    conventional.autonumberingStep table = Column.withAutonumbering := rfl

@[simp] theorem furtherStep_conventional :
    conventional.furtherStep table = fun c _ => .ok c := rfl

def remarkAsDefault (c : Column) (r : Row) : Except CellError Column := do
  match ← r.text? ColumnRow.remarks with
  | some remark => return { c with defaultValue := remark }
  | none => return c

def ofKinds (tableKinds viewKinds : List String) (remarks : Bool) : Policy :=
  let further := if remarks then remarkAsDefault else conventional.further
  { conventional with tableKinds, viewKinds, further, furtherStep := fun _ => further }

end Policy

def Column.withDefault (c : Column) (p : Policy) : Column :=
  { c with defaultValue := p.defaultValue c.name }

@[simp] theorem Policy.defaultStep_conventional {table : String} :
    conventional.defaultStep table = fun c _ => c.withDefault conventional := rfl

structure StandardPolicy where
  systemTables : Option Pattern := none
  ignoredTables : Option Pattern := none
  ignoredIndexes : Option Pattern := some performanceIndex
  keyIndexName : String := primaryIndexName
  columnDefaults : List (String × String) := [("VERSION", "0")]
  deriving DecidableEq, Repr

namespace StandardPolicy

def withColumnDefault (p : StandardPolicy) (column value : String) : StandardPolicy :=
  { p with columnDefaults := (nameKey column, value) :: p.columnDefaults }

def withoutColumnDefaults (p : StandardPolicy) : StandardPolicy :=
  { p with columnDefaults := [] }

def columnDefault (p : StandardPolicy) (column : String) : String :=
  (p.columnDefaults.lookup (nameKey column)).getD ""

def toPolicy (p : StandardPolicy) : Policy where
  isSystemTable name := p.systemTables.any (·.isMatch name)
  isIgnoredTable name := p.ignoredTables.any (·.isMatch name)
  isKeyIndex := (· == p.keyIndexName)
  isIgnoredIndex name := p.ignoredIndexes.any (·.isMatch name)
  defaultValue := p.columnDefault

end StandardPolicy

end DatabaseSchema
