import DatabaseSchema.Provider

namespace DatabaseSchema

def Table.face (t : Table) : Table :=
  { t with columns := none, indexes := none }

def Session.face? (s : Session) (number : Nat) : Option Table :=
  s.handles[number]?.map Table.face

inductive TableRequest where
  | columns
  | column (name : String)
  | indexes
  | snapshot
  deriving DecidableEq, Repr

inductive Request where
  | isEmpty
  | tableExists (name : String)
  | tableNames
  | tables
  | table (name : String)
  | viewExists (name : String)
  | view (name : String)
  | viewNames
  | views
  | snapshot
  | ofTable (number : Nat) (request : TableRequest)
  deriving DecidableEq, Repr

inductive Reply where
  | flag (b : Bool)
  | names (names : List String)
  | tables (faces : List (Option Table))
  | view (v : View)
  | views (vs : List View)
  | schema (s : SchemaSnapshot)
  | columns (columns : List Column)
  | column (column : Option Column)
  | indexes (indexes : List Index)
  | table (t : TableSnapshot)

def TableRequest.act (number : Nat) : TableRequest → Act Reply
  | columns => return .columns (← Table.columnsOf number)
  | column name => return .column (← Table.columnOf? number name)
  | indexes => return .indexes (← Table.indexesOf number)
  | snapshot => return .table (← Table.snapshotOf number)

def Request.act : Request → Act Reply
  | isEmpty => return .flag (← Provider.isEmpty)
  | tableExists name => return .flag (← Provider.tableExists name)
  | tableNames => return .names (← Provider.tableNames)
  | tables => do
      let numbers ← Provider.tables
      return .tables (numbers.map (← get).face?)
  | table name => do
      let number ← Provider.getTable name
      return .tables [(← get).face? number]
  | viewExists name => return .flag (← Provider.viewExists name)
  | view name => return .view (← Provider.getView name)
  | viewNames => return .names (← Provider.viewNames)
  | views => return .views (← Provider.views)
  | snapshot => return .schema (← Provider.snapshot)
  | ofTable number request => request.act number

namespace Session

def serve (source : Source) (s : Session) (request : Request) : Session :=
  (request.act.run source s).2

def serveAll (source : Source) (s : Session) (requests : List Request) : Session :=
  requests.foldl (serve source) s

def replies (source : Source) (s : Session) : List Request → List (Except SchemaError Reply)
  | [] => []
  | request :: requests =>
      (request.act.run source s).1 :: replies source (s.serve source request) requests

end Session

inductive Replacement where
  | policy (policy : Policy)
  | schema (name : String)

inductive Operation where
  | request (request : Request)
  | replace (replacement : Replacement)

def Context.replace (c : Context) : Replacement → Context
  | .policy policy => { c with policy }
  | .schema name => { c with schema := some name }

namespace Session

def replace (s : Session) : Replacement → Session
  | .policy policy => s.withPolicy policy
  | .schema name => s.withSchema name

theorem replace_eq (s : Session) (r : Replacement) :
    s.replace r = { s with provider := { context := s.provider.context.replace r } } := by
  cases r <;> rfl

def operate (source : Source) (s : Session) : Operation → Session
  | .request request => s.serve source request
  | .replace replacement => s.replace replacement

def operateAll (source : Source) (s : Session) (operations : List Operation) : Session :=
  operations.foldl (operate source) s

variable (source : Source) (s : Session)

@[simp] theorem operate_request (request : Request) :
    s.operate source (.request request) = s.serve source request := rfl

@[simp] theorem operate_replace (r : Replacement) :
    s.operate source (.replace r) = s.replace r := rfl

@[simp] theorem operateAll_nil : s.operateAll source [] = s := rfl

@[simp] theorem operateAll_cons (op : Operation) (ops : List Operation) :
    s.operateAll source (op :: ops) = (s.operate source op).operateAll source ops := rfl

theorem operateAll_append (ops ops' : List Operation) :
    s.operateAll source (ops ++ ops') = (s.operateAll source ops).operateAll source ops' :=
  List.foldl_append

end Session

def inspectRecord (name : String) (fields : List (String × String)) : String :=
  name ++ " \x7b " ++ ", ".intercalate (fields.map fun f => f.1 ++ ": " ++ f.2) ++ " \x7d"

def inspectBool (b : Bool) : String := if b then "true" else "false"

def inspectList (items : List String) : String := "[" ++ ", ".intercalate items ++ "]"

def inspectOption : Option String → String
  | none => "None"
  | some s => "Some(" ++ s ++ ")"

def DataType.inspect : DataType → String
  | integer => "Integer"
  | bigInteger => "BigInteger"
  | decimal => "Decimal"
  | string => "String"
  | boolean => "Boolean"
  | date => "Date"
  | blob => "Blob"
  | clob => "Clob"

def Column.inspect (c : Column) : String :=
  inspectRecord "Column"
    [("name", Text.quoted c.name),
      ("data_type", c.dataType.inspect),
      ("width", toString c.width.toInt),
      ("scale", toString c.scale.toInt),
      ("nullable", inspectBool c.nullable),
      ("primary_key", inspectBool c.primaryKey),
      ("autonumbered", inspectBool c.autonumbered),
      ("autonumber_start", toString c.autonumberStart.toInt),
      ("default_value", Text.quoted c.defaultValue)]

def Index.inspect (i : Index) : String :=
  inspectRecord "Index"
    [("name", Text.quoted i.name),
      ("unique", inspectBool i.unique),
      ("column_names", Text.quotedList i.columnNames)]

def Table.inspect (t : Table) : String :=
  inspectRecord "DatabaseTable"
    [("name", Text.quoted t.name),
      ("primary_key", Text.quotedList t.primaryKey),
      ("columns", inspectOption (t.columns.map fun cs => inspectList (cs.map (·.inspect)))),
      ("indexes", inspectOption (t.indexes.map fun is => inspectList (is.map (·.inspect))))]

def Context.inspect (c : Context) : String :=
  "MetadataContext \x7b schema_name: " ++ inspectOption (c.schema.map Text.quoted) ++ ", .. \x7d"

end DatabaseSchema
