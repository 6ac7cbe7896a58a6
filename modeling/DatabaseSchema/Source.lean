import DatabaseSchema.Logged
import DatabaseSchema.Row

namespace DatabaseSchema

inductive QueryKind where
  | tables
  | columns
  | primaryKeys
  | indexes
  deriving DecidableEq, Repr

def QueryKind.name : QueryKind → String
  | tables => "tables"
  | columns => "columns"
  | primaryKeys => "primary_keys"
  | indexes => "index_info"

inductive Query where
  | tables (schema : Option String) (kinds : List String)
  | columns (schema : Option String)
  | primaryKeys (schema : Option String) (table : String)
  | indexes (schema : Option String) (table : String) (uniqueOnly approximate : Bool)
  deriving DecidableEq, Repr

def Query.kind : Query → QueryKind
  | tables .. => .tables
  | columns .. => .columns
  | primaryKeys .. => .primaryKeys
  | indexes .. => .indexes

abbrev Item := Except String Row

abbrev Items := Except String (List Item)

structure Answer where
  items : Items
  events : List Event := []
  deriving Repr

-- The answer to a query after the queries of a history, which lists the latest first.
structure Source where
  answer : List Query → Query → Answer

structure Outage where
  kind : QueryKind
  count : Nat
  message : String
  deriving DecidableEq, Repr

-- The message that a query fails with after the queries of a history, if it does. Of several
-- outages for one kind the last one counts.
def outageMessage? (outages : List Outage) (history : List Query) (q : Query) : Option String := do
  let o ← outages.reverse.find? (·.kind == q.kind)
  if history.countP (·.kind == q.kind) < o.count then some o.message else none

def Source.withOutages (source : Source) (outages : List Outage) : Source :=
  ⟨fun history q =>
    match outageMessage? outages history q with
    | some message => ⟨.error message, []⟩
    | none => source.answer history q⟩

def answered (outages : List Outage) : List Query → List Query
  | [] => []
  | q :: history =>
      if (outageMessage? outages history q).isSome then answered outages history
      else q :: answered outages history

end DatabaseSchema
