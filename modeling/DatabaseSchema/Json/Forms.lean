import DatabaseSchema.Json
import DatabaseSchema.Json.Parser
import DatabaseSchema.Row
import DatabaseSchema.Settings
import DatabaseSchema.Snapshot

namespace DatabaseSchema

def Cell.toJson : Cell → Json
  | null => .null
  | integer n => .integer n.toInt
  | boolean b => .bool b
  | text s => .text s

def Cell.ofJson? : Json → Option Cell
  | .null => some .null
  | .integer n => ((Json.integer n).int64?).map .integer
  | .bool b => some (.boolean b)
  | .text s => some (.text s)
  | _ => none

def Row.toJson (r : Row) : Json :=
  .object [("values", .list (r.cells.map Cell.toJson))]

def Row.ofJson? (j : Json) : Option Row := do
  match ← j.record? ["values"] with
  | [values] => return ⟨← (← values.list?).mapM Cell.ofJson?⟩
  | _ => none

end DatabaseSchema

namespace DatabaseSchema.View

def toJson : View → Json
  | database name => .object [("kind", .text "database"), ("name", .text name)]
  | declared name select dependencies =>
      .object
        [("kind", .text "declared"),
          ("name", .text name),
          ("select_statement", .text select),
          ("dependencies", .list (dependencies.map .text))]

def ofFields? (kind : String) (fields : Json) : Option View := do
  match kind with
  | "database" =>
      match ← fields.record? ["name"] with
      | [name] => return .database (← name.text?)
      | _ => none
  | "declared" =>
      match ← fields.record? ["name", "select_statement", "dependencies"] with
      | [name, select, dependencies] =>
          return .declared (← name.text?) (← select.text?) (← dependencies.texts?)
      | _ => none
  | _ => none

def ofTagged? : Json → Option View
  | .object members => do
      let kind ← (← Json.sole? members "kind").text?
      ofFields? kind (.object (members.filter (·.1 != "kind")))
  | .list (kind :: fields) => do
      ofFields? (← kind.text?) (.list fields)
  | _ => none

def depthLimit : Nat := 127

-- The kind may come last, so everything is read, also what does not count.
def ofJson? (j : Json) : Option View :=
  if j.isReadable && j.depth ≤ depthLimit then ofTagged? j else none

end DatabaseSchema.View

namespace DatabaseSchema

def DataType.toJson (t : DataType) : Json := .text t.name

def DataType.ofJson? : Json → Option DataType
  | .text s => ofName? s
  | .object [(s, .null)] => ofName? s
  | _ => none

def Column.toJson (c : Column) : Json :=
  .object
    [("name", .text c.name),
      ("data_type", c.dataType.toJson),
      ("width", .integer c.width.toInt),
      ("scale", .integer c.scale.toInt),
      ("nullable", .bool c.nullable),
      ("primary_key", .bool c.primaryKey),
      ("autonumbered", .bool c.autonumbered),
      ("autonumber_start", .integer c.autonumberStart.toInt),
      ("default_value", .text c.defaultValue)]

def Column.ofJson? (j : Json) : Option Column := do
  let fields ← j.record? ["name", "data_type", "width", "scale", "nullable", "primary_key",
    "autonumbered", "autonumber_start", "default_value"]
  match fields with
  | [name, dataType, width, scale, nullable, primaryKey, autonumbered, autonumberStart,
      defaultValue] =>
      return {
        name := ← name.text?
        dataType := ← DataType.ofJson? dataType
        width := ← width.int32?
        scale := ← scale.int32?
        nullable := ← nullable.bool?
        primaryKey := ← primaryKey.bool?
        autonumbered := ← autonumbered.bool?
        autonumberStart := ← autonumberStart.int32?
        defaultValue := ← defaultValue.text? }
  | _ => none

def Index.toJson (i : Index) : Json :=
  .object
    [("name", .text i.name),
      ("unique", .bool i.unique),
      ("column_names", .list (i.columnNames.map .text))]

def Index.ofJson? (j : Json) : Option Index := do
  match ← j.record? ["name", "unique", "column_names"] with
  | [name, unique, columnNames] =>
      return { name := ← name.text?, unique := ← unique.bool?, columnNames := ← columnNames.texts? }
  | _ => none

def TableSnapshot.toJson (t : TableSnapshot) : Json :=
  .object
    [("name", .text t.name),
      ("columns", .list (t.columns.map Column.toJson)),
      ("indexes", .list (t.indexes.map Index.toJson)),
      ("primary_key", .list (t.primaryKey.map .text))]

def TableSnapshot.ofJson? (j : Json) : Option TableSnapshot := do
  match ← j.record? ["name", "columns", "indexes", "primary_key"] with
  | [name, columns, indexes, primaryKey] =>
      return {
        name := ← name.text?
        columns := ← (← columns.list?).mapM Column.ofJson?
        indexes := ← (← indexes.list?).mapM Index.ofJson?
        primaryKey := ← primaryKey.texts? }
  | _ => none

def SchemaSnapshot.toJson (s : SchemaSnapshot) : Json :=
  .object
    [("tables", .list (s.tables.map TableSnapshot.toJson)),
      ("views", .list (s.views.map .text))]

def SchemaSnapshot.ofJson? (j : Json) : Option SchemaSnapshot := do
  match ← j.record? ["tables", "views"] with
  | [tables, views] =>
      return { tables := ← (← tables.list?).mapM TableSnapshot.ofJson?, views := ← views.texts? }
  | _ => none

def SchemaSnapshot.jsonText (s : SchemaSnapshot) : String := s.toJson.pretty

def ConnectionSettings.toJson (c : ConnectionSettings) : Json :=
  .object
    [("driver", .text c.driver),
      ("path", .text c.path),
      ("schema", (c.schema.map .text).getD .null)]

def ColumnDefaults.toJson (d : ColumnDefaults) : Json :=
  .object (d.entries.map fun e => (e.1, .text e.2))

def MetadataSettings.toJson (m : MetadataSettings) : Json :=
  .object
    [("ignored_index_pattern", .text m.ignoredIndexes),
      ("ignored_table_pattern", .text m.ignoredTables),
      ("system_table_pattern", .text m.systemTables),
      ("primary_key_index_name", .text m.keyIndexName),
      ("column_defaults", m.columnDefaults.toJson)]

def Settings.toJson (s : Settings) : Json :=
  .object
    [("connections", .object (s.connections.map fun c => (c.1, c.2.toJson))),
      ("metadata", s.metadata.toJson)]

def ColumnDefaults.ofJson? : Json → Option ColumnDefaults
  | .object members => do
      return .ofList (← members.mapM fun (column, value) => value.text?.map fun s => (column, s))
  | _ => none

def textOr? (default : String) (members : List (String × Json)) (name : String) : Option String :=
  match members.lookup name with
  | none => some default
  | some v => v.text?

def MetadataSettings.ofJson? : Json → Option MetadataSettings
  | .object members => do
      let standard : MetadataSettings := {}
      return {
        ignoredIndexes := ← textOr? standard.ignoredIndexes members "ignored_index_pattern"
        ignoredTables := ← textOr? standard.ignoredTables members "ignored_table_pattern"
        systemTables := ← textOr? standard.systemTables members "system_table_pattern"
        keyIndexName := ← textOr? standard.keyIndexName members "primary_key_index_name"
        columnDefaults := ← match members.lookup "column_defaults" with
          | none => some standard.columnDefaults
          | some v => ColumnDefaults.ofJson? v }
  | _ => none

end DatabaseSchema
