import DatabaseSchema.Environment
import DatabaseSchema.Settings
import DatabaseSchema.Toml.Parser

namespace DatabaseSchema

namespace Toml

def text? : Toml → Option String
  | .text s => some s
  | _ => none

def record? (names : List String) : Toml → Option (List (Option Toml))
  | .table _ entries => some (names.map fun name => entries.lookup name)
  | .array items | .tables items => some (names.mapIdx fun i _ => items[i]?)
  | .moment => some (names.map fun _ => none)
  | _ => none

def textOr? (default : String) : Option Toml → Option String
  | none => some default
  | some v => v.text?

def entries? : Toml → Option Entries
  | .table _ entries => some entries
  | _ => none

end Toml

def ConnectionSettings.ofToml? (v : Toml) : Option ConnectionSettings := do
  match ← v.record? ["driver", "path", "schema"] with
  | [driver, path, schema] =>
      return {
        driver := ← (← driver).text?
        path := ← (← path).text?
        schema := ← match schema with
          | none => some none
          | some v => v.text?.map some }
  | _ => none

def ColumnDefaults.ofToml? (v : Toml) : Option ColumnDefaults := do
  let entries ← (← v.entries?).mapM fun (column, value) => value.text?.map fun s => (column, s)
  return .ofList entries

def MetadataSettings.ofToml? (v : Toml) : Option MetadataSettings := do
  let fields ← v.record? ["ignored_index_pattern", "ignored_table_pattern",
    "system_table_pattern", "primary_key_index_name", "column_defaults"]
  let standard : MetadataSettings := {}
  match fields with
  | [ignoredIndexes, ignoredTables, systemTables, keyIndexName, columnDefaults] =>
      return {
        ignoredIndexes := ← Toml.textOr? standard.ignoredIndexes ignoredIndexes
        ignoredTables := ← Toml.textOr? standard.ignoredTables ignoredTables
        systemTables := ← Toml.textOr? standard.systemTables systemTables
        keyIndexName := ← Toml.textOr? standard.keyIndexName keyIndexName
        columnDefaults := ← match columnDefaults with
          | none => some standard.columnDefaults
          | some v => ColumnDefaults.ofToml? v }
  | _ => none

def Settings.ofToml? (entries : Toml.Entries) : Option Settings := do
  return {
    connections := ← match entries.lookup "connections" with
      | none => some []
      | some v => do
          (← v.entries?).mapM fun (name, c) =>
            (ConnectionSettings.ofToml? c).map fun c => (name, c)
    metadata := ← match entries.lookup "metadata" with
      | none => some {}
      | some v => MetadataSettings.ofToml? v }

end DatabaseSchema

namespace DatabaseSchema.Settings

def ofFile (f : File) : Except SettingsError Settings :=
  match f with
  | .directory => .error (.unreadable .isDirectory)
  | .content bytes =>
      match String.fromUTF8? bytes with
      | none => .error (.unreadable .isNoText)
      | some text =>
          match (Toml.parse? text).bind ofToml? with
          | none => .error .malformed
          | some s => .ok s

def read (files : Files) (path : String) : Except SettingsError Settings :=
  match files.find? path with
  | none => .error (.fileNotFound path)
  | some f => ofFile f

def pathVariable : String := "SCHEMALENS_CONFIG"

def localPath : String := "schemalens.toml"

def userPath? (e : Environment) : Option String :=
  e.settingsDirectory.map (· ++ "/schemalens/config.toml")

def load (e : Environment) (files : Files) : Except SettingsError Settings :=
  match e.value? pathVariable with
  | some path => read files path
  | none =>
      match (localPath :: (userPath? e).toList).findSome? files.find? with
      | some f => ofFile f
      | none => .ok {}

end DatabaseSchema.Settings
