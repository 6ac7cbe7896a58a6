import DatabaseSchema.Pattern.Parser
import DatabaseSchema.Policy

namespace DatabaseSchema

structure ColumnDefaults where
  entries : List (String × String) := []
  ordered : entries.Pairwise fun a b => a.1 < b.1 := by simp
  deriving DecidableEq, Repr

namespace ColumnDefaults

def empty : ColumnDefaults := {}

def insertEntry (column value : String) : List (String × String) → List (String × String)
  | [] => [(column, value)]
  | e :: es =>
      if column < e.1 then (column, value) :: e :: es
      else if column = e.1 then (column, value) :: es
      else e :: insertEntry column value es

theorem eq_or_mem_of_mem_insertEntry {column value : String} {e : String × String}
    {es : List (String × String)} (h : e ∈ insertEntry column value es) :
    e = (column, value) ∨ e ∈ es := by
  induction es with
  | nil => simpa [insertEntry] using h
  | cons d es ih =>
      simp only [insertEntry] at h
      split at h
      · simpa using h
      · split at h
        · rcases List.mem_cons.1 h with h | h
          · exact .inl h
          · exact .inr (List.mem_cons_of_mem _ h)
        · rcases List.mem_cons.1 h with h | h
          · exact .inr (h ▸ List.mem_cons_self ..)
          · exact (ih h).imp_right (List.mem_cons_of_mem _)

theorem lt_of_not_lt_of_ne {a b : String} (h : ¬a < b) (hne : a ≠ b) : b < a := by
  rcases Decidable.em (b < a) with hlt | hlt
  · exact hlt
  · exact absurd (String.le_antisymm (String.not_lt.1 hlt) (String.not_lt.1 h)) hne

theorem ordered_insertEntry (column value : String) {es : List (String × String)}
    (h : es.Pairwise fun a b => a.1 < b.1) :
    (insertEntry column value es).Pairwise fun a b => a.1 < b.1 := by
  induction es with
  | nil => simp [insertEntry]
  | cons d es ih =>
      obtain ⟨hd, hes⟩ := List.pairwise_cons.1 h
      simp only [insertEntry]
      split
      · rename_i hlt
        refine List.pairwise_cons.2 ⟨fun e he => ?_, h⟩
        rcases List.mem_cons.1 he with rfl | he
        · exact hlt
        · exact String.lt_trans hlt (hd e he)
      · split
        · rename_i heq
          exact List.pairwise_cons.2 ⟨fun e he => heq ▸ hd e he, hes⟩
        · rename_i hlt hne
          refine List.pairwise_cons.2 ⟨fun e he => ?_, ih hes⟩
          rcases eq_or_mem_of_mem_insertEntry he with rfl | he
          · exact lt_of_not_lt_of_ne hlt hne
          · exact hd e he

def insert (d : ColumnDefaults) (column value : String) : ColumnDefaults :=
  ⟨insertEntry column value d.entries, ordered_insertEntry column value d.ordered⟩

def ofList (entries : List (String × String)) : ColumnDefaults :=
  entries.foldl (fun d e => d.insert e.1 e.2) empty

end ColumnDefaults

inductive PatternSetting where
  | ignoredIndexes
  | ignoredTables
  | systemTables
  deriving DecidableEq, Repr

def PatternSetting.name : PatternSetting → String
  | ignoredIndexes => "ignored_index_pattern"
  | ignoredTables => "ignored_table_pattern"
  | systemTables => "system_table_pattern"

inductive ReadFailure where
  | isDirectory
  | isNoText
  deriving DecidableEq, Repr

def ReadFailure.message : ReadFailure → String
  | isDirectory => "Is a directory (os error 21)"
  | isNoText => "stream did not contain valid UTF-8"

inductive SettingsError where
  | fileNotFound (path : String)
  | unreadable (failure : ReadFailure)
  | malformed
  | missingVariable (name : String)
  | connectionNotFound (name : String)
  | unsupportedDriver (name : String)
  | invalidPattern (setting : PatternSetting)
  deriving DecidableEq, Repr

def SettingsError.message : SettingsError → String
  | fileNotFound path => "Config file not found: " ++ path
  | unreadable failure => "Failed to read config file: " ++ failure.message
  | malformed => "Failed to parse config file:"
  | missingVariable name => "Missing environment variable: " ++ name
  | connectionNotFound name => "Connection not found: " ++ name
  | unsupportedDriver name => "Unsupported driver: " ++ name
  | invalidPattern setting => "Invalid " ++ setting.name ++ " pattern:"

structure ConnectionSettings where
  driver : String
  path : String
  schema : Option String := none
  deriving DecidableEq, Repr

structure MetadataSettings where
  ignoredIndexes : String := "_PRF\\d+$"
  ignoredTables : String := ""
  systemTables : String := ""
  keyIndexName : String := primaryIndexName
  columnDefaults : ColumnDefaults := ColumnDefaults.empty.insert "version" "0"
  deriving DecidableEq, Repr

structure Settings where
  connections : List (String × ConnectionSettings) := []
  metadata : MetadataSettings := {}
  deriving DecidableEq, Repr

namespace MetadataSettings

def pattern (limit : Pattern.SizeLimit) (setting : PatternSetting) (text : String) :
    Except SettingsError (Option Pattern) :=
  if text.isEmpty then .ok none
  else
    match Pattern.parse? limit true text with
    | some p => .ok (some p)
    | none => .error (.invalidPattern setting)

def policy (limit : Pattern.SizeLimit) (m : MetadataSettings) :
    Except SettingsError StandardPolicy := do
  let ignoredIndexes ← pattern limit .ignoredIndexes m.ignoredIndexes
  let ignoredTables ← pattern limit .ignoredTables m.ignoredTables
  let systemTables ← pattern limit .systemTables m.systemTables
  let p : StandardPolicy :=
    { systemTables, ignoredTables, ignoredIndexes, keyIndexName := m.keyIndexName }
  return m.columnDefaults.entries.foldl (fun p e => p.withColumnDefault e.1 e.2)
    p.withoutColumnDefaults

end MetadataSettings

namespace Settings

def connection (s : Settings) (name : String) : Except SettingsError ConnectionSettings :=
  match s.connections.lookup name with
  | some c => .ok c
  | none => .error (.connectionNotFound name)

def earlier (a b : String × ConnectionSettings) : String × ConnectionSettings :=
  if b.1 < a.1 then b else a

def defaultName : String := "default"

def defaultConnection? (s : Settings) : Option (String × ConnectionSettings) :=
  match s.connections.lookup defaultName with
  | some c => some (defaultName, c)
  | none =>
      match s.connections with
      | [] => none
      | c :: cs => some (cs.foldl earlier c)

end Settings

end DatabaseSchema
