import DatabaseSchema.Proofs.Serving
import DatabaseSchema.Source
import DatabaseSchema.Source.Fixture

namespace DatabaseSchema

namespace Source

def interrupted (answers : Query → Answer) (failure? : List Query → Query → Option String) :
    Source :=
  ⟨fun history q =>
    match failure? history q with
    | some message => ⟨.error message, []⟩
    | none => answers q⟩

def steady (answers : Query → Answer) : Source := ⟨fun _ q => answers q⟩

theorem interrupted_never (answers : Query → Answer) :
    interrupted answers (fun _ _ => none) = steady answers := rfl

end Source

namespace Fixture

def answers (f : Fixture) (q : Query) : Answer := ⟨f.items q, []⟩

theorem source_eq (f : Fixture) : f.source = .steady f.answers := rfl

end Fixture

namespace Uncached

variable (answers : Query → Answer) (c : Context)

def tableCatalog : Except SchemaError (Catalog String) :=
  (Catalog.tableNames c.policy (answers (.tables c.schema c.policy.tableKinds)).items).result

def columnCatalog : Except SchemaError ColumnCatalog := do
  let names ← tableCatalog answers c
  (ColumnCatalog.ofAnswer c.policy names (answers (.columns c.schema)).items).result

def viewCatalog : Except SchemaError (Catalog String) :=
  (Catalog.viewNames c.policy (answers (.tables c.schema c.policy.viewKinds)).items).result

def table (name : String) : Except SchemaError Table := do
  match (← tableCatalog answers c).get? name with
  | none => throw (.tableNotFound name)
  | some table =>
      let primaryKey ←
        (PrimaryKey.ofAnswer table (answers (.primaryKeys c.schema table)).items).result
      let entry := ((← columnCatalog answers c).columns? table).getD []
      return { name := table, primaryKey, entry, context := c }

def tableNames : Except SchemaError (List String) := return (← tableCatalog answers c).entries

def tables : Except SchemaError (List Table) := do
  (← tableNames answers c).mapM (table answers c)

def viewNames : Except SchemaError (List String) := return (← viewCatalog answers c).entries

def view (name : String) : Except SchemaError View := do
  match (← viewCatalog answers c).get? name with
  | some name => return .database name
  | none => throw (.viewNotFound name)

def finalColumns (t : Table) : Except SchemaError (List Column) :=
  PrimaryKey.order t.name t.primaryKey (PrimaryKey.mark t.entry t.primaryKey)

def indexes (t : Table) : Except SchemaError (List Index) :=
  (Index.ofAnswer t.context.policy t.name
    (answers (.indexes t.context.schema t.name false false)).items).result

def tableSnapshot (t : Table) : Except SchemaError TableSnapshot := do
  let columns ← finalColumns t
  let indexes ← indexes answers t
  return { name := t.name, columns, indexes, primaryKey := t.primaryKey }

def reply (t : Table) : TableRequest → Except SchemaError Reply
  | .columns => return .columns (← finalColumns t)
  | .column name => return .column ((← finalColumns t).find? (·.isNamed name))
  | .indexes => return .indexes (← indexes answers t)
  | .snapshot => return .table (← tableSnapshot answers t)

def snapshot : Except SchemaError SchemaSnapshot := do
  let tables ← (← tables answers c).mapM (tableSnapshot answers)
  let views ← viewNames answers c
  return { tables, views }

theorem table_congr {a b : String} {t : Table} (h : nameKey a = nameKey b)
    (ht : table answers c a = .ok t) : table answers c b = .ok t := by
  unfold table at ht ⊢
  obtain ⟨names, hnames, ht⟩ := bind_eq_ok.mp ht
  rw [hnames]
  rw [names.get?_congr h] at ht
  rw [ok_bind]
  cases hget : names.get? b with
  | none =>
      rw [hget] at ht
      cases ht
  | some table =>
      rw [hget] at ht
      exact ht

theorem table_eq_ok {name : String} {t : Table} (h : table answers c name = .ok t) :
    ∃ names, tableCatalog answers c = .ok names ∧ names.get? name = some t.name ∧
      t.context = c := by
  unfold table at h
  obtain ⟨names, hnames, h⟩ := bind_eq_ok.mp h
  cases hget : names.get? name with
  | none =>
      rw [hget] at h
      cases h
  | some table =>
      rw [hget] at h
      obtain ⟨key, -, h⟩ := bind_eq_ok.mp h
      obtain ⟨columns, -, h⟩ := bind_eq_ok.mp h
      cases h
      exact ⟨names, hnames, hget, rfl⟩

end Uncached

open Uncached

namespace Session

variable {source : Source} {s s' : Session} {context : Context} {answers : Query → Answer}
  {failure? : List Query → Query → Option String}

def Passes (subject : Subject) (read : Items → Except SchemaError α) : Prop :=
  ∀ message, read (.error message) = .error (.query subject (.source message))

theorem passes_tableNames (p : Policy) :
    Passes .tables fun items => (Catalog.tableNames p items).result := fun _ => rfl

theorem passes_viewNames (p : Policy) :
    Passes .views fun items => (Catalog.viewNames p items).result := fun _ => rfl

theorem passes_columns (p : Policy) (names : Catalog String) :
    Passes .columns fun items => (ColumnCatalog.ofAnswer p names items).result := fun _ => rfl

theorem passes_primaryKey (table : String) :
    Passes (.primaryKey table) fun items => (PrimaryKey.ofAnswer table items).result :=
  fun _ => rfl

theorem passes_indexes (p : Policy) (table : String) :
    Passes (.indexes table) fun items => (Index.ofAnswer p table items).result := fun _ => rfl

theorem Passes.of_ok {subject : Subject} {read : Items → Except SchemaError α} {q : Query}
    {history : List Query} {a : α} (hread : Passes subject read)
    (h : read ((Source.interrupted answers failure?).answer history q).items = .ok a) :
    read (answers q).items = .ok a := by
  unfold Source.interrupted at h
  cases hf : failure? history q with
  | some message => simp [hf, hread message] at h
  | none => simpa [hf] using h

theorem Passes.of_error {subject : Subject} {read : Items → Except SchemaError α} {q : Query}
    {history : List Query} {e : SchemaError} (hread : Passes subject read)
    (h : read ((Source.interrupted answers failure?).answer history q).items = .error e) :
    read (answers q).items = .error e ∨
      ∃ message, failure? history q = some message ∧ e = .query subject (.source message) := by
  unfold Source.interrupted at h
  cases hf : failure? history q with
  | some message =>
      simp only [hf, hread message, Except.error.injEq] at h
      exact .inr ⟨message, rfl, h.symm⟩
  | none => exact .inl (by simpa [hf] using h)

theorem Answered.eq_ok {subject : Subject} {read : Items → Except SchemaError α} {q : Query}
    {a : α} (hread : Passes subject read)
    (h : Answered (.interrupted answers failure?) s s' q fun items => read items = .ok a) :
    read (answers q).items = .ok a := by
  obtain ⟨history, -, -, hr⟩ := h
  exact hread.of_ok hr

namespace Reached

theorem tableCatalog_eq (h : Reached (.interrupted answers failure?) context s)
    {c : Catalog String} (hc : s.provider.keptNames = some c) :
    tableCatalog answers context = .ok c := by
  have ho : Obtained _ (Session.start context) s .tableNames (.names c) :=
    h.obtained (by simp [content?, hc])
  cases ho with
  | tableNames ha =>
      have hr := ha.eq_ok (passes_tableNames _)
      rwa [h.context_eq] at hr

theorem viewCatalog_eq (h : Reached (.interrupted answers failure?) context s)
    {c : Catalog String} (hc : s.provider.keptViews = some c) :
    viewCatalog answers context = .ok c := by
  have ho : Obtained _ (Session.start context) s .views (.names c) :=
    h.obtained (by simp [content?, hc])
  cases ho with
  | views ha =>
      have hr := ha.eq_ok (passes_viewNames _)
      rwa [h.context_eq] at hr

theorem columnCatalog_eq (h : Reached (.interrupted answers failure?) context s)
    {c : ColumnCatalog} (hc : s.provider.keptColumns = some c) :
    columnCatalog answers context = .ok c := by
  have ho : Obtained _ (Session.start context) s .columns (.columns c) :=
    h.obtained (by simp [content?, hc])
  cases ho with
  | columns hn ha =>
      have hr := ha.eq_ok (passes_columns _ _)
      rw [h.context_eq] at hr
      exact bind_eq_ok.mpr ⟨_, h.tableCatalog_eq hn, hr⟩

theorem table_eq (h : Reached (.interrupted answers failure?) context s) {number : Nat} {t : Table}
    (ht : s.face? number = some t) : table answers context t.name = .ok t := by
  have ho : Obtained _ (Session.start context) s (.face number) (.face t) :=
    h.obtained (by simp [content?, ht])
  obtain ⟨t', -, hface⟩ := Option.map_eq_some_iff.mp ht
  cases ho with
  | face hn ha =>
      obtain ⟨names, hnames, hmem⟩ := ha.name
      obtain ⟨columns, hcolumns, hentry⟩ := ha.entry
      have hkey := ha.key.eq_ok (passes_primaryKey _)
      have hget : names.get? t.name = some t.name :=
        (h.sound names hnames).get?_eq_some_iff.mpr ⟨hmem, rfl⟩
      rw [ha.context, h.context_eq] at hkey
      unfold table
      rw [h.tableCatalog_eq hnames, ok_bind, hget]
      simp only [hkey, h.columnCatalog_eq hcolumns, ok_bind, ← hentry]
      rw [← h.context_eq, ← ha.context, ← hface]
      rfl

theorem table_eq_of_number (h : Reached (.interrupted answers failure?) context s)
    {name : String} {number : Nat}
    (hn : s.provider.numbers.lookup (nameKey name) = some number) :
    ∃ t, s.face? number = some t ∧ table answers context name = .ok t := by
  have ho : Obtained _ (Session.start context) s (.table name) (.number number) :=
    h.obtained (by simp [content?, hn])
  cases ho with
  | table ht hname _ => exact ⟨_, ht, table_congr answers context hname (h.table_eq ht)⟩

theorem finalColumns_eq (h : Reached (.interrupted answers failure?) context s) {number : Nat}
    {t : Table} {columns : List Column} (ht : s.handles[number]? = some t)
    (hc : t.columns = some columns) : finalColumns t.face = .ok columns := by
  have ho : Obtained _ (Session.start context) s (.finalColumns number) (.finalColumns columns) :=
    h.obtained (by simp [content?, ht, hc])
  cases ho with
  | finalColumns hf hr =>
      simp only [face?, ht, Option.map_some, Option.some.injEq] at hf
      subst hf
      exact hr

theorem indexes_eq (h : Reached (.interrupted answers failure?) context s) {number : Nat}
    {t : Table} {indexes : List Index} (ht : s.handles[number]? = some t)
    (hi : t.indexes = some indexes) : Uncached.indexes answers t.face = .ok indexes := by
  have ho : Obtained _ (Session.start context) s (.indexes number) (.indexes indexes) :=
    h.obtained (by simp [content?, ht, hi])
  cases ho with
  | indexes hf ha =>
      simp only [face?, ht, Option.map_some, Option.some.injEq] at hf
      subst hf
      exact ha.eq_ok (passes_indexes _ _)

end Reached

end Session

end DatabaseSchema
