import DatabaseSchema.Proofs.Replay.Columns
import DatabaseSchema.Proofs.Replay.Indexes
import DatabaseSchema.Proofs.Replay.Rows
import DatabaseSchema.Proofs.Transparency
import Mathlib.Tactic.MkIffOfInductiveProp

namespace DatabaseSchema

open Session Act

@[mk_iff]
structure ColumnSpec.Describes (spec : ColumnSpec) (c : Column) : Prop where
  name : spec.name = c.name
  dataType : TypeCode.dataType? spec.typeCode = some c.dataType
  width : spec.size = c.width
  scale : spec.digits = c.scale
  nullable : spec.nullable = c.nullable
  autonumbered : spec.autonumbered = c.autonumbered

instance (spec : ColumnSpec) (c : Column) : Decidable (spec.Describes c) :=
  decidable_of_iff _ (ColumnSpec.describes_iff spec c).symm

-- Names are told apart, the flagged columns are the ones of the key, in key order, and nothing is
-- said that rows cannot tell.
@[mk_iff]
structure TableSnapshot.WellFormed (t : TableSnapshot) : Prop where
  columns : (t.columns.map fun c => nameKey c.name).Nodup
  key : (t.columns.filter (·.primaryKey)).map (fun c => nameKey c.name) = t.primaryKey.map nameKey
  keyLength : t.primaryKey.length < 2 ^ 31
  defaults : ∀ c ∈ t.columns, c.autonumberStart = -1 ∧ c.defaultValue = conventionalDefault c.name
  indexNames : (t.indexes.map (·.name)).Nodup
  indexes : ∀ i ∈ t.indexes, i.name ≠ primaryIndexName ∧ isPerformanceIndex i.name = false ∧
    i.columnNames ≠ []

instance (t : TableSnapshot) : Decidable t.WellFormed :=
  decidable_of_iff _ t.wellFormed_iff.symm

@[mk_iff]
structure SchemaSnapshot.WellFormed (snapshot : SchemaSnapshot) : Prop where
  tableNames : (snapshot.tables.map fun t => nameKey t.name).Nodup
  views : (snapshot.views.map nameKey).Nodup
  tables : ∀ t ∈ snapshot.tables, t.WellFormed

instance (snapshot : SchemaSnapshot) : Decidable snapshot.WellFormed :=
  decidable_of_iff _ snapshot.wellFormed_iff.symm

-- Calls that add the parts of a snapshot. The tables, the views, the columns of a table and the
-- indexes of a table each come in their order, the names of a key come with their places, and
-- calls of different kinds or for different tables come in any order.
@[mk_iff]
structure Replays (calls : List BuilderCall) (snapshot : SchemaSnapshot) : Prop where
  tables : calls.filterMap BuilderCall.table? = snapshot.tables.map (·.name)
  views : calls.filterMap BuilderCall.view? = snapshot.views
  columns : ∀ t ∈ snapshot.tables, List.Forall₂ ColumnSpec.Describes
    ((calls.filterMap BuilderCall.column?).filter (nameKey ·.table == nameKey t.name)) t.columns
  keys : ∀ t ∈ snapshot.tables, (calls.filterMap (BuilderCall.keyEntry? (nameKey t.name))).Perm
    (PrimaryKey.numbered t.primaryKey)
  indexes : ∀ t ∈ snapshot.tables,
    calls.filterMap (BuilderCall.index? (nameKey t.name)) = t.indexes

instance (calls : List BuilderCall) (snapshot : SchemaSnapshot) :
    Decidable (Replays calls snapshot) :=
  decidable_of_iff _ (replays_iff calls snapshot).symm

theorem TableSnapshot.WellFormed.grouped {t : TableSnapshot} (h : t.WellFormed) :
    Index.Grouped .conventional t.indexes where
  nodup := h.indexNames
  listed := by
    intro i hi
    obtain ⟨hn, hp, hc⟩ := h.indexes i hi
    exact ⟨by simpa using hn, by simpa using hp, hc⟩

theorem ColumnSpec.Describes.column_eq {spec : ColumnSpec} {c : Column} (h : spec.Describes c)
    (hs : c.autonumberStart = -1) (hd : c.defaultValue = conventionalDefault c.name) :
    spec.column = { c with primaryKey := false } := by
  rw [ColumnSpec.column, h.dataType, h.name, h.width, h.scale, h.nullable, h.autonumbered, ← hs,
    ← hd]
  rfl

theorem ColumnSpec.types_known {specs : List ColumnSpec} {columns : List Column}
    (h : List.Forall₂ Describes specs columns) :
    ∀ spec ∈ specs, (TypeCode.dataType? spec.typeCode).isSome := by
  induction h with
  | nil => simp
  | cons hc _ ih =>
      intro spec hmem
      rcases List.mem_cons.mp hmem with rfl | hmem
      · rw [hc.dataType]
        rfl
      · exact ih spec hmem

namespace Replays

variable {calls : List BuilderCall} {snapshot : SchemaSnapshot} {t : TableSnapshot}

theorem added_eq (h : Replays calls snapshot) (hs : snapshot.WellFormed)
    (ht : t ∈ snapshot.tables) :
    ColumnCatalog.added (calls.filterMap BuilderCall.column?) (nameKey t.name) =
      t.columns.map ({ · with primaryKey := false }) := by
  have hdefaults := (hs.tables t ht).defaults
  have hcolumns := h.columns t ht
  rw [ColumnCatalog.added]
  generalize
    (calls.filterMap BuilderCall.column?).filter (nameKey ·.table == nameKey t.name) = specs
    at hcolumns
  generalize t.columns = columns at hcolumns hdefaults
  induction hcolumns with
  | nil => rfl
  | cons hc _ ih =>
      obtain ⟨hstart, hdefault⟩ := hdefaults _ List.mem_cons_self
      rw [List.map_cons, List.map_cons, hc.column_eq hstart hdefault,
        ih fun c hmem => hdefaults c (List.mem_cons_of_mem _ hmem)]

end Replays

namespace Fixture

variable (calls : List BuilderCall) (schema : Option String)

theorem build_tables (kinds : List String) :
    ((build calls).answers (.tables schema kinds)).items =
      .ok (((calls.flatMap (BuilderCall.rows .tables)).filter (isOfKind kinds)).map .ok) := by
  rw [build_eq]
  rfl

theorem build_columns :
    ((build calls).answers (.columns schema)).items =
      .ok ((calls.filterMap BuilderCall.column?).map fun spec => .ok spec.row) := by
  have hrows : calls.flatMap (BuilderCall.rows .columns) =
      (calls.filterMap BuilderCall.column?).map ColumnSpec.row := by
    have hall : (calls.flatMap (BuilderCall.rows .columns)).filter (fun _ => true) =
        (calls.filterMap BuilderCall.column?).map ColumnSpec.row :=
      filter_flatMap_rows fun call => by cases call <;> rfl
    rwa [List.filter_true] at hall
  rw [build_eq]
  show Except.ok ((calls.flatMap (BuilderCall.rows .columns)).map Except.ok) = _
  rw [hrows, List.map_map]
  rfl

theorem build_primaryKeys (table : String) :
    ((build calls).answers (.primaryKeys schema table)).items =
      .ok (((calls.flatMap (BuilderCall.rows .primaryKeys)).filter
        (isOfTable table KeyRow.table)).map .ok) := by
  rw [build_eq]
  rfl

theorem primaryKey_build (table : String) :
    (PrimaryKey.ofAnswer table ((build calls).answers (.primaryKeys schema table)).items).result =
      .ok (PrimaryKey.inSequence (calls.filterMap (BuilderCall.keyEntry? (nameKey table)))) := by
  rw [build_primaryKeys]
  unfold PrimaryKey.ofAnswer
  simp only [Logged.result_bind, Logged.result_ofExcept, Logged.result_emit, Subject.items,
    ok_bind, PrimaryKey.mapM_entry_rows]
  rfl

theorem build_indexes (table : String) :
    ((build calls).answers (.indexes schema table false false)).items =
      .ok (((calls.flatMap (BuilderCall.rows .indexes)).filter
        (isOfTable table IndexRow.table)).map .ok) := by
  rw [build_eq]
  show Except.ok ((((calls.flatMap (BuilderCall.rows .indexes)).filter
    (isOfTable table IndexRow.table)).filter fun _ => true).map Except.ok) = _
  rw [List.filter_true]

end Fixture

namespace Replays

open Fixture Uncached

variable {calls : List BuilderCall} {snapshot : SchemaSnapshot} {t : TableSnapshot}

abbrev reading (schema : Option String) : Context := { policy := .conventional, schema }

variable (schema : Option String)

theorem tableCatalog_eq (h : Replays calls snapshot) (hs : snapshot.WellFormed) :
    ∃ c, tableCatalog (build calls).answers (reading schema) = .ok c ∧ c.WellFormed ∧
      c.entries = snapshot.tables.map (·.name) := by
  have hdistinct : ((calls.filterMap BuilderCall.table?).map nameKey).Nodup := by
    rw [h.tables, List.map_map]
    exact hs.tableNames
  obtain ⟨c, hc, he⟩ := Catalog.tableNames_objectRows hdistinct
  have hcatalog : tableCatalog (build calls).answers (reading schema) = .ok c := by
    rw [tableCatalog, build_tables]
    show (Catalog.tableNames .conventional (.ok (((calls.flatMap (BuilderCall.rows .tables)).filter
      (isOfKind ["TABLE"])).map .ok))).result = .ok c
    rw [filter_table_rows, List.map_map]
    exact hc
  exact ⟨c, hcatalog, Catalog.tableNames_wellFormed hcatalog, by rw [he, h.tables]⟩

theorem viewNames_eq (h : Replays calls snapshot) (hs : snapshot.WellFormed) :
    viewNames (build calls).answers (reading schema) = .ok snapshot.views := by
  have hdistinct : ((calls.filterMap BuilderCall.view?).map nameKey).Nodup := by
    rw [h.views]
    exact hs.views
  obtain ⟨c, hc, he⟩ := Catalog.viewNames_objectRows hdistinct
  have hcatalog : viewCatalog (build calls).answers (reading schema) = .ok c := by
    rw [viewCatalog, build_tables]
    show (Catalog.viewNames .conventional (.ok (((calls.flatMap (BuilderCall.rows .tables)).filter
      (isOfKind ["VIEW"])).map .ok))).result = .ok c
    rw [filter_view_rows, List.map_map]
    exact hc
  rw [viewNames, hcatalog, ok_bind, he, h.views]
  rfl

theorem columnCatalog_eq (h : Replays calls snapshot) (hs : snapshot.WellFormed) :
    ∃ c, columnCatalog (build calls).answers (reading schema) = .ok c ∧
      ∀ t ∈ snapshot.tables,
        c.columns? t.name = some (t.columns.map ({ · with primaryKey := false })) := by
  obtain ⟨names, hnames, -, he⟩ := h.tableCatalog_eq schema hs
  let specs := calls.filterMap BuilderCall.column?
  have hempty : ColumnCatalog.ofTables names =
      ⟨snapshot.tables.map fun t => (nameKey t.name, [])⟩ := by
    rw [ColumnCatalog.ofTables, he, List.map_map]
    rfl
  have hjoined : (ColumnCatalog.ofTables names).joined specs = ⟨snapshot.tables.map fun t =>
      (nameKey t.name, ColumnCatalog.added specs (nameKey t.name))⟩ := by
    rw [hempty, ColumnCatalog.joined, List.map_map]
    rfl
  have htypes : ∀ spec ∈ specs, nameKey spec.table ∈ (ColumnCatalog.ofTables names).tables.map
      (·.1) → (TypeCode.dataType? spec.typeCode).isSome := by
    intro spec hspec hkey
    rw [hempty, List.map_map] at hkey
    obtain ⟨t, ht, heq⟩ := List.mem_map.mp hkey
    refine ColumnSpec.types_known (h.columns t ht) spec (List.mem_filter.mpr ⟨hspec, ?_⟩)
    exact beq_iff_eq.mpr heq.symm
  have hdistinct : ∀ e ∈ ((ColumnCatalog.ofTables names).joined specs).tables,
      (e.2.map (nameKey ·.name)).Nodup := by
    rw [hjoined]
    intro e he
    obtain ⟨t, ht, rfl⟩ := List.mem_map.mp he
    rw [h.added_eq hs ht, List.map_map]
    exact (hs.tables t ht).columns
  have hfold := ColumnCatalog.foldlM_addColumn htypes hdistinct
  refine ⟨(ColumnCatalog.ofTables names).joined specs, ?_, fun t ht => ?_⟩
  · rw [columnCatalog, hnames, ok_bind, build_columns]
    unfold ColumnCatalog.ofAnswer
    simp only [Logged.result_bind, Logged.result_ofExcept, Logged.result_emit, Subject.items,
      ok_bind, specs, hfold]
    rfl
  · rw [hjoined, ← h.added_eq hs ht]
    exact ColumnCatalog.columns?_of_mem ht

def found (schema : Option String) (t : TableSnapshot) : Table where
  name := t.name
  primaryKey := t.primaryKey
  entry := t.columns.map ({ · with primaryKey := false })
  context := reading schema

theorem table_eq (h : Replays calls snapshot) (hs : snapshot.WellFormed)
    (ht : t ∈ snapshot.tables) :
    Uncached.table (build calls).answers (reading schema) t.name = .ok (found schema t) := by
  obtain ⟨names, hnames, hwf, he⟩ := h.tableCatalog_eq schema hs
  obtain ⟨columns, hcolumns, hlookup⟩ := h.columnCatalog_eq schema hs
  have hget : names.get? t.name = some t.name := by
    rw [hwf.get?_eq_some_iff, he]
    exact ⟨List.mem_map_of_mem ht, rfl⟩
  have hkey : (PrimaryKey.ofAnswer t.name
      ((build calls).answers (.primaryKeys schema t.name)).items).result = .ok t.primaryKey := by
    rw [primaryKey_build, PrimaryKey.inSequence_of_perm (hs.tables t ht).keyLength (h.keys t ht)]
  rw [Uncached.table, hnames, ok_bind, hget]
  simp only [hkey, hcolumns, ok_bind, hlookup t ht]
  rfl

theorem tableSnapshot_eq (h : Replays calls snapshot) (hs : snapshot.WellFormed)
    (ht : t ∈ snapshot.tables) :
    tableSnapshot (build calls).answers (found schema t) = .ok t := by
  have hwf := hs.tables t ht
  have hcolumns : finalColumns (found schema t) = .ok t.columns :=
    PrimaryKey.order_mark_unflagged t.name hwf.columns hwf.key
  have hpick := h.indexes t ht
  have hgrouped := hwf.grouped
  rw [← hpick] at hgrouped
  have hindexes : Uncached.indexes (build calls).answers (found schema t) = .ok t.indexes := by
    show (Index.ofAnswer .conventional t.name
      ((build calls).answers (.indexes schema t.name false false)).items).result = .ok t.indexes
    rw [build_indexes, Index.ofAnswer_calls rfl calls hgrouped, hpick]
  rw [tableSnapshot, hcolumns, ok_bind, hindexes]
  rfl

theorem snapshot_eq (h : Replays calls snapshot) (hs : snapshot.WellFormed) :
    Uncached.snapshot (build calls).answers (reading schema) = .ok snapshot := by
  obtain ⟨names, hnames, -, he⟩ := h.tableCatalog_eq schema hs
  have htables : Uncached.tables (build calls).answers (reading schema) =
      .ok (snapshot.tables.map (found schema)) := by
    rw [Uncached.tables, tableNames, hnames, ok_bind]
    show names.entries.mapM _ = _
    rw [he, List.mapM_map]
    exact mapM_eq_ok fun t ht => h.table_eq schema hs ht
  have hsnapshots : (snapshot.tables.map (found schema)).mapM
      (tableSnapshot (build calls).answers) = .ok snapshot.tables := by
    have hall : snapshot.tables.mapM (fun t =>
        tableSnapshot (build calls).answers (found schema t)) = .ok (snapshot.tables.map id) :=
      mapM_eq_ok fun t ht => h.tableSnapshot_eq schema hs ht
    rw [List.mapM_map]
    exact hall.trans (by rw [List.map_id])
  rw [Uncached.snapshot, htables, ok_bind, hsnapshots, ok_bind, h.viewNames_eq schema hs]
  rfl

end Replays

theorem replay_snapshot (calls : List BuilderCall) (snapshot : SchemaSnapshot)
    (hs : snapshot.WellFormed) (h : Replays calls snapshot) (schema : Option String)
    (requests : List Request) :
    let source := (Fixture.build calls).source
    let context : Context := { policy := .conventional, schema }
    (Provider.snapshot.run source ((start context).serveAll source requests)).1 = .ok snapshot := by
  intro source context
  -- a fixture never fails for a while, so it gives what its answers alone give
  have hsource : source = .interrupted (Fixture.build calls).answers fun _ _ => none := by
    rw [Source.interrupted_never, ← Fixture.source_eq]
  rw [hsource]
  have hr := (Reached.start (.interrupted (Fixture.build calls).answers fun _ _ => none)
    context).serveAll requests
  exact (Provider.snapshot_tracks hr).meets.eq_of_never.trans (h.snapshot_eq schema hs)

theorem replay_snapshot_orders :
    let source := (Fixture.build ordersCalls).source
    let s := (start { policy := .conventional, schema := some "shop" }).serveAll source
      [.table "ORDERS", .ofTable 0 .indexes]
    ordersSnapshot.WellFormed ∧ Replays ordersCalls ordersSnapshot ∧
      (Provider.snapshot.run source s).1 = .ok ordersSnapshot :=
  ⟨by decide +kernel, by decide +kernel,
    replay_snapshot ordersCalls ordersSnapshot (by decide +kernel) (by decide +kernel) _ _⟩

end DatabaseSchema
