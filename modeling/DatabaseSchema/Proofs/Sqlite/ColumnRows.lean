import DatabaseSchema.Proofs.Listwise
import DatabaseSchema.Proofs.RowGroups
import DatabaseSchema.Sqlite.Pragma

namespace DatabaseSchema.Sqlite

variable {p : Pragmas} {database key : String} {e : MasterEntry} {entries : List MasterEntry}
  {rows : List Row} {tableRows : List (List Row)} {items : List Item} {r : Row}
  {key? : Row → Option String} {nameOf : String → String}

theorem columnsOf_eq_ok : p.columnsOf database e = .ok rows ↔
    (e.kind = .view ∧ rows = []) ∨
      (e.kind = .table ∧ ∃ columns, p.tableInfo database e.name = .ok columns ∧
        rows = columns.map (columnRow e columns)) := by
  unfold Pragmas.columnsOf
  cases e.kind with
  | view => simp [pure, Except.pure, eq_comm]
  | table =>
      simp only [bind_eq_ok, pure, Except.pure, Except.ok.injEq, reduceCtorEq, false_and, false_or,
        true_and, eq_comm (a := rows)]

theorem columnItems_eq_ok : p.columnItems database = .ok items ↔
    ∃ entries tableRows, p.master database = .ok entries ∧
      List.Forall₂ (fun e rows => p.columnsOf database e = .ok rows) entries tableRows ∧
      items = tableRows.flatten.map .ok := by
  unfold Pragmas.columnItems
  simp only [bind_eq_ok, mapM_eq_ok_iff, pure, Except.pure, Except.ok.injEq, ← exists_and_left,
    eq_comm (a := items)]

theorem exists_columnItems (hentries : p.master database = .ok entries)
    (hinfos : ∀ e ∈ entries, e.kind = .table → ∃ columns,
      p.tableInfo database e.name = .ok columns) :
    ∃ tableRows, List.Forall₂ (fun e rows => p.columnsOf database e = .ok rows) entries tableRows ∧
      p.columnItems database = .ok (tableRows.flatten.map .ok) := by
  have hrows : ∀ e ∈ entries, ∃ rows, p.columnsOf database e = .ok rows := by
    intro e he
    cases hkind : e.kind with
    | view => exact ⟨[], columnsOf_eq_ok.mpr (.inl ⟨hkind, rfl⟩)⟩
    | table =>
        obtain ⟨columns, hcolumns⟩ := hinfos e he hkind
        exact ⟨_, columnsOf_eq_ok.mpr (.inr ⟨hkind, columns, hcolumns, rfl⟩)⟩
  choose! rowsOf hrowsOf using hrows
  have htables := mapM_eq_ok_iff.mp (mapM_eq_ok hrowsOf)
  exact ⟨_, htables, columnItems_eq_ok.mpr ⟨_, _, hentries, htables, rfl⟩⟩

def KeyedByTable (key? : Row → Option String) (nameOf : String → String) : Prop :=
  ∀ e columns c, key? (columnRow e columns c) = some (nameOf e.name)

theorem rowsUnder_columns (hkey : KeyedByTable key? nameOf)
    (h : p.columnsOf database e = .ok rows) :
    rowsUnder key? key (rows.map .ok) = if nameOf e.name = key then rows else [] := by
  have hrows : Item.rows (rows.map .ok) = rows := by
    simp [Item.rows, List.filterMap_map, Function.comp_def, Except.toOption]
  have hmem : ∀ r ∈ rows, key? r = some (nameOf e.name) := by
    intro r hr
    obtain ⟨-, rfl⟩ | ⟨-, columns, -, rfl⟩ := columnsOf_eq_ok.mp h
    · cases hr
    · obtain ⟨c, -, rfl⟩ := List.mem_map.mp hr
      exact hkey e columns c
  rw [rowsUnder, hrows]
  split
  next hname => exact List.filter_eq_self.mpr fun r hr => by simp [hmem r hr, hname]
  next hname => exact List.filter_eq_nil_iff.mpr fun r hr => by simp [hmem r hr, hname]

theorem rowsUnder_tables (key : String) (hkey : KeyedByTable key? nameOf)
    (h : List.Forall₂ (fun e rows => p.columnsOf database e = .ok rows) entries tableRows) :
    ∃ kept, List.Forall₂ (fun e rows => p.columnsOf database e = .ok rows)
        (entries.filter (nameOf ·.name = key)) kept ∧
      rowsUnder key? key (tableRows.flatten.map .ok) = kept.flatten := by
  induction h with
  | nil => exact ⟨[], .nil, rfl⟩
  | @cons e rows entries tableRows he _ ih =>
      obtain ⟨kept, hkept, hrest⟩ := ih
      rw [List.flatten_cons, List.map_append, rowsUnder_append, rowsUnder_columns hkey he, hrest]
      by_cases hname : nameOf e.name = key
      · rw [if_pos hname, List.filter_cons_of_pos (by simpa using hname)]
        exact ⟨rows :: kept, .cons he hkept, rfl⟩
      · rw [if_neg hname, List.filter_cons_of_neg (by simpa using hname)]
        exact ⟨kept, hkept, rfl⟩

theorem columns_of_mem_rowsUnder (hkey : KeyedByTable key? nameOf)
    (h : List.Forall₂ (fun e rows => p.columnsOf database e = .ok rows) entries tableRows)
    (hr : r ∈ rowsUnder key? key (tableRows.flatten.map .ok)) :
    ∃ e ∈ entries, nameOf e.name = key ∧ e.kind = .table ∧ ∃ columns,
      p.tableInfo database e.name = .ok columns ∧ ∃ c ∈ columns, r = columnRow e columns c := by
  obtain ⟨kept, hkept, hrows⟩ := rowsUnder_tables key hkey h
  rw [hrows] at hr
  obtain ⟨rows, hrows, hr⟩ := List.mem_flatten.mp hr
  obtain ⟨e, he, hcolumns⟩ := exists_of_mem_right hkept rows hrows
  obtain ⟨he, hname⟩ := List.mem_filter.mp he
  obtain ⟨-, rfl⟩ | ⟨hkind, columns, hinfo, rfl⟩ := columnsOf_eq_ok.mp hcolumns
  · cases hr
  · obtain ⟨c, hc, rfl⟩ := List.mem_map.mp hr
    exact ⟨e, he, of_decide_eq_true hname, hkind, columns, hinfo, c, hc, rfl⟩

def IsIntegerKey (columns : List TableInfo) (c : TableInfo) : Prop :=
  columns.countP (0 < ·.key) = 1 ∧ c.key = 1 ∧ Text.sameAscii c.declaredType "INTEGER" = true

instance (columns : List TableInfo) : DecidablePred (IsIntegerKey columns) := fun c =>
  inferInstanceAs (Decidable (columns.countP (0 < ·.key) = 1 ∧ c.key = 1 ∧
    Text.sameAscii c.declaredType "INTEGER" = true))

theorem isAutonumbered_iff {sql : Option String} {columns : List TableInfo} {c : TableInfo} :
    isAutonumbered sql columns c = true ↔ IsIntegerKey columns c ∧
      ∃ text ∈ sql, Text.contains (Text.upper text) "AUTOINCREMENT" = true := by
  simp only [isAutonumbered, IsIntegerKey, Bool.and_eq_true, Option.any_eq_true, beq_iff_eq,
    Option.mem_def]
  constructor
  · rintro ⟨⟨⟨hword, hcount⟩, hkey⟩, htype⟩
    exact ⟨⟨hcount, hkey, htype⟩, hword⟩
  · rintro ⟨⟨hcount, hkey, htype⟩, hword⟩
    exact ⟨⟨⟨hword, hcount⟩, hkey⟩, htype⟩

end DatabaseSchema.Sqlite
