import DatabaseSchema.Proofs.Columns.TableByTable
import DatabaseSchema.Proofs.Replay.Rows

namespace DatabaseSchema

variable {spec : ColumnSpec} {specs : List ColumnSpec}

def ColumnSpec.column (spec : ColumnSpec) : Column where
  name := spec.name
  dataType := (TypeCode.dataType? spec.typeCode).getD .string
  width := spec.size
  scale := spec.digits
  nullable := spec.nullable
  autonumbered := spec.autonumbered
  defaultValue := conventionalDefault spec.name

theorem Column.withNullability_row (c : Column) (hc : c.nullable = false) :
    c.withNullability spec.row = .ok { c with nullable := spec.nullable } := by
  have ht : spec.row.text? ColumnRow.isNullable =
      .ok (some (if spec.nullable then "YES" else "NO")) := Row.text?_of_text rfl
  unfold withNullability
  rw [ht]
  cases hn : spec.nullable with
  | true => rfl
  | false =>
      have heq : { c with nullable := false } = c := by rw [← hc]
      rw [heq]
      rfl

theorem Column.withAutonumbering_row (c : Column) (hc : c.autonumbered = false)
    (hs : c.autonumberStart = -1) :
    c.withAutonumbering spec.row = .ok { c with autonumbered := spec.autonumbered } := by
  have ht : spec.row.text? ColumnRow.isAutonumbered =
      .ok (some (if spec.autonumbered then "YES" else "NO")) := Row.text?_of_text rfl
  unfold withAutonumbering
  rw [ht]
  cases hn : spec.autonumbered with
  | true =>
      rw [← hs]
      rfl
  | false =>
      have heq : { c with autonumbered := false } = c := by rw [← hc]
      rw [heq]
      rfl

theorem Column.ofRow_row {table : String} (h : (TypeCode.dataType? spec.typeCode).isSome) :
    Column.ofRow .conventional table spec.name spec.row = .ok spec.column := by
  obtain ⟨dataType, hd⟩ := Option.isSome_iff_exists.mp h
  have htype : TypeCode.dataType spec.typeCode spec.typeName spec.size = .ok dataType := by
    rw [TypeCode.dataType, hd]
  unfold Column.ofRow
  rw [Row.text?_of_text (s := spec.typeName) rfl, Row.int_of_int32 (n := spec.typeCode) rfl,
    Row.int_of_int32 (n := spec.size) rfl, Row.int_of_int32 (n := spec.digits) rfl]
  simp only [Part.check, ok_bind, Option.getD_some, Policy.dataType_conventional, htype,
    Policy.nullabilityStep_conventional, Policy.autonumberingStep_conventional,
    Policy.defaultStep_conventional, Policy.furtherStep_conventional]
  rw [Column.withNullability_row _ rfl]
  simp only [ok_bind]
  rw [Column.withAutonumbering_row _ rfl rfl]
  simp only [ok_bind, Policy.conventional, Column.withDefault, ColumnSpec.column, hd,
    Option.getD_some]

namespace ColumnCatalog

variable {c : ColumnCatalog}

def added (specs : List ColumnSpec) (key : String) : List Column :=
  (specs.filter (nameKey ·.table == key)).map ColumnSpec.column

theorem added_cons_of_eq {key : String} (h : nameKey spec.table = key) :
    added (spec :: specs) key = spec.column :: added specs key := by
  simp [added, h]

theorem added_cons_of_ne {key : String} (h : nameKey spec.table ≠ key) :
    added (spec :: specs) key = added specs key := by
  simp [added, h]

theorem columns?_of_mem {α : Type} {entries : List α} {name : α → String}
    {columns : String → List Column} {a : α} (h : a ∈ entries) :
    (mk (entries.map fun a => (nameKey (name a), columns (nameKey (name a))))).columns? (name a) =
      some (columns (nameKey (name a))) := by
  have hkey : nameKey (name a) ∈ (mk (entries.map fun a =>
      (nameKey (name a), columns (nameKey (name a))))).tables.map (·.1) := by
    rw [List.map_map]
    exact List.mem_map_of_mem h
  obtain ⟨found, hfound⟩ := Option.isSome_iff_exists.mp (columns?_isSome.mpr hkey)
  obtain ⟨other, -, heq⟩ := List.mem_map.mp (mem_of_columns?_eq_some hfound)
  obtain ⟨hkey, rfl⟩ := Prod.mk.inj heq
  rw [hfound, hkey]

theorem addColumn_skip (h : c.columns? spec.table = none) :
    (addColumn .conventional c (.ok spec.row)).result = .ok c :=
  addColumn_uncataloged (Row.text_of_text rfl) h

theorem addColumn_append {columns : List Column} (h : c.columns? spec.table = some columns)
    (htype : (TypeCode.dataType? spec.typeCode).isSome)
    (hnew : ∀ d ∈ columns, nameKey d.name ≠ nameKey spec.name) :
    (addColumn .conventional c (.ok spec.row)).result =
      .ok (c.append (nameKey spec.table) spec.column) := by
  have hn : spec.row.columnName = .ok spec.name := Row.text_of_text rfl
  have hany : columns.any (·.isNamed spec.name) = false := by
    rw [List.any_eq_false]
    intro d hd hnamed
    exact hnew d hd (sameName_iff.mp hnamed)
  rw [addColumn_cataloged Policy.Known.default.usual (Row.text_of_text rfl) h, hn]
  simp only [Subject.check, ok_bind, Column.ofRow_row htype, hany]
  rfl

def joined (c : ColumnCatalog) (specs : List ColumnSpec) : ColumnCatalog :=
  ⟨c.tables.map fun t => (t.1, t.2 ++ added specs t.1)⟩

theorem joined_nil (c : ColumnCatalog) : c.joined [] = c := by
  simp [joined, added]

theorem joined_uncataloged (h : nameKey spec.table ∉ c.tables.map (·.1)) :
    c.joined (spec :: specs) = c.joined specs := by
  refine congrArg mk (List.map_congr_left fun t ht => ?_)
  rw [added_cons_of_ne fun heq => h (heq ▸ List.mem_map_of_mem ht)]

theorem joined_append (c : ColumnCatalog) (spec : ColumnSpec) (specs : List ColumnSpec) :
    (c.append (nameKey spec.table) spec.column).joined specs = c.joined (spec :: specs) := by
  rw [joined, joined, append, List.map_map]
  refine congrArg mk (List.map_congr_left fun t ht => ?_)
  by_cases heq : nameKey spec.table = t.1
  · simp [added_cons_of_eq heq, heq]
  · simp [added_cons_of_ne heq, Ne.symm heq]

theorem foldlM_addColumn (htypes : ∀ spec ∈ specs, nameKey spec.table ∈ c.tables.map (·.1) →
      (TypeCode.dataType? spec.typeCode).isSome)
    (hdistinct : ∀ t ∈ (c.joined specs).tables, (t.2.map (nameKey ·.name)).Nodup) :
    ((specs.map fun spec => .ok spec.row).foldlM (addColumn .conventional) c).result =
      .ok (c.joined specs) := by
  induction specs generalizing c with
  | nil =>
      rw [joined_nil]
      rfl
  | cons spec specs ih =>
      rw [List.map_cons, List.foldlM_cons, Logged.result_bind]
      cases hc : c.columns? spec.table with
      | none =>
          have hkey : nameKey spec.table ∉ c.tables.map (·.1) := by
            rw [← columns?_isSome, hc]
            simp
          rw [joined_uncataloged hkey] at hdistinct ⊢
          rw [addColumn_skip hc, ok_bind]
          exact ih (fun spec' hmem => htypes spec' (List.mem_cons_of_mem spec hmem)) hdistinct
      | some columns =>
          have hkey : nameKey spec.table ∈ c.tables.map (·.1) := by
            rw [← columns?_isSome, hc]
            rfl
          have hnew : ∀ d ∈ columns, nameKey d.name ≠ nameKey spec.name := by
            have hnodup := hdistinct _ (List.mem_map_of_mem (mem_of_columns?_eq_some hc))
            rw [added_cons_of_eq rfl, List.map_append, List.nodup_append] at hnodup
            intro d hd
            exact hnodup.2.2 _ (List.mem_map_of_mem hd) _ List.mem_cons_self
          rw [addColumn_append hc (htypes spec List.mem_cons_self hkey) hnew, ok_bind,
            ← joined_append]
          refine ih (fun spec' hmem hkey' => ?_) (by rwa [joined_append])
          rw [keys_append] at hkey'
          exact htypes spec' (List.mem_cons_of_mem spec hmem) hkey'

end ColumnCatalog

end DatabaseSchema
