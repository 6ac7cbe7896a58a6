import DatabaseSchema.Catalog
import DatabaseSchema.Settings

namespace DatabaseSchema

variable {p : Policy} {c d : Column} {row : Row}

namespace Policy

def PlainStep (step : Column → Row → Except CellError Column) : Prop :=
  ∀ c row d, step c row = .ok d → d.name = c.name ∧ d.primaryKey = c.primaryKey

structure Plain (p : Policy) : Prop where
  nullability : ∀ table, PlainStep (p.nullabilityStep table)
  autonumbering : ∀ table, PlainStep (p.autonumberingStep table)
  default : ∀ table, PlainStep fun c row => .ok (p.defaultStep table c row)
  further : ∀ table, PlainStep (p.furtherStep table)

-- The policies there are: the default one, the ones given by patterns, set directly or by a user,
-- and the ones for other kinds of tables.
inductive Known : Policy → Prop where
  | default : Known conventional
  | standard (p : StandardPolicy) : Known p.toPolicy
  | settings {limit : Pattern.SizeLimit} {m : MetadataSettings} {p : StandardPolicy} :
      m.policy limit = .ok p → Known p.toPolicy
  | custom (tableKinds viewKinds : List String) (remarks : Bool) :
      Known (ofKinds tableKinds viewKinds remarks)

theorem withNullability_plain : PlainStep Column.withNullability := by
  intro c row d h
  obtain ⟨text?, -, h⟩ := bind_eq_ok.mp h
  split at h <;> cases h <;> exact ⟨rfl, rfl⟩

theorem withAutonumbering_plain : PlainStep Column.withAutonumbering := by
  intro c row d h
  obtain ⟨text?, -, h⟩ := bind_eq_ok.mp h
  split at h <;> cases h <;> exact ⟨rfl, rfl⟩

theorem remarkAsDefault_plain : PlainStep remarkAsDefault := by
  intro c row d h
  obtain ⟨remark?, -, h⟩ := bind_eq_ok.mp h
  cases remark? <;> cases h <;> exact ⟨rfl, rfl⟩

theorem updated_plain {f : Column → Row → Column} (hn : ∀ c row, (f c row).name = c.name)
    (hk : ∀ c row, (f c row).primaryKey = c.primaryKey) : PlainStep fun c row => .ok (f c row) := by
  intro c row d h
  cases h
  exact ⟨hn c row, hk c row⟩

theorem Known.plain (h : p.Known) : p.Plain where
  nullability table := by cases h <;> exact withNullability_plain
  autonumbering table := by cases h <;> exact withAutonumbering_plain
  default table := by cases h <;> exact updated_plain (fun _ _ => rfl) (fun _ _ => rfl)
  further table := by
    cases h with
    | default | standard | settings => exact updated_plain (fun _ _ => rfl) (fun _ _ => rfl)
    | custom tableKinds viewKinds remarks =>
        cases remarks with
        | true => exact remarkAsDefault_plain
        | false => exact updated_plain (fun _ _ => rfl) (fun _ _ => rfl)

end Policy

namespace Column

theorem ofRow_plain {table name : String} (hp : p.Plain)
    (h : ofRow p table name row = .ok c) : c.name = name ∧ c.primaryKey = false := by
  unfold ofRow at h
  simp only [bind_eq_ok, Part.check_eq_ok] at h
  obtain ⟨typeName, -, typeCode, -, width, -, scale, -, dataType, -, c₁, h₁, c₂, h₂, h⟩ := h
  obtain ⟨hn₁, hk₁⟩ := hp.nullability table _ _ _ h₁
  obtain ⟨hn₂, hk₂⟩ := hp.autonumbering table _ _ _ h₂
  obtain ⟨hn₃, hk₃⟩ := hp.default table c₂ row _ rfl
  obtain ⟨hn₄, hk₄⟩ := hp.further table _ _ _ h
  exact ⟨hn₄.trans (hn₃.trans (hn₂.trans hn₁)), hk₄.trans (hk₃.trans (hk₂.trans hk₁))⟩

end Column

namespace ColumnCatalog

variable {names : Catalog String} {catalog catalog' : ColumnCatalog}

structure Unflagged (names : Catalog String) (catalog : ColumnCatalog) : Prop where
  keys : catalog.tables.map (·.1) = names.entries.map nameKey
  columns : ∀ t ∈ catalog.tables, ∀ c ∈ t.2, c.primaryKey = false

theorem unflagged_ofTables (names : Catalog String) : Unflagged names (ofTables names) where
  keys := by simp [ofTables]
  columns := by simp [ofTables]

theorem keys_append (catalog : ColumnCatalog) (key : String) (c : Column) :
    (catalog.append key c).tables.map (·.1) = catalog.tables.map (·.1) := by
  rw [ColumnCatalog.append, List.map_map]
  refine List.map_congr_left fun t _ => ?_
  simp only [Function.comp_apply]
  split <;> rfl

theorem addColumn_eq_ok {item : Item} (h : (addColumn p catalog item).result = .ok catalog') :
    catalog' = catalog ∨ ∃ table columns name row c, catalog.columns? table = some columns ∧
      Column.ofRow p table name row = .ok c ∧ columns.any (·.isNamed name) = false ∧
        catalog' = catalog.append (nameKey table) c := by
  unfold addColumn at h
  simp only [Logged.result_bind, Logged.result_ofExcept, bind_eq_ok] at h
  obtain ⟨row, -, table, -, h⟩ := h
  split at h
  next => exact .inl (Except.ok.inj h).symm
  next columns hcolumns =>
    simp only [Logged.result_bind, Logged.result_ofExcept, bind_eq_ok] at h
    obtain ⟨name, -, c, hc, h⟩ := h
    split at h
    next => simp at h
    next hfree =>
      cases h
      exact .inr ⟨table, columns, name, row, c, hcolumns, hc, by simpa using hfree, rfl⟩

theorem keys_addColumn {item : Item} (h : (addColumn p catalog item).result = .ok catalog') :
    catalog'.tables.map (·.1) = catalog.tables.map (·.1) := by
  obtain rfl | ⟨table, _, _, _, c, -, -, -, rfl⟩ := addColumn_eq_ok h
  · rfl
  · exact keys_append catalog (nameKey table) c

theorem columns_append {P : Column → Prop} (h : ∀ t ∈ catalog.tables, ∀ d ∈ t.2, P d)
    (key : String) (hc : P c) : ∀ t ∈ (catalog.append key c).tables, ∀ d ∈ t.2, P d := by
  intro t ht d hd
  obtain ⟨t₀, ht₀, rfl⟩ := List.mem_map.mp ht
  split at hd
  next =>
    rcases List.mem_append.mp hd with hd | hd
    · exact h t₀ ht₀ d hd
    · rw [List.mem_singleton.mp hd]
      exact hc
  next => exact h t₀ ht₀ d hd

theorem ofAnswer_eq_ok {answer : Items} (h : (ofAnswer p names answer).result = .ok catalog) :
    ∃ items, answer = .ok items ∧
      (items.foldlM (addColumn p) (ofTables names)).result = .ok catalog := by
  unfold ofAnswer at h
  simp only [Logged.result_bind, Logged.result_ofExcept, Logged.result_emit, bind_eq_ok,
    Subject.items_eq_ok] at h
  obtain ⟨items, hitems, c, hc, -, -, h⟩ := h
  cases h
  exact ⟨items, hitems, hc⟩

theorem keys_of_answer {answer : Items} (h : (ofAnswer p names answer).result = .ok catalog) :
    catalog.tables.map (·.1) = names.entries.map nameKey := by
  obtain ⟨items, -, hc⟩ := ofAnswer_eq_ok h
  exact Logged.foldlM_invariant (fun _ _ _ hkeys ha => (keys_addColumn ha).trans hkeys)
    (unflagged_ofTables names).keys hc

theorem columns_of_answer {P : Column → Prop} {answer : Items}
    (hrow : ∀ table name row c, Column.ofRow p table name row = .ok c → P c)
    (h : (ofAnswer p names answer).result = .ok catalog) :
    ∀ t ∈ catalog.tables, ∀ c ∈ t.2, P c := by
  obtain ⟨items, -, hc⟩ := ofAnswer_eq_ok h
  refine Logged.foldlM_invariant (P := fun catalog => ∀ t ∈ catalog.tables, ∀ c ∈ t.2, P c)
    (fun catalog item catalog' hall ha => ?_) (by simp [ofTables]) hc
  obtain rfl | ⟨table, _, name, row, c, -, hc, -, rfl⟩ := addColumn_eq_ok ha
  · exact hall
  · exact columns_append hall (nameKey table) (hrow table name row c hc)

theorem unflagged_of_answer {answer : Items} (hp : p.Plain)
    (h : (ofAnswer p names answer).result = .ok catalog) : Unflagged names catalog where
  keys := keys_of_answer h
  columns := columns_of_answer (fun _ _ _ _ hc => (Column.ofRow_plain hp hc).2) h

theorem mem_of_columns?_eq_some {name : String} {columns : List Column}
    (h : catalog.columns? name = some columns) : (nameKey name, columns) ∈ catalog.tables := by
  obtain ⟨before, after, htables, -⟩ := List.lookup_eq_some_iff.mp h
  simp [htables]

theorem columns?_isSome {name : String} :
    (catalog.columns? name).isSome ↔ nameKey name ∈ catalog.tables.map (·.1) := by
  rw [ColumnCatalog.columns?, List.lookup_isSome_iff, List.mem_map]
  exact exists_congr fun t => and_congr_right fun _ => by rw [beq_iff_eq, eq_comm]

theorem Unflagged.columns?_eq_some (h : Unflagged names catalog) {name : String}
    (hn : name ∈ names.entries) :
    ∃ columns, catalog.columns? name = some columns ∧ ∀ c ∈ columns, c.primaryKey = false := by
  have hkey : nameKey name ∈ catalog.tables.map (·.1) := by
    rw [h.keys]
    exact List.mem_map_of_mem hn
  obtain ⟨columns, hc⟩ := Option.isSome_iff_exists.mp (columns?_isSome.mpr hkey)
  exact ⟨columns, hc, h.columns _ (mem_of_columns?_eq_some hc)⟩

theorem columns?_append (catalog : ColumnCatalog) (key : String) (c : Column) (name : String) :
    (catalog.append key c).columns? name =
      if nameKey name = key then (catalog.columns? name).map (· ++ [c])
      else catalog.columns? name := by
  obtain ⟨tables⟩ := catalog
  simp only [ColumnCatalog.columns?, ColumnCatalog.append]
  induction tables with
  | nil => simp
  | cons t tables ih =>
      obtain ⟨other, columns⟩ := t
      have hhead : (if other == key then (other, columns ++ [c]) else (other, columns)) =
          (other, if other == key then columns ++ [c] else columns) := by split <;> rfl
      simp only [List.map_cons, hhead, List.lookup_cons]
      cases hb : nameKey name == other with
      | false => exact ih
      | true =>
          rw [← eq_of_beq hb]
          by_cases hk : nameKey name = key <;> simp [hk]

def Distinct (catalog : ColumnCatalog) : Prop :=
  ∀ name columns, catalog.columns? name = some columns → (columns.map (nameKey ·.name)).Nodup

theorem distinct_ofTables (names : Catalog String) : Distinct (ofTables names) := by
  intro name columns h
  obtain ⟨entry, -, heq⟩ := List.mem_map.mp (mem_of_columns?_eq_some h)
  obtain ⟨-, rfl⟩ := Prod.mk.inj heq
  exact List.nodup_nil

theorem Distinct.addColumn {item : Item} (hp : p.Plain) (h : Distinct catalog)
    (ha : (addColumn p catalog item).result = .ok catalog') : Distinct catalog' := by
  obtain rfl | ⟨table, known, name, _, c, hknown, hc, hfree, rfl⟩ := addColumn_eq_ok ha
  · exact h
  · intro other columns hother
    rw [columns?_append] at hother
    split at hother
    next hkey =>
      have hsame : catalog.columns? other = some known := by
        rw [← hknown, ColumnCatalog.columns?, hkey, ColumnCatalog.columns?]
      rw [hsame] at hother
      cases hother
      have hnew : ∀ d ∈ known, nameKey d.name ≠ nameKey c.name := by
        intro d hd heq
        rw [(Column.ofRow_plain hp hc).1] at heq
        exact List.any_eq_false.mp hfree d hd (sameName_iff.mpr heq)
      rw [List.map_append, List.nodup_append]
      refine ⟨h table known hknown, by simp, ?_⟩
      rintro _ hk _ hk' rfl
      obtain ⟨d, hd, heq⟩ := List.mem_map.mp hk
      exact hnew d hd (heq.trans (by simpa using hk'))
    next => exact h other columns hother

theorem distinct_of_answer {answer : Items} (hp : p.Plain)
    (h : (ofAnswer p names answer).result = .ok catalog) : Distinct catalog := by
  obtain ⟨items, -, hc⟩ := ofAnswer_eq_ok h
  exact Logged.foldlM_invariant (fun _ _ _ hd ha => hd.addColumn hp ha) (distinct_ofTables names) hc

end ColumnCatalog

end DatabaseSchema
