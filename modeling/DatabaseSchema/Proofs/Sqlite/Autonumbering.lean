import DatabaseSchema.Proofs.Replay.Rows
import DatabaseSchema.Proofs.Sqlite.Schemas
import DatabaseSchema.Proofs.Sqlite.Statement

namespace DatabaseSchema.Sqlite

variable {d d' : Database} {s s' : Schema} {t : TableDefinition} {database : Option String}

structure Schema.Made (s : Schema) (t : TableDefinition) : Prop where
  split : ∃ before after, s.objects = before ++ t.stored :: after ∧
    ∀ o ∈ before ++ after, Text.sameAscii o.name t.name = false

theorem Schema.made_of_createTable (h : s.createTable t = some s') :
    s'.name = s.name ∧ s'.Made t := by
  obtain ⟨hfree, hname, further, hfurther, hobjects⟩ := createTable_eq_some h
  have hsystem := isSystemName_of_isFree hfree
  simp only [isFree, Bool.and_eq_true, Option.isNone_iff_eq_none] at hfree
  refine ⟨hname, _, further, hobjects, fun o ho => ?_⟩
  rcases List.mem_append.mp ho with ho | ho
  · exact Bool.eq_false_iff.mpr (List.find?_eq_none.mp hfree.1.1 o ho)
  -- all else that may be new is SQLite's own table, and its name is reserved
  · obtain rfl : o = sequenceTable := List.mem_singleton.mp (hfurther ho)
    rw [Bool.eq_false_iff]
    intro hsame
    rw [← isSystemName_of_sameAscii hsame] at hsystem
    exact absurd hsystem (by decide +kernel)

theorem Database.made_of_execute (h : d.execute (.createTable database t) = some d') :
    ∃ s', d'.schema? (Pragmas.databaseName database) = some s' ∧ s'.Made t := by
  obtain ⟨s, hs, hchanged⟩ := Option.bind_eq_some_iff.mp h
  obtain ⟨s', hs', rfl⟩ := Option.map_eq_some_iff.mp hchanged
  obtain ⟨hname, hmade⟩ := Schema.made_of_createTable hs'
  exact ⟨s', schema?_updateSchema hs hname, hmade⟩

theorem Schema.Made.object? (h : s.Made t) : s.object? t.name = some t.stored := by
  obtain ⟨before, after, hobjects, hothers⟩ := h.split
  refine List.find?_eq_some_iff_append.mpr
    ⟨sameAscii_iff.mpr rfl, before, after, hobjects, fun o ho => ?_⟩
  rw [hothers o (List.mem_append_left after ho)]
  rfl

theorem Schema.Made.filter_entries (h : s.Made t) :
    s.entries.filter (·.name = t.name) = [t.stored.entry] := by
  obtain ⟨before, after, hobjects, hothers⟩ := h.split
  have hnone : ∀ os ⊆ before ++ after,
      (os.map StoredObject.entry).filter (·.name = t.name) = [] := by
    intro os hos
    refine List.filter_eq_nil_iff.mpr fun e he => ?_
    obtain ⟨o, ho, rfl⟩ := List.mem_map.mp he
    intro hname
    have hother := hothers o (hos ho)
    rw [show o.name = t.name from of_decide_eq_true hname, sameAscii_iff.mpr rfl] at hother
    cases hother
  refine List.perm_singleton.mp (((List.mergeSort_perm _ _).filter _).trans ?_)
  rw [hobjects, List.map_append, List.map_cons, List.filter_append,
    List.filter_cons_of_pos (by simp [StoredObject.entry, TableDefinition.stored]),
    hnone before (List.subset_append_left _ _), hnone after (List.subset_append_right _ _)]
  rfl

def TableDefinition.HasWord (t : TableDefinition) : Prop :=
  t.isAutoincrement = true ∨
    ∃ text ∈ t.texts, Text.contains (Text.upper text) autoincrementWord = true

instance : DecidablePred TableDefinition.HasWord := fun t =>
  inferInstanceAs (Decidable (t.isAutoincrement = true ∨
    ∃ text ∈ t.texts, Text.contains (Text.upper text) autoincrementWord = true))

theorem TableDefinition.hasWord_iff :
    t.HasWord ↔ Text.contains (Text.upper t.sql) autoincrementWord = true := by
  simp only [HasWord, Text.contains_upper, t.mentions_sql, Bool.or_eq_true, List.any_eq_true]

def tableOf? (r : Row) : Option String := (r.text ColumnRow.table).toOption

theorem tableOf?_keyed : KeyedByTable tableOf? id := fun _ _ _ => rfl

structure TableDefinition.Tells (t : TableDefinition) (infos : List TableInfo) (i : TableInfo)
    (r : Row) : Prop where
  name : r.text ColumnRow.name = .ok i.name
  autonumbered : r.text ColumnRow.isAutonumbered = .ok
    (if IsIntegerKey infos i ∧ t.HasWord then "YES" else "NO")

def TableDefinition.entry (t : TableDefinition) : MasterEntry := ⟨t.name, .table, some t.sql⟩

theorem TableDefinition.tells_columnRow (t : TableDefinition) (infos : List TableInfo)
    (i : TableInfo) : t.Tells infos i (columnRow t.entry infos i) where
  name := Row.text_of_text rfl
  autonumbered := by
    refine Row.text_of_text (congrArg (some ∘ Cell.text) (if_congr ?_ rfl rfl))
    rw [isAutonumbered_iff, t.hasWord_iff]
    exact and_congr_right fun _ => by simp [TableDefinition.entry]

-- The statement of the table is kept, under a name that no other table or view has; the columns
-- are told as `infos`, and something is told of every other table.
structure Pragmas.Stores (p : Pragmas) (database : String) (t : TableDefinition)
    (infos : List TableInfo) : Prop where
  entries : ∃ entries, p.master database = .ok entries ∧
    entries.filter (·.name = t.name) = [t.entry] ∧
    ∀ e ∈ entries, e.kind = .table → ∃ others, p.tableInfo database e.name = .ok others
  columns : p.tableInfo database t.name = .ok infos

theorem Database.stores_of_execute (h : d.execute (.createTable database t) = some d') :
    d'.pragmas.Stores (Pragmas.databaseName database) t (t.columns.map t.columnInfo) := by
  obtain ⟨s, hs, hmade⟩ := made_of_execute h
  refine ⟨⟨s.entries, master_eq hs, hmade.filter_entries, fun e _ _ => ⟨_, tableInfo_eq hs e.name⟩⟩,
    ?_⟩
  rw [tableInfo_eq hs, hmade.object?]
  rfl

theorem columns_autonumbered (p : Pragmas) (database : Option String) (t : TableDefinition)
    (infos : List TableInfo) (history : List Query)
    (h : p.Stores (Pragmas.databaseName database) t infos) :
    ∃ items, (p.source.answer history (.columns database)).items = .ok items ∧
      List.Forall₂ (t.Tells infos) infos (rowsUnder tableOf? t.name items) := by
  obtain ⟨entries, hmaster, hentry, hothers⟩ := h.entries
  obtain ⟨tableRows, htables, hitems⟩ := exists_columnItems hmaster hothers
  refine ⟨_, hitems, ?_⟩
  obtain ⟨kept, hkept, hunder⟩ := rowsUnder_tables t.name tableOf?_keyed htables
  simp only [id, hentry] at hkept
  obtain ⟨rows, rest, hcolumns, hrest, rfl⟩ := List.forall₂_cons_left_iff.mp hkept
  cases hrest
  obtain ⟨hview, -⟩ | ⟨-, columns, hinfo, rfl⟩ := columnsOf_eq_ok.mp hcolumns
  · cases hview
  cases h.columns.symm.trans hinfo
  rw [hunder, List.flatten_singleton]
  exact List.forall₂_map_right_iff.mpr
    (List.forall₂_same.mpr fun i _ => t.tells_columnRow infos i)

theorem columns_autonumbered_default :
    let t : TableDefinition :=
      { name := "t"
        columns := [
          { name := "id", type := some "Integer", default := some "'autoincrement'", key := true },
          { name := "note", checks := [{ name := some "short", condition := "note <> ''" }] }] }
    let infos := t.columns.map t.columnInfo
    ∃ d', Database.empty.execute (.createTable none t) = some d' ∧
      d'.pragmas.Stores "main" t infos ∧
      ∃ items, (d'.source.answer [] (.columns none)).items = .ok items ∧
        List.Forall₂ (t.Tells infos) infos (rowsUnder tableOf? t.name items) := by
  intro t infos
  have hmade : (Database.empty.execute (.createTable none t)).isSome = true := by decide +kernel
  obtain ⟨d', hd'⟩ := Option.isSome_iff_exists.mp hmade
  have hstores := Database.stores_of_execute hd'
  exact ⟨d', hd', hstores, columns_autonumbered d'.pragmas none t infos [] hstores⟩

theorem columns_autonumbered_name :
    let t : TableDefinition := { name := "autoincrement_log", columns := [
      { name := "id", type := some "INTEGER", key := true }] }
    let r : Row := ⟨[.text "autoincrement_log", .text "id", .integer 4, .text "INTEGER",
      .integer 0, .integer 0, .text "NO", .text "YES", .null, .null]⟩
    t.isAutoincrement = false ∧ r.text ColumnRow.isAutonumbered = .ok "YES" ∧
      ∃ d', Database.empty.execute (.createTable none t) = some d' ∧
        (d'.source.answer [] (.columns none)).items = .ok [.ok r] := by
  intro t r
  have hanswer : (Database.empty.execute (.createTable none t)).map
      (fun d' => (d'.source.answer [] (.columns none)).items) = some (.ok [.ok r]) := by
    decide +kernel
  obtain ⟨d', hd', hitems⟩ := Option.map_eq_some_iff.mp hanswer
  exact ⟨rfl, rfl, d', hd', hitems⟩

end DatabaseSchema.Sqlite
