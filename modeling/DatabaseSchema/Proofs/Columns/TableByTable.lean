import DatabaseSchema.Proofs.Catalog
import DatabaseSchema.Proofs.Columns.Conversion
import DatabaseSchema.Proofs.Listwise
import DatabaseSchema.Proofs.RowGroups

namespace DatabaseSchema.ColumnCatalog

variable {p : Policy} {names : Catalog String} {table name key : String}
  {items before : List Item} {item : Item} {r : Row} {c c' : ColumnCatalog} {column : Column}
  {e : SchemaError}

def tableKey? (r : Row) : Option String :=
  (r.text ColumnRow.table).toOption.map nameKey

def Cataloged (names : Catalog String) (r : Row) (table : String) : Prop :=
  r.text ColumnRow.table = .ok table ∧ ∃ entry ∈ names.entries, nameKey entry = nameKey table

def Taken (before : List Item) (table name : String) : Prop :=
  ∃ earlier ∈ rowsUnder tableKey? (nameKey table) before, ∃ name',
    earlier.columnName = .ok name' ∧ nameKey name' = nameKey name

inductive Refused (p : Policy) (names : Catalog String) : Refusal Item SchemaError where
  | failed {before : List Item} (message : String) :
      Refused p names before (.error message) (.query .columns (.source message))
  | table {before : List Item} {r : Row} {e : CellError} :
      r.text ColumnRow.table = .error e →
      Refused p names before (.ok r) (.query .columns (.cell e))
  | name {before : List Item} {r : Row} {table : String} {e : CellError} :
      Cataloged names r table → r.columnName = .error e →
      Refused p names before (.ok r) (.query .columns (.cell e))
  | column {before : List Item} {r : Row} {table name : String} {e : SchemaError} :
      Cataloged names r table → r.columnName = .ok name →
      Column.ofRow p table name r = .error e → Refused p names before (.ok r) e
  | taken {before : List Item} {r : Row} {table name : String} {column : Column} :
      Cataloged names r table → r.columnName = .ok name →
      Column.ofRow p table name r = .ok column → Taken before table name →
      Refused p names before (.ok r) (.duplicateName .column (table ++ "." ++ name))

def Converts (p : Policy) (r : Row) (column : Column) : Prop :=
  r.columnName = .ok column.name ∧
    ∃ table, r.text ColumnRow.table = .ok table ∧ Column.Told p table r column

structure Entry (p : Policy) (items : List Item) (name : String) (t : String × List Column) :
    Prop where
  key : t.1 = nameKey name
  columns : List.Forall₂ (Converts p) (rowsUnder tableKey? (nameKey name) items) t.2
  distinct : (t.2.map (nameKey ·.name)).Nodup

def Told (p : Policy) (names : Catalog String) (items : List Item) (c : ColumnCatalog) : Prop :=
  List.Forall₂ (Entry p items) names.entries c.tables

theorem tableKey?_of_text (h : r.text ColumnRow.table = .ok table) :
    tableKey? r = some (nameKey table) := by
  simp [tableKey?, h, Except.toOption]

theorem Told.keys (h : Told p names items c) :
    c.tables.map (·.1) = names.entries.map nameKey := by
  have hkeys : List.Forall₂ (fun key t => t.1 = key ∧ True) (names.entries.map nameKey) c.tables :=
    List.forall₂_map_left_iff.mpr (h.imp fun _ _ he => ⟨he.key, trivial⟩)
  exact (map_eq_of_forall₂ hkeys).1

theorem Told.columns?_isSome (h : Told p names before c) :
    (c.columns? table).isSome ↔ ∃ entry ∈ names.entries, nameKey entry = nameKey table := by
  rw [ColumnCatalog.columns?_isSome, h.keys, List.mem_map]

theorem Entry.any_isNamed_iff {entry : String} {t : String × List Column}
    (h : Entry p before entry t) (hkey : t.1 = nameKey table) :
    t.2.any (·.isNamed name) = true ↔ Taken before table name := by
  unfold Taken
  rw [← hkey, h.key]
  simp only [List.any_eq_true, Column.isNamed, sameName_iff]
  constructor
  · rintro ⟨column, hcolumn, hname⟩
    obtain ⟨earlier, hearlier, hconverts⟩ := exists_of_mem_right h.columns column hcolumn
    exact ⟨earlier, hearlier, column.name, hconverts.1, hname⟩
  · rintro ⟨earlier, hearlier, name', hname', hname⟩
    obtain ⟨column, hcolumn, hconverts⟩ := exists_of_mem_left h.columns earlier hearlier
    obtain rfl : column.name = name' := Except.ok.inj (hconverts.1.symm.trans hname')
    exact ⟨column, hcolumn, hname⟩

theorem Told.any_isNamed_iff (h : Told p names before c) {columns : List Column}
    (hc : c.columns? table = some columns) :
    columns.any (·.isNamed name) = true ↔ Taken before table name := by
  obtain ⟨entry, -, he⟩ := exists_of_mem_right h _ (mem_of_columns?_eq_some hc)
  exact he.any_isNamed_iff rfl

theorem addColumn_failed (message : String) :
    (addColumn p c (.error message)).result = .error (.query .columns (.source message)) :=
  rfl

theorem addColumn_unread {e : CellError} (h : r.text ColumnRow.table = .error e) :
    (addColumn p c (.ok r)).result = .error (.query .columns (.cell e)) := by
  unfold addColumn
  simp only [Logged.result_bind, Logged.result_ofExcept, Subject.row, Subject.check, ok_bind, h,
    error_bind]

theorem addColumn_uncataloged (htable : r.text ColumnRow.table = .ok table)
    (h : c.columns? table = none) : (addColumn p c (.ok r)).result = .ok c := by
  unfold addColumn
  simp only [Logged.result_bind, Logged.result_ofExcept, Subject.row, Subject.check, ok_bind,
    htable, h]
  rfl

theorem addColumn_cataloged (hp : p.Usual) (htable : r.text ColumnRow.table = .ok table)
    {columns : List Column} (h : c.columns? table = some columns) :
    (addColumn p c (.ok r)).result = Subject.columns.check r.columnName >>= fun name =>
      Column.ofRow p table name r >>= fun column =>
        if columns.any (·.isNamed name) then
          .error (.duplicateName .column (table ++ "." ++ name))
        else .ok (c.append (nameKey table) column) := by
  unfold addColumn
  simp only [Logged.result_bind, Logged.result_ofExcept, Subject.row, ok_bind, htable,
    Subject.check, h, hp.columnName]
  refine congrArg _ (funext fun name => congrArg _ (funext fun column => ?_))
  split <;> rfl

theorem told_ofTables (p : Policy) (names : Catalog String) : Told p names [] (ofTables names) := by
  refine List.forall₂_map_right_iff.mpr (List.forall₂_same.mpr fun name _ => ?_)
  exact ⟨rfl, .nil, List.nodup_nil⟩

theorem Entry.skip {t : String × List Column} (h : Entry p before name t)
    (hr : tableKey? r ≠ some (nameKey name)) : Entry p (before ++ [.ok r]) name t where
  key := h.key
  columns := by
    rw [rowsUnder_append, rowsUnder_other hr, List.append_nil]
    exact h.columns
  distinct := h.distinct

theorem Entry.join {t : String × List Column} (h : Entry p before name t)
    (hr : tableKey? r = some (nameKey name)) (hcolumn : Converts p r column)
    (hnew : t.2.any (·.isNamed column.name) = false) :
    Entry p (before ++ [.ok r]) name (t.1, t.2 ++ [column]) where
  key := h.key
  columns := by
    rw [rowsUnder_append, rowsUnder_row hr]
    exact List.rel_append h.columns (.cons hcolumn .nil)
  distinct := by
    rw [List.map_append, List.nodup_append]
    refine ⟨h.distinct, by simp, ?_⟩
    rintro _ hk _ hk' rfl
    obtain ⟨other, hother, heq⟩ := List.mem_map.mp hk
    refine List.any_eq_false.mp hnew other hother (sameName_iff.mpr (heq.trans ?_))
    simpa using hk'

theorem Told.skip (h : Told p names before c) (htable : r.text ColumnRow.table = .ok table)
    (hc : c.columns? table = none) : Told p names (before ++ [.ok r]) c := by
  have hother : ∀ name ∈ names.entries, tableKey? r ≠ some (nameKey name) := by
    intro name hname heq
    have hkey : nameKey table = nameKey name :=
      Option.some.inj ((tableKey?_of_text htable).symm.trans heq)
    have hsome := h.columns?_isSome.mpr ⟨name, hname, hkey.symm⟩
    rw [hc] at hsome
    cases hsome
  exact ((List.forall₂_and_left _ _).mpr ⟨hother, h⟩).imp fun _ _ he => he.2.skip he.1

theorem Told.append (h : Told p names before c) (htable : r.text ColumnRow.table = .ok table)
    (hcolumn : Converts p r column) (hnew : ¬Taken before table column.name) :
    Told p names (before ++ [.ok r]) (c.append (nameKey table) column) := by
  have hr := tableKey?_of_text htable
  refine List.forall₂_map_right_iff.mpr (h.imp fun name t he => ?_)
  by_cases hkey : t.1 = nameKey table
  · rw [if_pos (beq_iff_eq.mpr hkey)]
    refine he.join (hr.trans (congrArg some (hkey.symm.trans he.key))) hcolumn ?_
    rw [Bool.eq_false_iff]
    exact mt (he.any_isNamed_iff hkey).mp hnew
  · rw [if_neg (mt beq_iff_eq.mp hkey)]
    refine he.skip fun heq => hkey (he.key.trans ?_)
    exact Option.some.inj (heq.symm.trans hr)

theorem addColumn_outcome (hp : p.Usual) (h : Told p names before c) :
    (∃ c', (addColumn p c item).result = .ok c' ∧ Told p names (before ++ [item]) c') ∨
      ∃ e, (addColumn p c item).result = .error e ∧ Refused p names before item e := by
  cases item with
  | error message => exact .inr ⟨_, addColumn_failed message, .failed message⟩
  | ok r =>
      cases htable : r.text ColumnRow.table with
      | error e => exact .inr ⟨_, addColumn_unread htable, .table htable⟩
      | ok table =>
          cases hc : c.columns? table with
          | none => exact .inl ⟨_, addColumn_uncataloged htable hc, h.skip htable hc⟩
          | some columns =>
              have hcataloged : Cataloged names r table :=
                ⟨htable, h.columns?_isSome.mp (by rw [hc]; rfl)⟩
              rw [addColumn_cataloged hp htable hc]
              cases hname : r.columnName with
              | error e => exact .inr ⟨_, rfl, .name hcataloged hname⟩
              | ok name =>
                  simp only [Subject.check, ok_bind]
                  cases hcolumn : Column.ofRow p table name r with
                  | error e => exact .inr ⟨_, rfl, .column hcataloged hname hcolumn⟩
                  | ok column =>
                      rw [ok_bind]
                      by_cases htaken : Taken before table name
                      · rw [if_pos ((h.any_isNamed_iff hc).mpr htaken)]
                        exact .inr ⟨_, rfl, .taken hcataloged hname hcolumn htaken⟩
                      · rw [if_neg (mt (h.any_isNamed_iff hc).mp htaken)]
                        obtain ⟨rfl, htold⟩ := Column.told_of_ofRow hp hcolumn
                        exact .inl ⟨_, rfl, h.append htable ⟨hname, table, htable, htold⟩ htaken⟩

theorem addColumn_refused (hp : p.Usual) (h : Told p names before c)
    (hr : Refused p names before item e) : (addColumn p c item).result = .error e := by
  have hfound : ∀ {r table}, Cataloged names r table →
      ∃ columns, c.columns? table = some columns := by
    intro r table hcataloged
    exact Option.isSome_iff_exists.mp (h.columns?_isSome.mpr hcataloged.2)
  cases hr with
  | failed message => exact addColumn_failed message
  | table htable => exact addColumn_unread htable
  | name hcataloged hname =>
      obtain ⟨columns, hc⟩ := hfound hcataloged
      rw [addColumn_cataloged hp hcataloged.1 hc, hname]
      rfl
  | column hcataloged hname hcolumn =>
      obtain ⟨columns, hc⟩ := hfound hcataloged
      rw [addColumn_cataloged hp hcataloged.1 hc, hname]
      simp only [Subject.check, ok_bind, hcolumn, error_bind]
  | taken hcataloged hname hcolumn htaken =>
      obtain ⟨columns, hc⟩ := hfound hcataloged
      rw [addColumn_cataloged hp hcataloged.1 hc, hname]
      simp only [Subject.check, ok_bind, hcolumn]
      rw [if_pos ((h.any_isNamed_iff hc).mpr htaken)]

theorem addColumn_governed (hp : p.Usual) (names : Catalog String) :
    (Refused p names).Governs (fun c item => (addColumn p c item).result) (Told p names) where
  outcome h := addColumn_outcome hp h
  refused h := addColumn_refused hp h

theorem result_ofAnswer (p : Policy) (names : Catalog String) (answer : Items) :
    (ofAnswer p names answer).result = Subject.columns.items answer >>= fun items =>
      items.foldlM (fun c item => (addColumn p c item).result) (ofTables names) := by
  unfold ofAnswer
  simp only [Logged.result_bind, Logged.result_ofExcept, Logged.result_foldlM]
  refine congrArg _ (funext fun items => ?_)
  cases items.foldlM (fun c item => (addColumn p c item).result) (ofTables names) <;> rfl

theorem ofAnswer_told (hp : p.Known) (hn : names.WellFormed) (answer : Items) :
    let result := (ofAnswer p names answer).result
    (∀ c, result = .ok c → (c.tables.map (·.1)).Nodup ∧
        ∃ items, answer = .ok items ∧ Told p names items c) ∧
      ((∃ c, result = .ok c) ↔ ∃ items, answer = .ok items ∧ (Refused p names).Accepts items) ∧
      (∀ e, result = .error e ↔
        (∃ message, answer = .error message ∧ e = .query .columns (.source message)) ∨
          ∃ items, answer = .ok items ∧ (Refused p names).Stops items e) ∧
      ∀ table name r, Column.Faithful p table name r := by
  intro result
  have hgoverned := addColumn_governed hp.usual names
  have hstart := told_ofTables p names
  have hresult : result = _ := result_ofAnswer p names answer
  have hrows := Column.ofRow_faithful hp.usual
  cases answer with
  | error message =>
      have hfailed : result = .error (.query .columns (.source message)) := hresult
      rw [hfailed]
      refine ⟨nofun, ⟨nofun, nofun⟩, fun e => ⟨?_, ?_⟩, hrows⟩
      · rintro ⟨⟩
        exact .inl ⟨message, rfl, rfl⟩
      · rintro (⟨_, ⟨⟩, rfl⟩ | ⟨_, ⟨⟩, -⟩)
        rfl
  | ok items =>
      have hitems : result = items.foldlM _ (ofTables names) := hresult
      refine ⟨fun c hc => ?_, ?_, fun e => ?_, hrows⟩
      · have htold : Told p names items c := hgoverned.of_foldlM hstart (hitems.symm.trans hc)
        refine ⟨?_, items, rfl, htold⟩
        rw [htold.keys]
        exact hn.nodup
      · rw [hitems, hgoverned.exists_foldlM_eq_ok_iff hstart]
        simp
      · rw [hitems, hgoverned.foldlM_eq_error_iff hstart]
        simp

theorem ofAnswer_told_mixed :
    let row (table name : String) (typeCode : Int64) : Item :=
      .ok ⟨[.text table, .text name, .integer typeCode, .null, .integer 10, .null, .text "YES",
        .null]⟩
    let names : Catalog String := ⟨.table, ["ORDERS", "ITEMS"], [("ITEMS", 1), ("ORDERS", 0)]⟩
    let answer : Items := .ok [row "orders" "ID" 4, row "ITEMS" "id" 12, row "LOGS" "ID" 93,
      row "Orders" "version" 4]
    Policy.Known .conventional ∧ names.WellFormed ∧
      ∃ c, (ofAnswer .conventional names answer).result = .ok c ∧ (c.tables.map (·.1)).Nodup ∧
        c.tables.map (·.2.length) = [2, 1] ∧
          ∃ items, answer = .ok items ∧ Told .conventional names items c := by
  intro row names answer
  have hnames : names.WellFormed := by
    have h : (Catalog.insert (.empty .table) "ORDERS" "ORDERS" >>= fun c =>
        c.insert "ITEMS" "ITEMS") = .ok names := by decide +kernel
    obtain ⟨c, hc, h⟩ := bind_eq_ok.mp h
    exact ((Catalog.wellFormed_empty .table).insert hc).insert h
  have hlengths : (ofAnswer .conventional names answer).result.toOption.map
      (·.tables.map (·.2.length)) = some [2, 1] := by decide +kernel
  obtain ⟨htold, -⟩ := ofAnswer_told .default hnames answer
  cases hc : (ofAnswer .conventional names answer).result with
  | error e =>
      rw [hc] at hlengths
      cases hlengths
  | ok c =>
      obtain ⟨hkeys, htold⟩ := htold c hc
      rw [hc] at hlengths
      exact ⟨.default, hnames, c, rfl, hkeys, Option.some.inj hlengths, htold⟩

end DatabaseSchema.ColumnCatalog
