import DatabaseSchema.Proofs.Columns.TableByTable
import DatabaseSchema.Proofs.Folding
import DatabaseSchema.Proofs.Sqlite.KeyPlaces
import DatabaseSchema.Proofs.Sqlite.Schemas

namespace DatabaseSchema.Sqlite

open Session Act

variable {p : Pragmas} {database : String} {schema : Option String} {entries : List MasterEntry}
  {e : MasterEntry} {names c : Catalog String} {name : String} {items : List Item}
  {tableRows : List (List Row)} {infos : List TableInfo} {catalog : ColumnCatalog}

def Pragmas.Keyed (p : Pragmas) (database : String) : Prop :=
  ∀ entries, p.master database = .ok entries → ∀ e ∈ entries, e.kind = .table →
    ∀ infos, p.tableInfo database e.name = .ok infos → WellKeyed e.name infos

theorem Database.keyed_build (statements : List Statement)
    (h : ∀ s ∈ (Database.build statements).schemas, ∀ o ∈ s.objects,
      (o.columns.map (nameKey ·.name)).Nodup ∧ Numbered o.columns) (database : String) :
    (Database.build statements).pragmas.Keyed database := by
  intro entries hmaster e _ _ infos hinfo
  cases hs : (Database.build statements).schema? database with
  | none =>
      have hfails := hmaster
      simp [Database.pragmas, Database.master, hs] at hfails
  | some s =>
      rw [tableInfo_eq hs, Except.ok.injEq] at hinfo
      cases ho : s.object? e.name with
      | none =>
          rw [ho] at hinfo
          subst hinfo
          exact ⟨List.nodup_nil, by decide, fun _ => by simp⟩
      | some o =>
          rw [ho] at hinfo
          subst hinfo
          have hmem : o ∈ s.objects := List.mem_of_find?_eq_some ho
          have hsame : Text.sameAscii o.name e.name = true := by
            simpa using List.find?_some ho
          obtain ⟨hdistinct, hnumbered⟩ := h s (Database.mem_of_schema? hs) o hmem
          refine ⟨hdistinct, hnumbered, fun hsystem => ?_⟩
          exact Database.build_reserved statements s (Database.mem_of_schema? hs) o hmem
            ((isSystemName_of_sameAscii hsame).trans hsystem)

theorem kindName_eq_table : e.kindName = "TABLE" ↔ isSystemName e.name = false ∧ e.kind = .table := by
  unfold MasterEntry.kindName
  cases isSystemName e.name <;> cases e.kind <;> simp

theorem tableItems_eq_ok {kinds : List String} : p.tableItems database kinds = .ok items ↔
    ∃ entries, p.master database = .ok entries ∧
      items = (entries.filter fun e => kinds.isEmpty || kinds.contains e.kindName).map
        fun e => .ok (tableRow database e) := by
  unfold Pragmas.tableItems
  simp only [bind_eq_ok, pure, Except.pure, Except.ok.injEq, eq_comm (a := items)]

theorem addTable_tableRow (c : Catalog String) (database : String) (e : MasterEntry) :
    (Catalog.addTable .conventional c (.ok (tableRow database e))).result =
      c.insert e.name e.name := by
  have hn : Policy.conventional.tableName (tableRow database e) = .ok e.name :=
    Row.text_of_text rfl
  have hs : (tableRow database e).text? TableRow.schema = .ok (some database) :=
    Row.text?_of_text rfl
  have hk : (tableRow database e).text? TableRow.kind = .ok (some e.kindName) :=
    Row.text?_of_text rfl
  unfold Catalog.addTable
  simp only [Logged.result_bind, Logged.result_ofExcept, Logged.result_emit, Subject.row,
    Subject.check, Part.check, hn, hs, hk, ok_bind]
  rfl

theorem entries_of_foldlM (h : ((entries.map fun e => .ok (tableRow database e)).foldlM
    (Catalog.addTable .conventional) c).result = .ok names) :
    names.entries = c.entries ++ entries.map (·.name) := by
  induction entries generalizing c with
  | nil =>
      cases h
      simp
  | cons e entries ih =>
      rw [List.map_cons, List.foldlM_cons, Logged.result_bind, addTable_tableRow, bind_eq_ok] at h
      obtain ⟨c', hinsert, h⟩ := h
      obtain ⟨-, rfl⟩ := Catalog.insert_eq_ok.mp hinsert
      rw [ih h]
      simp

theorem mem_tableNames_iff (hmaster : p.master database = .ok entries)
    (h : (Catalog.tableNames .conventional (p.tableItems database ["TABLE"])).result = .ok names) :
    name ∈ names.entries ↔
      ∃ e ∈ entries, isSystemName e.name = false ∧ e.kind = .table ∧ e.name = name := by
  obtain ⟨items, hitems, hfold⟩ := Catalog.tableNames_eq_ok h
  obtain ⟨entries', hmaster', rfl⟩ := tableItems_eq_ok.mp hitems
  cases hmaster.symm.trans hmaster'
  rw [entries_of_foldlM hfold]
  simp [Catalog.empty, kindName_eq_table, and_assoc]

theorem tableKey?_keyed : KeyedByTable ColumnCatalog.tableKey? nameKey := fun _ _ _ => rfl

theorem eq_of_yesNo {b flag : Bool} {flag? : Option String} {r : Row} {position : Nat}
    (hcell : r.cells[position]? = some (.yesNo b)) (hflag? : r.text? position = .ok flag?)
    (hflag : flag = decide (flag? = some "YES")) : flag = b := by
  have hread := (Row.text?_of_text hcell).symm.trans hflag?
  cases hread
  rw [hflag]
  cases b <;> rfl

section Told

variable (hk : p.Keyed database) (hmaster : p.master database = .ok entries)
  (hnames : (Catalog.tableNames .conventional (p.tableItems database ["TABLE"])).result = .ok names)
  (hrows : List.Forall₂ (fun e rows => p.columnsOf database e = .ok rows) entries tableRows)

include hmaster hnames hrows

theorem exists_tableInfo (hname : name ∈ names.entries) : ∃ e ∈ entries, e.kind = .table ∧
    e.name = name ∧ ∃ infos, p.tableInfo database name = .ok infos ∧
      infos.map (columnRow e infos) ∈ tableRows := by
  obtain ⟨e, he, -, hkind, rfl⟩ := (mem_tableNames_iff hmaster hnames).mp hname
  obtain ⟨rows, hmem, hcolumns⟩ := exists_of_mem_left hrows e he
  obtain ⟨hview, -⟩ | ⟨-, infos, hinfo, rfl⟩ := columnsOf_eq_ok.mp hcolumns
  · cases hkind.symm.trans hview
  · exact ⟨e, he, hkind, rfl, infos, hinfo, hmem⟩

include hk

theorem presents_of_entry {t : String × List Column} (hname : name ∈ names.entries)
    (hinfo : p.tableInfo database name = .ok infos)
    (ht : ColumnCatalog.Entry .conventional (tableRows.flatten.map .ok) name t) :
    Presents infos t.2 := by
  constructor
  case distinct => exact ht.distinct
  case plain =>
    intro column hcolumn
    obtain ⟨r, -, -, table, -, htold⟩ := exists_of_mem_right ht.columns column hcolumn
    exact htold.primaryKey
  case present =>
    intro i hi
    obtain ⟨e, -, -, rfl, infos', hinfo', hmem⟩ := exists_tableInfo hmaster hnames hrows hname
    cases hinfo.symm.trans hinfo'
    have hrow : columnRow e infos i ∈ rowsUnder ColumnCatalog.tableKey? (nameKey e.name)
        (tableRows.flatten.map .ok) := by
      refine mem_rowsUnder.mpr ⟨List.mem_map_of_mem ?_, tableKey?_keyed e infos i⟩
      exact List.mem_flatten.mpr ⟨_, hmem, List.mem_map_of_mem hi⟩
    obtain ⟨column, hcolumn, hcolumnName, table, -, htold⟩ := exists_of_mem_left ht.columns _ hrow
    obtain ⟨flag?, hflag?, hflag⟩ := htold.nullable
    have hreadName : (columnRow e infos i).columnName = .ok i.name := Row.text_of_text rfl
    exact ⟨column, hcolumn, Except.ok.inj (hcolumnName.symm.trans hreadName),
      eq_of_yesNo rfl hflag? hflag⟩
  case autonumbered =>
    intro column hcolumn hauto
    obtain ⟨r, hr, hcolumnName, table, -, htold⟩ := exists_of_mem_right ht.columns column hcolumn
    obtain ⟨e, he, hkey, hkind, infos', hinfo', i, hi, rfl⟩ :=
      columns_of_mem_rowsUnder tableKey?_keyed hrows hr
    obtain ⟨flag?, hflag?, hflag⟩ := htold.autonumbered
    have hnumbers : isAutonumbered e.sql infos' i = true :=
      (eq_of_yesNo rfl hflag? hflag).symm.trans hauto
    obtain ⟨hinteger, -⟩ := isAutonumbered_iff.mp hnumbers
    -- only the table itself can have the column: another one of the same key is reserved
    have hsystem : isSystemName e.name = false := by
      rw [← Bool.not_eq_true]
      intro hreserved
      have hnone := (hk entries hmaster e he hkind infos' hinfo').reserved hreserved i hi
      exact absurd (hinteger.2.1.symm.trans hnone) (by decide)
    have hcataloged : e.name ∈ names.entries :=
      (mem_tableNames_iff hmaster hnames).mpr ⟨e, he, hsystem, hkind, rfl⟩
    obtain rfl : e.name = name :=
      (Catalog.tableNames_wellFormed hnames).eq_of_key hcataloged hname hkey
    cases hinfo.symm.trans hinfo'
    have hreadName : (columnRow e infos i).columnName = .ok i.name := Row.text_of_text rfl
    exact ⟨i, hi, Except.ok.inj (hreadName.symm.trans hcolumnName), hinteger⟩

end Told

def ShowsKey (p : Pragmas) (database : String) (s : Session) (number : Nat) (t : Table) : Prop :=
  ∃ infos columns, p.tableInfo database t.name = .ok infos ∧
    ((Table.columnsOf number).run p.source s).1 = .ok columns ∧
      KeyTold infos t.primaryKey columns

theorem exists_keyTold (hk : p.Keyed (Pragmas.databaseName schema))
    (hcatalog : Uncached.columnCatalog p.answer ⟨.conventional, schema⟩ = .ok catalog) :
    ∃ names, Uncached.tableCatalog p.answer ⟨.conventional, schema⟩ = .ok names ∧
      ∀ name ∈ names.entries, ∃ t, Uncached.table p.answer ⟨.conventional, schema⟩ name = .ok t ∧
        t.name = name ∧ ∃ infos columns,
          p.tableInfo (Pragmas.databaseName schema) name = .ok infos ∧
            Uncached.finalColumns t = .ok columns ∧ KeyTold infos t.primaryKey columns := by
  obtain ⟨names, hnames, hload⟩ := bind_eq_ok.mp hcatalog
  have hwf : names.WellFormed := Catalog.tableNames_wellFormed hnames
  obtain ⟨-, items, hitems, htold⟩ := (ColumnCatalog.ofAnswer_told .default hwf _).1 catalog hload
  obtain ⟨entries, tableRows, hmaster, hrows, rfl⟩ := columnItems_eq_ok.mp hitems
  refine ⟨names, hnames, fun name hname => ?_⟩
  obtain ⟨e, he, hkind, rfl, infos, hinfo, -⟩ := exists_tableInfo hmaster hnames hrows hname
  obtain ⟨entry, hentry⟩ := Option.isSome_iff_exists.mp (htold.columns?_isSome.mpr ⟨_, hname, rfl⟩)
  obtain ⟨name, hname', ht⟩ :=
    exists_of_mem_right htold _ (ColumnCatalog.mem_of_columns?_eq_some hentry)
  obtain rfl : e.name = name := hwf.eq_of_key hname hname' ht.key
  have hpresents : Presents infos entry := presents_of_entry hk hmaster hnames hrows hname hinfo ht
  obtain ⟨columns, hcolumns, hkey⟩ :=
    hpresents.keyTold (hk entries hmaster e he hkind infos hinfo)
  refine ⟨⟨e.name, keyNames infos, entry, ⟨.conventional, schema⟩, none, none⟩, ?_, rfl, infos,
    columns, hinfo, hcolumns, hkey⟩
  have hget : names.get? e.name = some e.name := hwf.get?_eq_some_iff.mpr ⟨hname, rfl⟩
  have hprimaryKey : (PrimaryKey.ofAnswer e.name
      (p.answer (.primaryKeys schema e.name)).items).result = .ok (keyNames infos) :=
    primaryKey_ofAnswer hinfo
  rw [Uncached.table, hnames, ok_bind, hget]
  simp only [hprimaryKey, hcatalog, hentry, ok_bind]
  rfl

theorem showsKey_of_face {s : Session} {number : Nat} {t : Table}
    (hk : p.Keyed (Pragmas.databaseName schema))
    (hcatalog : Uncached.columnCatalog p.answer ⟨.conventional, schema⟩ = .ok catalog)
    (hr : Reached (.steady p.answer) ⟨.conventional, schema⟩ s) (hface : s.face? number = some t) :
    ShowsKey p (Pragmas.databaseName schema) s number t := by
  obtain ⟨names, hnames, htables⟩ := exists_keyTold hk hcatalog
  have ht := hr.uninterrupted.table_eq hface
  obtain ⟨names', hnames', hget, -⟩ := Uncached.table_eq_ok _ _ ht
  cases hnames.symm.trans hnames'
  have hwf : names.WellFormed := Catalog.tableNames_wellFormed hnames
  obtain ⟨t', ht', -, infos, columns, hinfo, hcolumns, hkey⟩ :=
    htables t.name (hwf.get?_eq_some_iff.mp hget).1
  cases ht.symm.trans ht'
  exact ⟨infos, columns, hinfo,
    (Table.columnsOf_tracks hr.uninterrupted hface).outcome_eq.trans hcolumns, hkey⟩

theorem keys_agree (p : Pragmas) (schema : Option String) (requests : List Request) :
    let s := (start ⟨.conventional, schema⟩).serveAll p.source requests
    p.Keyed (Pragmas.databaseName schema) →
    (∃ catalog, (Provider.columnCatalog.run p.source s).1 = .ok catalog) →
    (∃ names, (Provider.tableNames.run p.source s).1 = .ok names ∧
      ∀ name ∈ names, ∃ number s₁ t,
        (Provider.getTable name).run p.source s = (.ok number, s₁) ∧
          s₁.face? number = some t ∧ t.name = name ∧
            ShowsKey p (Pragmas.databaseName schema) s₁ number t) ∧
    ∀ number t, s.face? number = some t →
      ShowsKey p (Pragmas.databaseName schema) s number t := by
  rintro s hk ⟨catalog, hload⟩
  have hr : Reached (.steady p.answer) ⟨.conventional, schema⟩ s :=
    (Reached.start p.source _).serveAll requests
  have hcatalog : Uncached.columnCatalog p.answer ⟨.conventional, schema⟩ = .ok catalog :=
    (Provider.columnCatalog_tracks hr.uninterrupted).outcome_eq.symm.trans hload
  obtain ⟨names, hnames, htables⟩ := exists_keyTold hk hcatalog
  refine ⟨⟨names.entries, ?_, fun name hname => ?_⟩,
    fun number t hface => showsKey_of_face hk hcatalog hr hface⟩
  · refine result_map_eq_ok.mpr ⟨names, ?_, rfl⟩
    exact (Provider.tableCatalog_tracks hr.uninterrupted).outcome_eq.trans hnames
  · obtain ⟨t, ht, rfl, -⟩ := htables name hname
    obtain ⟨number, s₁, t', hrun, hr₁, hface, ht'⟩ | ⟨e, -, he⟩ := hr.getTable_cases t.name
    · cases ht.symm.trans ht'
      exact ⟨number, s₁, t, hrun, hface, rfl, showsKey_of_face hk hcatalog hr₁ hface⟩
    · cases ht.symm.trans he

def ledgerStatements : List Statement := [
  .createTable none { name := "ledger", primaryKey := some ["account", "day"], columns := [
    { name := "day", type := some "date" }, { name := "note", type := some "text" },
    { name := "account", type := some "int" }] }]

theorem keys_agree_ledger :
    let p := (Database.build ledgerStatements).pragmas
    let s := (start ⟨.conventional, none⟩).serveAll p.source [.tableNames]
    p.Keyed (Pragmas.databaseName none) ∧
      (∃ catalog, (Provider.columnCatalog.run p.source s).1 = .ok catalog) ∧
      ∃ number s₁ t, (Provider.getTable "ledger").run p.source s = (.ok number, s₁) ∧
        s₁.face? number = some t ∧ t.name = "ledger" ∧
          ShowsKey p (Pragmas.databaseName none) s₁ number t := by
  intro p s
  have hk : p.Keyed (Pragmas.databaseName none) :=
    Database.keyed_build ledgerStatements (by decide +kernel) _
  have hload : (Provider.columnCatalog.run p.source s).1.toOption.isSome = true := by
    decide +kernel
  have hcatalog : ∃ catalog, (Provider.columnCatalog.run p.source s).1 = .ok catalog := by
    cases h : (Provider.columnCatalog.run p.source s).1 with
    | ok catalog => exact ⟨catalog, rfl⟩
    | error e =>
        rw [h] at hload
        cases hload
  have hnames : (Provider.tableNames.run p.source s).1 = .ok ["ledger"] := by decide +kernel
  obtain ⟨names, hnames', hfound⟩ := (keys_agree p none [.tableNames] hk hcatalog).1
  obtain rfl : names = ["ledger"] := Except.ok.inj (hnames'.symm.trans hnames)
  exact ⟨hk, hcatalog, hfound "ledger" (by decide)⟩

end DatabaseSchema.Sqlite
