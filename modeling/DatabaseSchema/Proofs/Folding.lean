import DatabaseSchema.Proofs.Uncached.Snapshot

namespace DatabaseSchema

open Session Act

variable {α : Type} {answers : Query → Answer} {context : Context} {s s₁ s₂ : Session}
  {snap : SchemaSnapshot} {names : Catalog String} {name a b : String} {number number' : Nat}

theorem Act.Tracks.outcome_eq {act : Act α} {ideal : Except SchemaError α}
    (h : Tracks answers (fun _ _ => none) context act ideal Same s) :
    (act.run (.steady answers) s).1 = ideal :=
  h.meets.eq_of_never

structure Session.Shows (source : Source) (s : Session) (number : Nat) (ts : TableSnapshot) :
    Prop where
  name : ∃ t, s.face? number = some t ∧ t.name = ts.name
  snapshot : ((Table.snapshotOf number).run source s).1 = .ok ts
  column : ∀ name, ((Table.columnOf? number name).run source s).1 = .ok (ts.column? name)

structure Session.LooksUp (source : Source) (s : Session) (snap : SchemaSnapshot) : Prop where
  snapshot : (Provider.snapshot.run source s).1 = .ok snap
  isEmpty : (Provider.isEmpty.run source s).1 = .ok snap.isEmpty
  tableNames : (Provider.tableNames.run source s).1 = .ok (snap.tables.map (·.name))
  tableExists : ∀ name,
    ((Provider.tableExists name).run source s).1 = .ok (snap.table? name).isSome
  table?_isSome : ∀ name,
    (snap.table? name).isSome ↔ ∃ m ∈ snap.tables.map (·.name), nameKey m = nameKey name
  notFound : ∀ name,
    ((Provider.getTable name).run source s).1 = .error (.tableNotFound name) ↔
      snap.table? name = none
  found : ∀ name ts, snap.table? name = some ts →
    ts ∈ snap.tables ∧ nameKey ts.name = nameKey name ∧
      ∃ number s₁, (Provider.getTable name).run source s = (.ok number, s₁) ∧
        ∀ requests, (s₁.serveAll source requests).Shows source number ts
  sameTable : ∀ a b number number' s₁ s₂ requests,
    (Provider.getTable a).run source s = (.ok number, s₁) →
    (Provider.getTable b).run source (s₁.serveAll source requests) = (.ok number', s₂) →
    (number' = number ↔ nameKey a = nameKey b)
  column?_isSome : ∀ ts ∈ snap.tables, ∀ name,
    (ts.column? name).isSome ↔ ∃ c ∈ ts.columns, nameKey c.name = nameKey name

namespace Session.Reached

open Uncached

variable (hr : Reached (.steady answers) context s)

include hr

theorem uninterrupted : Reached (.interrupted answers fun _ _ => none) context s := hr

theorem getTable_cases (name : String) :
    (∃ number s₁ t, (Provider.getTable name).run (.steady answers) s = (.ok number, s₁) ∧
      Reached (.steady answers) context s₁ ∧ s₁.face? number = some t ∧
        table answers context name = .ok t) ∨
    ∃ e, ((Provider.getTable name).run (.steady answers) s).1 = .error e ∧
      table answers context name = .error e := by
  have ⟨hr₁, _, hm⟩ := Provider.getTable_tracks name hr.uninterrupted
  rw [Source.interrupted_never] at hr₁ hm
  rcases hrun : (Provider.getTable name).run (.steady answers) s with ⟨r, s₁⟩
  rw [hrun] at hr₁ hm
  cases hm with
  | ok ht hface => exact .inl ⟨_, s₁, _, rfl, hr₁, hface, ht⟩
  | error ht => exact .inr ⟨_, rfl, ht⟩
  | interrupted hi =>
      obtain ⟨-, -, hfail⟩ := hi
      cases hfail

theorem getTable_ok (hrun : (Provider.getTable name).run (.steady answers) s = (.ok number, s₁)) :
    Reached (.steady answers) context s₁ ∧
      ∃ t, s₁.face? number = some t ∧ table answers context name = .ok t := by
  obtain ⟨_, _, t, hrun', hr₁, hface, ht⟩ | ⟨e, he, -⟩ := hr.getTable_cases name
  · cases hrun.symm.trans hrun'
    exact ⟨hr₁, t, hface, ht⟩
  · rw [hrun] at he
    cases he

theorem getTable_eq_error_iff {e : SchemaError} :
    ((Provider.getTable name).run (.steady answers) s).1 = .error e ↔
      table answers context name = .error e := by
  obtain ⟨_, _, t, hrun, -, -, ht⟩ | ⟨e', he, ht⟩ := hr.getTable_cases name
  · simp [hrun, ht]
  · simp [he, ht]

theorem number_eq_iff {requests : List Request}
    (ha : (Provider.getTable a).run (.steady answers) s = (.ok number, s₁))
    (hb : (Provider.getTable b).run (.steady answers) (s₁.serveAll (.steady answers) requests) =
      (.ok number', s₂)) : number' = number ↔ nameKey a = nameKey b := by
  obtain ⟨hr₁, t, hface, hta⟩ := hr.getTable_ok ha
  obtain ⟨_, hgrowth⟩ := serveAll_growth (.steady answers) hr₁.sound requests
  obtain ⟨-, t', hface', htb⟩ := (hr₁.serveAll requests).getTable_ok hb
  obtain ⟨-, hkeeps⟩ := (hr₁.serveAll requests).of_run (Provider.getTable_grows b) hb
  constructor
  · rintro rfl
    cases (hkeeps.face (hgrowth.toKeeps.face hface)).symm.trans hface'
    rw [← table_name hta, table_name htb]
  · intro hkey
    have hkept : s₁.content? (.table b) = some (.number number) := by
      simp [content?, ← hkey, Provider.getTable_ok ha]
    have hlookup := hgrowth.toKeeps.content _ _ hkept
    simp only [content?, Option.map_eq_some_iff, Content.number.injEq] at hlookup
    obtain ⟨_, hlookup, rfl⟩ := hlookup
    cases hb.symm.trans (Provider.getTable_kept hlookup)
    rfl

theorem shows_of_face {t : Table} {ts : TableSnapshot} (hface : s.face? number = some t)
    (hts : tableSnapshot answers t = .ok ts) : s.Shows (.steady answers) number ts := by
  obtain ⟨hname, -, hcolumns, -⟩ := tableSnapshot_eq_ok hts
  refine ⟨⟨t, hface, hname.symm⟩, ?_, fun name => ?_⟩
  · rw [← hts]
    exact (Table.snapshotOf_tracks hr.uninterrupted hface).outcome_eq
  · refine result_map_eq_ok.mpr ⟨ts.columns, ?_, rfl⟩
    rw [← hcolumns]
    exact (Table.columnsOf_tracks hr.uninterrupted hface).outcome_eq

theorem uncached_snapshot (h : (Provider.snapshot.run (.steady answers) s).1 = .ok snap) :
    Uncached.snapshot answers context = .ok snap := by
  rw [← h]
  exact (Provider.snapshot_tracks hr.uninterrupted).outcome_eq.symm

theorem looksUp (h : Uncached.snapshot answers context = .ok snap) :
    s.LooksUp (.steady answers) snap := by
  obtain ⟨names, hholds⟩ := holds_of_snapshot h
  have hcatalog : (Provider.tableCatalog.run (.steady answers) s).1 = .ok names := by
    rw [← hholds.catalog]
    exact (Provider.tableCatalog_tracks hr.uninterrupted).outcome_eq
  exact {
    snapshot := by
      rw [← h]
      exact (Provider.snapshot_tracks hr.uninterrupted).outcome_eq
    isEmpty := by
      refine result_map_eq_ok.mpr ⟨names, hcatalog, ?_⟩
      rw [Catalog.isEmpty, ← hholds.names, List.isEmpty_map]
      rfl
    tableNames := result_map_eq_ok.mpr ⟨names, hcatalog, hholds.names.symm⟩
    tableExists := fun name => result_map_eq_ok.mpr ⟨names, hcatalog, hholds.contains_eq⟩
    table?_isSome := fun name => by
      rw [hholds.names, ← hholds.wellFormed.contains_iff, hholds.contains_eq]
    notFound := fun name => by
      rw [hr.getTable_eq_error_iff]
      refine ⟨fun ht => ?_, hholds.table_eq_notFound⟩
      cases hts : snap.table? name with
      | none => rfl
      | some ts =>
          obtain ⟨-, -, t, ht', -⟩ := hholds.table?_eq_some hts
          cases ht.symm.trans ht'
    found := fun name ts hts => by
      obtain ⟨hmem, hkey, t, ht, hs⟩ := hholds.table?_eq_some hts
      obtain ⟨number, s₁, t', hrun, hr₁, hface, ht'⟩ | ⟨e, -, he⟩ := hr.getTable_cases name
      · cases ht.symm.trans ht'
        refine ⟨hmem, hkey, number, s₁, hrun, fun requests => ?_⟩
        obtain ⟨_, hgrowth⟩ := serveAll_growth (.steady answers) hr₁.sound requests
        exact (hr₁.serveAll requests).shows_of_face (hgrowth.toKeeps.face hface) hs
      · cases ht.symm.trans he
    sameTable := fun a b number number' s₁ s₂ requests => hr.number_eq_iff
    column?_isSome := fun ts _ name => by
      simp only [TableSnapshot.column?, List.find?_isSome, Column.isNamed, sameName_iff] }

end Session.Reached

theorem lookups_agree (answers : Query → Answer) (context : Context) (snap : SchemaSnapshot)
    (h : (Provider.snapshot.run (.steady answers) (start context)).1 = .ok snap)
    (requests : List Request) :
    ((start context).serveAll (.steady answers) requests).LooksUp (.steady answers) snap ∧
      ∀ a b, sameName a b = true ↔ nameKey a = nameKey b := by
  have hstart := Reached.start (.steady answers) context
  have hsnapshot := hstart.uncached_snapshot h
  exact ⟨(hstart.serveAll requests).looksUp hsnapshot, fun _ _ => sameName_iff⟩

theorem lookups_agree_orders :
    let answers := (Fixture.build ordersCalls).answers
    let context : Context := { policy := .conventional }
    let requests := [.table "orders", .table "none", .ofTable 0 .columns]
    (Provider.snapshot.run (.steady answers) (start context)).1 = .ok ordersSnapshot ∧
      ((start context).serveAll (.steady answers) requests).LooksUp (.steady answers)
        ordersSnapshot ∧
      ∀ a b, sameName a b = true ↔ nameKey a = nameKey b := by
  intro answers context requests
  have hsnapshot : (Provider.snapshot.run (.steady answers) (start context)).1 =
      .ok ordersSnapshot := by decide +kernel
  exact ⟨hsnapshot, lookups_agree answers context ordersSnapshot hsnapshot requests⟩

end DatabaseSchema
