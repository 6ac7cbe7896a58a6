import DatabaseSchema.Proofs.Canonical
import DatabaseSchema.Proofs.Folding
import DatabaseSchema.Proofs.PrimaryKey.Order
import DatabaseSchema.Proofs.Replay

namespace DatabaseSchema

open Session Act

variable {key : List String} {columns result : List Column} {table : String}

def Column.unflagged (c : Column) : Column :=
  { c with primaryKey := false }

namespace PrimaryKey

theorem unflagged_mark (hplain : ∀ c ∈ columns, c.primaryKey = false) :
    (mark columns key).map Column.unflagged = columns := by
  rw [mark, List.map_map]
  refine (List.map_congr_left fun c hc => ?_).trans (List.map_id columns)
  have hc' : c.unflagged = c := by rw [Column.unflagged, ← hplain c hc]
  simp only [Function.comp_apply]
  split
  next => exact hc'
  next => exact hc'

theorem perm_of_unflagged (hdistinct : (columns.map (nameKey ·.name)).Nodup)
    (hsub : result ⊆ columns)
    (h : (result.map Column.unflagged).Perm (columns.map Column.unflagged)) :
    result.Perm columns := by
  have hkeys : ∀ cs : List Column,
      (cs.map Column.unflagged).map (nameKey ·.name) = cs.map (nameKey ·.name) :=
    fun cs => List.map_map
  have hnames := h.map (nameKey ·.name)
  rw [hkeys, hkeys] at hnames
  have hnodup : result.Nodup := .of_map _ (hnames.nodup_iff.mpr hdistinct)
  have hlength : columns.length = result.length := by simpa using h.length_eq.symm
  exact (List.subperm_of_subset hnodup hsub).perm_of_length_le (Nat.le_of_eq hlength)

theorem order_perm_iff (hplain : ∀ c ∈ columns, c.primaryKey = false)
    (hdistinct : (columns.map (nameKey ·.name)).Nodup)
    (ho : order table key (mark columns key) = .ok result) :
    (result.map Column.unflagged).Perm columns ↔ RepeatsLast key := by
  obtain ⟨hall, rfl⟩ := order_eq_ok.mp ho
  rw [← names_mark columns key] at hdistinct
  have hsub : arrange (mark columns key) key (mark columns key) ⊆ mark columns key := by
    intro c hc
    rcases mem_arrange hc with hc | hc <;> exact hc
  rw [← arrange_perm_iff hdistinct (flagged_mark hplain) hall]
  constructor
  · intro h
    refine perm_of_unflagged hdistinct hsub ?_
    rwa [unflagged_mark hplain]
  · intro h
    have hperm := h.map Column.unflagged
    rwa [unflagged_mark hplain] at hperm

end PrimaryKey

theorem Session.Reached.order_of_columns {source : Source} {context : Context} {s s' : Session}
    {number : Nat} {t : Table} (h : Reached source context s) (ht : s.face? number = some t)
    (hrun : (Table.columnsOf number).run source s = (.ok result, s')) :
    PrimaryKey.order t.name t.primaryKey (PrimaryKey.mark t.entry t.primaryKey) = .ok result := by
  obtain ⟨t₀, ht₀, -⟩ := Option.map_eq_some_iff.mp ht
  obtain ⟨hr, hk⟩ := h.of_run (Table.columnsOf_grows number) hrun
  cases hr.obtained (Table.columnsOf_ok ht₀ hrun) with
  | finalColumns ht' ho =>
      cases (hk.face ht).symm.trans ht'
      exact ho

theorem columnsOf_perm_iff (source : Source) {context : Context} (hp : context.policy.Known)
    (requests : List Request) {number : Nat} {t : Table}
    (ht : ((start context).serveAll source requests).face? number = some t) :
    let s := (start context).serveAll source requests
    ∃ columns, s.provider.keptColumns = some columns ∧ columns.columns? t.name = some t.entry ∧
      ∀ result, ((Table.columnsOf number).run source s).1 = .ok result →
        ((result.map Column.unflagged).Perm t.entry ↔ PrimaryKey.RepeatsLast t.primaryKey) := by
  intro s
  have hr : Reached source context s := (Reached.start source context).serveAll requests
  obtain ⟨columns, hcolumns, hlookup, hplain, hdistinct⟩ := hr.entry hp.plain ht
  refine ⟨columns, hcolumns, hlookup, fun result hresult => ?_⟩
  have ho := hr.order_of_columns ht (Prod.ext hresult rfl)
  exact PrimaryKey.order_perm_iff hplain hdistinct ho

def pairCalls (key : List String) : List BuilderCall :=
  [.table "Pair", .column (.integer "Pair" "A"), .column (.integer "Pair" "B")] ++
    (PrimaryKey.numbered key).map fun e => .primaryKey "Pair" e.2 e.1

def pairTable (key : List String) : Table where
  name := "Pair"
  primaryKey := key
  entry := ["A", "B"].map fun name =>
    { name, dataType := .integer, width := 10, scale := 0, nullable := true }
  context := { policy := .conventional }

theorem table_pair (hlt : key.length < 2 ^ 31) :
    Uncached.table (Fixture.build (pairCalls key)).answers { policy := .conventional } "Pair" =
      .ok (pairTable key) := by
  have htables : (pairCalls key).flatMap (BuilderCall.rows .tables) =
      [objectRow "Pair" "TABLE"] := by
    simp [pairCalls, BuilderCall.rows, List.flatMap_map]
  have hcolumns : (pairCalls key).filterMap BuilderCall.column? =
      [.integer "Pair" "A", .integer "Pair" "B"] := by
    rw [pairCalls, List.filterMap_append, List.filterMap_map]
    simp [BuilderCall.column?, Function.comp_def, List.filterMap_cons]
  have hentries : (pairCalls key).filterMap (BuilderCall.keyEntry? (nameKey "Pair")) =
      PrimaryKey.numbered key := by
    rw [pairCalls, List.filterMap_append, List.filterMap_map]
    simp [BuilderCall.keyEntry?, Function.comp_def, List.filterMap_cons]
  have hcatalog : Uncached.tableCatalog (Fixture.build (pairCalls key)).answers
      { policy := .conventional } = .ok ⟨.table, ["Pair"], [("PAIR", 0)]⟩ := by
    rw [Uncached.tableCatalog, Fixture.build_tables, htables]
    decide +kernel
  have hcolumnCatalog : Uncached.columnCatalog (Fixture.build (pairCalls key)).answers
      { policy := .conventional } = .ok ⟨[("PAIR", (pairTable []).entry)]⟩ := by
    rw [Uncached.columnCatalog, hcatalog, Fixture.build_columns, hcolumns]
    decide +kernel
  have hkey := Fixture.primaryKey_build (pairCalls key) none "Pair"
  rw [hentries, PrimaryKey.inSequence_of_perm hlt (.refl _)] at hkey
  have hget : (⟨.table, ["Pair"], [("PAIR", 0)]⟩ : Catalog String).get? "Pair" = some "Pair" := by
    decide +kernel
  have hlookup : (⟨[("PAIR", (pairTable []).entry)]⟩ : ColumnCatalog).columns? "Pair" =
      some (pairTable []).entry := by
    decide +kernel
  rw [Uncached.table, hcatalog, ok_bind, hget]
  simp only [hkey, hcolumnCatalog, ok_bind, hlookup]
  rfl

theorem columnsOf_pair (key : List String) (hlt : key.length < 2 ^ 31) :
    let source := (Fixture.build (pairCalls key)).source
    let s := (start { policy := .conventional }).serveAll source [.table "Pair"]
    ∃ number, s.face? number = some (pairTable key) ∧
      ((Table.columnsOf number).run source s).1 = Uncached.finalColumns (pairTable key) := by
  intro source s
  have hstart : Reached (.steady (Fixture.build (pairCalls key)).answers)
      { policy := .conventional } (start { policy := .conventional }) := .start _ _
  have hr : Reached source { policy := .conventional } s := hstart.serveAll [.table "Pair"]
  obtain ⟨number, s₁, t, hrun, -, hface, ht⟩ | ⟨e, -, he⟩ := hstart.getTable_cases "Pair"
  · cases (table_pair hlt).symm.trans ht
    have hs : s = s₁ := by
      show ((Request.table "Pair").act.run
        (.steady (Fixture.build (pairCalls key)).answers) _).2 = s₁
      rw [Request.act, run_bind_ok hrun]
      rfl
    rw [← hs] at hface
    exact ⟨number, hface, (Table.columnsOf_tracks hr.uninterrupted hface).outcome_eq⟩
  · cases (table_pair hlt).symm.trans he

theorem columnsOf_perm_iff_late_repeat :
    let source := (Fixture.build (pairCalls ["B", "a", "b"])).source
    let s := (start { policy := .conventional }).serveAll source [.table "Pair"]
    ∃ number result, Policy.Known .conventional ∧
      s.face? number = some (pairTable ["B", "a", "b"]) ∧
        ((Table.columnsOf number).run source s).1 = .ok result ∧
          PrimaryKey.RepeatsLast ["B", "a", "b"] ∧
            (result.map Column.unflagged).Perm (pairTable ["B", "a", "b"]).entry := by
  intro source s
  obtain ⟨number, hface, hrun⟩ := columnsOf_pair ["B", "a", "b"] (by decide)
  have hresult : Uncached.finalColumns (pairTable ["B", "a", "b"]) = .ok _ := rfl
  rw [hresult] at hrun
  have hlast : PrimaryKey.RepeatsLast ["B", "a", "b"] :=
    ⟨["B", "a"], ["b"], rfl, by decide +kernel, by decide +kernel⟩
  obtain ⟨_, -, -, hiff⟩ := columnsOf_perm_iff source .default [.table "Pair"] hface
  exact ⟨number, _, .default, hface, hrun, hlast, (hiff _ hrun).mpr hlast⟩

theorem columnsOf_early_repeat :
    let source := (Fixture.build (pairCalls ["A", "a", "B"])).source
    let s := (start { policy := .conventional }).serveAll source [.table "Pair"]
    ∃ number result, s.face? number = some (pairTable ["A", "a", "B"]) ∧
      ((Table.columnsOf number).run source s).1 = .ok result ∧
        result.map (·.name) = ["A", "A"] ∧
          ¬(result.map Column.unflagged).Perm (pairTable ["A", "a", "B"]).entry := by
  intro source s
  obtain ⟨number, hface, hrun⟩ := columnsOf_pair ["A", "a", "B"] (by decide)
  have hresult : Uncached.finalColumns (pairTable ["A", "a", "B"]) = .ok _ := rfl
  rw [hresult] at hrun
  exact ⟨number, _, hface, hrun, by decide +kernel, by decide +kernel⟩

end DatabaseSchema
