import DatabaseSchema.Proofs.Canonical
import DatabaseSchema.Proofs.Folding
import DatabaseSchema.Proofs.Sqlite.Indexes

namespace DatabaseSchema.Sqlite

open Session

variable {p : Pragmas} {schema : Option String} {requests : List Request} {number : Nat}
  {t : Table} {listed : List IndexListing} {terms : String → List IndexTerm} {i : IndexListing}

theorem indexesOf_reported
    (hface : ((start ⟨.conventional, schema⟩).serveAll p.source requests).face? number = some t)
    (h : p.Lists (Pragmas.databaseName schema) t.name listed terms) :
    ∃ indexes, ((Table.indexesOf number).run p.source
        ((start ⟨.conventional, schema⟩).serveAll p.source requests)).1 = .ok indexes ∧
      ∀ index, index ∈ indexes ↔
        ∃ i ∈ listed, Reported terms i ∧ index = i.toIndex (terms i.name) := by
  have hreached : Reached (.steady p.answer) ⟨.conventional, schema⟩
      ((start ⟨.conventional, schema⟩).serveAll p.source requests) :=
    (Reached.start p.source _).serveAll requests
  obtain ⟨indexes, hresult, hmem, -⟩ := ofAnswer_reported h
  refine ⟨indexes, ?_, hmem⟩
  have hrun := (Table.indexesOf_tracks hreached.uninterrupted hface).outcome_eq
  refine hrun.trans ?_
  rw [Uncached.indexes, hreached.face_context hface]
  exact hresult

theorem columnNames_toIndex (h : Named (terms i.name)) :
    (i.toIndex (terms i.name)).columnNames.map some = (terms i.name).map (·.name) := by
  show ((terms i.name).filterMap (·.name)).map some = _
  rw [List.map_filterMap, ← List.filterMap_eq_map]
  refine List.filterMap_congr fun t ht => ?_
  obtain ⟨column, hcolumn⟩ := Option.isSome_iff_exists.mp (h t ht)
  simp [hcolumn]

theorem indexesOf_secondary (p : Pragmas) (schema : Option String) (requests : List Request)
    (number : Nat) (t : Table) (listed : List IndexListing) (terms : String → List IndexTerm) :
    let s := (start ⟨.conventional, schema⟩).serveAll p.source requests
    s.face? number = some t → p.Lists (Pragmas.databaseName schema) t.name listed terms →
    ∃ indexes, ((Table.indexesOf number).run p.source s).1 = .ok indexes ∧
      ∀ i ∈ listed, i.origin ≠ .primaryKey → Named (terms i.name) →
        isPerformanceIndex i.name = false →
        ((∃ index ∈ indexes, index.name = i.name ∧
            index.columnNames.map some = (terms i.name).map (·.name)) ↔
          i.name ≠ primaryIndexName) := by
  intro s hface h
  obtain ⟨indexes, hresult, hmem⟩ := indexesOf_reported hface h
  refine ⟨indexes, hresult, fun i hi horigin hnamed hignored => ⟨?_, ?_⟩⟩
  · rintro ⟨index, hindex, hname, -⟩
    obtain ⟨j, -, hj, rfl⟩ := (hmem index).mp hindex
    exact hname ▸ (reportedName_ne_iff.mp hj.name).2
  · intro hname
    have hi' : Reported terms i := ⟨reportedName_ne_iff.mpr ⟨horigin, hname⟩, hnamed, hignored⟩
    refine ⟨i.toIndex (terms i.name), (hmem _).mpr ⟨i, hi, hi', rfl⟩, rfl, ?_⟩
    exact columnNames_toIndex hnamed

def ofIndexes (listed : List IndexListing) : Pragmas :=
  ⟨fun _ => .ok [⟨"t", .table, none⟩], fun _ _ => .ok [⟨"a", "", false, none, 0⟩],
    fun _ _ => .ok listed, fun _ _ => .ok [⟨0, some "a"⟩]⟩

theorem ofIndexes_lists (database table : String) (hnodup : (listed.map (·.name)).Nodup) :
    (ofIndexes listed).Lists database table listed fun _ => [⟨0, some "a"⟩] where
  list := rfl
  info _ _ := rfl
  nodup := hnodup
  nonempty _ _ := by simp
  ascending _ _ := List.pairwise_singleton _ _

theorem indexesOf_secondary_named :
    let listed : List IndexListing := [⟨"by_a", false, .statement⟩, ⟨"PRIMARY", true, .statement⟩]
    let s := (start ⟨.conventional, none⟩).serveAll (ofIndexes listed).source [.table "t"]
    ∃ t, s.face? 0 = some t ∧
      (ofIndexes listed).Lists (Pragmas.databaseName none) t.name listed
        (fun _ => [⟨0, some "a"⟩]) ∧
      ∃ indexes, ((Table.indexesOf 0).run (ofIndexes listed).source s).1 = .ok indexes ∧
        ∃ index ∈ indexes, index.name = "by_a" ∧ index.columnNames = ["a"] := by
  intro listed s
  have hface : (s.face? 0).isSome := by decide +kernel
  obtain ⟨t, hface⟩ := Option.isSome_iff_exists.mp hface
  have hlists := ofIndexes_lists (Pragmas.databaseName none) t.name
    (show (listed.map (·.name)).Nodup by decide)
  obtain ⟨indexes, hresult, hindexes⟩ := indexesOf_secondary (ofIndexes listed) none [.table "t"] 0
    t listed _ hface hlists
  obtain ⟨index, hindex, hname, hcolumns⟩ :=
    (hindexes ⟨"by_a", false, .statement⟩ (by decide) (by decide) (by decide)
      (by decide +kernel)).mpr (by decide)
  refine ⟨t, hface, hlists, indexes, hresult, index, hindex, hname, ?_⟩
  exact List.map_injective_iff.mpr (Option.some_injective String) hcolumns

theorem indexesOf_secondary_primary :
    let i : IndexListing := ⟨"PRIMARY", false, .statement⟩
    let terms : List IndexTerm := [⟨0, some "a"⟩]
    let s := (start ⟨.conventional, none⟩).serveAll (ofIndexes [i]).source [.table "t"]
    (s.face? 0).map (·.name) = some "t" ∧
      (ofIndexes [i]).indexList (Pragmas.databaseName none) "t" = .ok [i] ∧
      (ofIndexes [i]).indexInfo (Pragmas.databaseName none) "PRIMARY" = .ok terms ∧
      i.origin ≠ .primaryKey ∧ Named terms ∧ isPerformanceIndex i.name = false ∧
      ((Table.indexesOf 0).run (ofIndexes [i]).source s).1 = .ok [] := by
  intro i terms s
  have hname : (s.face? 0).map (·.name) = some "t" := by decide +kernel
  obtain ⟨t, hface, -⟩ := Option.map_eq_some_iff.mp hname
  have hlists := ofIndexes_lists (Pragmas.databaseName none) t.name
    (show ([i].map (·.name)).Nodup by decide)
  obtain ⟨indexes, hresult, hmem⟩ := indexesOf_reported hface hlists
  have hnone : indexes = [] := by
    refine List.eq_nil_iff_forall_not_mem.mpr fun index hindex => ?_
    obtain ⟨j, hj, hreported, -⟩ := (hmem index).mp hindex
    rw [List.mem_singleton.mp hj] at hreported
    exact hreported.name rfl
  refine ⟨hname, rfl, rfl, by decide, by decide, by decide +kernel, ?_⟩
  rw [hresult, hnone]

end DatabaseSchema.Sqlite
