import DatabaseSchema.Proofs.Act
import DatabaseSchema.Proofs.Sqlite.IndexEntries

namespace DatabaseSchema.Sqlite

variable {p : Pragmas} {database table : String} {listed : List IndexListing}
  {terms : String → List IndexTerm} {i : IndexListing} {indexes : List Index}

def IndexListing.toIndex (terms : List IndexTerm) (i : IndexListing) : Index :=
  ⟨i.name, i.unique, terms.filterMap (·.name)⟩

structure Reported (terms : String → List IndexTerm) (i : IndexListing) : Prop where
  name : i.reportedName ≠ primaryIndexName
  named : Named (terms i.name)
  notIgnored : isPerformanceIndex i.name = false

theorem Reported.isKept (h : Reported terms i) : isKept i.name = true := by
  obtain ⟨-, hname⟩ := reportedName_eq_of_ne h.name
  exact isKept_iff.mpr ⟨hname ▸ h.name, h.notIgnored⟩

section PutTogether

variable (h : p.Lists database table listed terms)
  (htold : Index.Told .conventional (entryItems table (sortedEntries terms listed)) indexes)

include h in
theorem rowsUnder_reported (hi : i ∈ listed) (hr : Reported terms i) :
    rowsUnder (Index.keptName? .conventional) i.name
        (entryItems table (sortedEntries terms listed)) =
      (indexEntries i (terms i.name)).map (·.row table) := by
  rw [rowsUnder_entryItems hr.isKept, filter_sortedEntries h hi hr.name hr.named]

include h htold in
theorem eq_toIndex {index : Index} (hindex : index ∈ indexes) (hi : i ∈ listed)
    (hr : Reported terms i) (hname : index.name = i.name) : index = i.toIndex (terms i.name) := by
  have hcolumns := htold.columns index hindex
  have hunique := htold.unique index hindex
  rw [hname, rowsUnder_reported h hi hr] at hcolumns hunique
  obtain ⟨name, unique, columnNames⟩ := index
  obtain rfl : name = i.name := hname
  have hcolumns' : columnNames = (terms i.name).filterMap (·.name) := by
    calc
      columnNames = (columnNames.map Except.ok).filterMap Except.toOption := by
        rw [List.filterMap_map]
        exact List.filterMap_some.symm
      _ = (terms i.name).filterMap (·.name) := by
        rw [← hcolumns]
        simp only [indexEntries, List.filterMap_map, Function.comp_def,
          IndexEntry.toOption_text_row]
  have hunique' : unique = i.unique := by
    obtain ⟨t, ts, hterms⟩ := List.exists_cons_of_ne_nil (h.nonempty i hi)
    rw [hterms] at hunique
    simpa [indexEntries, IndexEntry.boolean_row, eq_comm] using hunique
  rw [hcolumns', hunique']
  rfl

include h htold in
theorem mem_indexes_iff {index : Index} : index ∈ indexes ↔
    ∃ i ∈ listed, Reported terms i ∧ index = i.toIndex (terms i.name) := by
  have hnames : ∀ name, name ∈ indexes.map (·.name) ↔
      ∃ e ∈ sortedEntries terms listed, isKept e.name = true ∧ e.name = name := by
    intro name
    rw [htold.names, List.mem_eraseDups, keysOf_entryItems, List.mem_map]
    simp only [List.mem_filter, and_assoc]
  constructor
  · intro hindex
    obtain ⟨e, he, hkept, hname⟩ := (hnames _).mp (List.mem_map_of_mem hindex)
    obtain ⟨i, hi, he⟩ := mem_sortedEntries_iff.mp he
    obtain ⟨hnamed, t, -, rfl⟩ := mem_entries_iff.mp he
    obtain ⟨hprimary, hignored⟩ := isKept_iff.mp hkept
    obtain ⟨-, hreported⟩ := reportedName_eq_of_ne hprimary
    have hr : Reported terms i := ⟨hprimary, hnamed, hreported ▸ hignored⟩
    exact ⟨i, hi, hr, eq_toIndex h htold hindex hi hr (hname.symm.trans hreported)⟩
  · rintro ⟨i, hi, hr, rfl⟩
    obtain ⟨t, ts, hterms⟩ := List.exists_cons_of_ne_nil (h.nonempty i hi)
    have hname := (reportedName_eq_of_ne hr.name).2
    have he : ⟨!i.unique, i.reportedName, t.sequence + 1, t.name⟩ ∈ sortedEntries terms listed :=
      mem_sortedEntries_iff.mpr ⟨i, hi, mem_entries_iff.mpr ⟨hr.named, t, by simp [hterms], rfl⟩⟩
    obtain ⟨index, hindex, hname'⟩ := List.mem_map.mp
      ((hnames i.name).mpr ⟨_, he, hname ▸ hr.isKept, hname⟩)
    rw [← eq_toIndex h htold hindex hi hr hname']
    exact hindex

def ListedBefore (i j : Index) : Prop :=
  (i.unique = true ∧ j.unique = false) ∨ (i.unique = j.unique ∧ i.name < j.name)

instance : DecidableRel ListedBefore := fun i j =>
  inferInstanceAs (Decidable ((i.unique = true ∧ j.unique = false) ∨
    (i.unique = j.unique ∧ i.name < j.name)))

theorem ListedBefore.asymm {i j : Index} (h : ListedBefore i j) : ¬ListedBefore j i := by
  obtain ⟨hi, hj⟩ | ⟨hsame, hlt⟩ := h
  · rintro (⟨hj', -⟩ | ⟨hsame, -⟩)
    · cases hj.symm.trans hj'
    · cases hi.symm.trans (hsame.symm.trans hj)
  · rintro (⟨hj, hi⟩ | ⟨-, hgt⟩)
    · cases hi.symm.trans (hsame.trans hj)
    · exact hlt.asymm hgt

include h htold in
theorem unique_of_entry {index : Index} {e : IndexEntry} (he : e ∈ sortedEntries terms listed)
    (hindex : index ∈ indexes) (hname : e.name = index.name) : index.unique = !e.nonUnique := by
  obtain ⟨i, hi, hr, rfl⟩ := (mem_indexes_iff h htold).mp hindex
  have he' : e ∈ (sortedEntries terms listed).filter (·.name = i.name) :=
    List.mem_filter.mpr ⟨he, decide_eq_true hname⟩
  rw [filter_sortedEntries h hi hr.name hr.named] at he'
  obtain ⟨t, -, rfl⟩ := List.mem_map.mp he'
  exact (Bool.not_not i.unique).symm

include htold in
theorem exists_firsts : ∃ firsts : List IndexEntry,
    firsts.Sublist (sortedEntries terms listed) ∧
    indexes.map (·.name) = firsts.map (·.name) ∧ (firsts.map (·.name)).Nodup := by
  have hsub : (indexes.map (·.name)).Sublist
      (((sortedEntries terms listed).filter (isKept ·.name)).map (·.name)) := by
    rw [htold.names, keysOf_entryItems]
    exact eraseDups_sublist _
  obtain ⟨firsts, hfirsts, hnames⟩ := List.sublist_map_iff.mp hsub
  refine ⟨firsts, hfirsts.trans List.filter_sublist, hnames, ?_⟩
  rw [← hnames, htold.names]
  exact nodup_eraseDups _

include h htold in
theorem pairwise_listedBefore : indexes.Pairwise ListedBefore := by
  obtain ⟨firsts, hfirsts, hnames, hnodup⟩ := exists_firsts htold
  have hsorted := (IndexEntry.pairwise_sorted _).sublist hfirsts
  -- the entries of an index are flagged alike, so the order of entries goes over to indexes
  have hbefore : (indexes.map (·.name)).Pairwise fun name name' =>
      ∀ i ∈ indexes, ∀ j ∈ indexes, i.name = name → j.name = name' → ListedBefore i j := by
    rw [hnames, List.pairwise_map]
    refine (hsorted.and (List.pairwise_map.mp hnodup)).imp_of_mem ?_
    rintro a b ha hb ⟨hle, hne⟩ i hi j hj hia hjb
    have hia' := unique_of_entry h htold (hfirsts.subset ha) hi hia.symm
    have hjb' := unique_of_entry h htold (hfirsts.subset hb) hj hjb.symm
    obtain ⟨ha', hb'⟩ | ⟨hsame, hlt | ⟨heq, -⟩⟩ := IndexEntry.le_iff.mp hle
    · exact .inl ⟨by rw [hia', ha']; rfl, by rw [hjb', hb']; rfl⟩
    · exact .inr ⟨by rw [hia', hjb', hsame], by rwa [hia, hjb]⟩
    · exact absurd heq hne
  rw [List.pairwise_map] at hbefore
  exact hbefore.imp_of_mem fun hi hj h => h _ hi _ hj rfl rfl

end PutTogether

theorem ofAnswer_reported (h : p.Lists database table listed terms) :
    ∃ indexes, (Index.ofAnswer .conventional table
        (p.indexAnswer database table false).items).result = .ok indexes ∧
      (∀ index, index ∈ indexes ↔
        ∃ i ∈ listed, Reported terms i ∧ index = i.toIndex (terms i.name)) ∧
      (indexes.map (·.name)).Nodup ∧ indexes.Pairwise ListedBefore := by
  have hcolumns : ∀ e ∈ sortedEntries terms listed, ∃ column, e.column = some column := by
    intro e he
    obtain ⟨i, -, he⟩ := mem_sortedEntries_iff.mp he
    obtain ⟨hnamed, t, ht, rfl⟩ := mem_entries_iff.mp he
    exact Option.isSome_iff_exists.mp (hnamed t ht)
  have hgoverned := Index.addRow_governed Policy.Known.default.indexName?_eq table
  have hstart := Index.told_nil .conventional
  obtain ⟨indexes, hfold⟩ := (hgoverned.exists_foldlM_eq_ok_iff hstart).mpr
    (Index.accepts_refused_iff.mpr (readable_entryItems hcolumns))
  have htold := hgoverned.of_foldlM hstart hfold
  refine ⟨indexes, ?_, fun index => mem_indexes_iff h htold, ?_, pairwise_listedBefore h htold⟩
  · rw [h.indexAnswer_items, Index.ofAnswer, Logged.result_bind, Logged.result_ofExcept]
    exact (Index.result_ofItems _ _ _).trans hfold
  · rw [htold.names]
    exact nodup_eraseDups _

theorem loadIndexes_listed (p : Pragmas) (schema : Option String) (table : String)
    (listed : List IndexListing) (terms : String → List IndexTerm) (s : Session)
    (h : p.Lists (Pragmas.databaseName schema) table listed terms)
    (hkey : ∀ i ∈ listed, i.name = primaryIndexName → i.origin = .primaryKey) :
    ∃ indexes,
      ((Context.loadIndexes ⟨.conventional, schema⟩ table).run p.source s).1 = .ok indexes ∧
        indexes.Perm ((listed.filter fun i => i.origin ≠ .primaryKey ∧ Named (terms i.name) ∧
          isPerformanceIndex i.name = false).map fun i => i.toIndex (terms i.name)) ∧
        indexes.Pairwise ListedBefore := by
  obtain ⟨indexes, hresult, hmem, hnodup, hordered⟩ := ofAnswer_reported h
  refine ⟨indexes, ?_, ?_, hordered⟩
  · obtain ⟨events, hrun⟩ := @Context.run_loadIndexes p.source s ⟨.conventional, schema⟩ table
    rw [hrun]
    exact hresult
  · have hreported : ∀ i ∈ listed, Reported terms i ↔ i.origin ≠ .primaryKey ∧
        Named (terms i.name) ∧ isPerformanceIndex i.name = false := by
      intro i hi
      constructor
      · rintro ⟨hname, hnamed, hignored⟩
        exact ⟨(reportedName_ne_iff.mp hname).1, hnamed, hignored⟩
      · rintro ⟨horigin, hnamed, hignored⟩
        exact ⟨reportedName_ne_iff.mpr ⟨horigin, mt (hkey i hi) horigin⟩, hnamed, hignored⟩
    refine (List.perm_ext_iff_of_nodup hnodup.of_map (.of_map (·.name) ?_)).mpr fun index => ?_
    · rw [List.map_map]
      exact h.nodup.sublist (List.filter_sublist.map _)
    · rw [hmem, List.mem_map]
      refine exists_congr fun i => ?_
      rw [List.mem_filter, decide_eq_true_iff, and_assoc]
      refine and_congr_right fun hi => ?_
      rw [hreported i hi, eq_comm (a := index)]

theorem loadIndexes_listed_orders :
    let listed : List IndexListing := [⟨"idx_b", false, .statement⟩,
      ⟨"sqlite_autoindex_ORDERS_1", true, .primaryKey⟩, ⟨"idx_lower", false, .statement⟩,
      ⟨"idx_a_prf1", false, .statement⟩, ⟨"uq_c", true, .uniqueConstraint⟩,
      ⟨"idx_a", false, .statement⟩]
    let terms (name : String) : List IndexTerm :=
      if name = "idx_lower" then [⟨0, some "A"⟩, ⟨1, none⟩] else [⟨0, some "B"⟩, ⟨1, some "A"⟩]
    let p : Pragmas := ⟨fun _ => .ok [], fun _ _ => .ok [], fun _ _ => .ok listed,
      fun _ name => .ok (terms name)⟩
    p.Lists (Pragmas.databaseName none) "ORDERS" listed terms ∧
      (∀ i ∈ listed, i.name = primaryIndexName → i.origin = .primaryKey) ∧
      ((Context.loadIndexes ⟨.conventional, none⟩ "ORDERS").run p.source
        (.start ⟨.conventional, none⟩)).1 = .ok [⟨"uq_c", true, ["B", "A"]⟩,
          ⟨"idx_a", false, ["B", "A"]⟩, ⟨"idx_b", false, ["B", "A"]⟩] := by
  intro listed terms p
  have hlists : p.Lists (Pragmas.databaseName none) "ORDERS" listed terms := by
    constructor
    case list => rfl
    case info => exact fun _ _ => rfl
    case nodup => decide +kernel
    case nonempty => decide +kernel
    case ascending => decide +kernel
  have hkey : ∀ i ∈ listed, i.name = primaryIndexName → i.origin = .primaryKey := by
    decide +kernel
  obtain ⟨indexes, hresult, hperm, hordered⟩ :=
    loadIndexes_listed p none "ORDERS" listed terms (.start ⟨.conventional, none⟩) hlists hkey
  refine ⟨hlists, hkey, hresult.trans (congrArg _ ?_)⟩
  refine List.Perm.eq_of_pairwise (fun i j _ _ h h' => absurd h' h.asymm) hordered ?_
    (hperm.trans ?_)
  · decide +kernel
  · decide +kernel

end DatabaseSchema.Sqlite
