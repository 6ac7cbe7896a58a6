import DatabaseSchema.Proofs.Indexes.Grouping
import DatabaseSchema.Proofs.Replay.Rows
import DatabaseSchema.Sqlite.Pragma
import Mathlib.Data.List.Sort
import Mathlib.Data.String.Basic

namespace DatabaseSchema.Sqlite

variable {p : Pragmas} {database table : String} {listed : List IndexListing}
  {terms : String → List IndexTerm} {i j : IndexListing} {a b c e : IndexEntry}
  {es : List IndexEntry} {name : String}

namespace IndexEntry

theorem le_iff : le a b = true ↔ (a.nonUnique = false ∧ b.nonUnique = true) ∨
    (a.nonUnique = b.nonUnique ∧
      (a.name < b.name ∨ (a.name = b.name ∧ a.ordinal ≤ b.ordinal))) := by
  unfold le
  by_cases hunique : a.nonUnique = b.nonUnique
  · by_cases hname : a.name = b.name
    · simp [hunique, hname]
    · simp [hunique, hname]
  · cases ha : a.nonUnique <;> cases hb : b.nonUnique <;> simp_all

theorem le_mk_iff {nonUnique : Bool} {ordinal ordinal' : Nat} {column column' : Option String} :
    le ⟨nonUnique, name, ordinal, column⟩ ⟨nonUnique, name, ordinal', column'⟩ = true ↔
      ordinal ≤ ordinal' := by
  simp [le]

theorem le_trans (hab : le a b = true) (hbc : le b c = true) : le a c = true := by
  rw [le_iff] at *
  obtain ⟨ha, hb⟩ | ⟨hab, hab'⟩ := hab
  · obtain ⟨hb', -⟩ | ⟨hbc, -⟩ := hbc
    · rw [hb] at hb'
      cases hb'
    · exact .inl ⟨ha, hbc.symm.trans hb⟩
  · obtain ⟨hb, hc⟩ | ⟨hbc, hbc'⟩ := hbc
    · exact .inl ⟨hab.trans hb, hc⟩
    · refine .inr ⟨hab.trans hbc, ?_⟩
      obtain hab' | ⟨hab', hle⟩ := hab' <;> obtain hbc' | ⟨hbc', hle'⟩ := hbc'
      · exact .inl (hab'.trans hbc')
      · exact .inl (hbc' ▸ hab')
      · exact .inl (hab' ▸ hbc')
      · exact .inr ⟨hab'.trans hbc', hle.trans hle'⟩

theorem le_total (a b : IndexEntry) : (le a b || le b a) = true := by
  rw [Bool.or_eq_true, le_iff, le_iff]
  obtain hname | hname | hname := lt_trichotomy a.name b.name
  · cases a.nonUnique <;> cases b.nonUnique <;> simp [hname]
  · have := Nat.le_total a.ordinal b.ordinal
    cases a.nonUnique <;> cases b.nonUnique <;> simp [hname, this]
  · cases a.nonUnique <;> cases b.nonUnique <;> simp [hname]

theorem pairwise_sorted (es : List IndexEntry) :
    (es.mergeSort le).Pairwise fun a b => le a b = true :=
  @List.pairwise_mergeSort _ le (fun _ _ _ => le_trans) le_total es

end IndexEntry

def entryItems (table : String) (es : List IndexEntry) : List Item :=
  es.map fun e => .ok (e.row table)

def isKept (name : String) : Bool :=
  !(name == primaryIndexName || isPerformanceIndex name)

theorem isKept_iff : isKept name = true ↔
    name ≠ primaryIndexName ∧ isPerformanceIndex name = false := by
  simp [isKept]

theorem IndexEntry.indexName?_row : (e.row table).indexName? = .ok (some e.name) :=
  Row.text?_of_text rfl

theorem IndexEntry.boolean_row : (e.row table).boolean IndexRow.nonUnique = .ok e.nonUnique :=
  Row.boolean_of_boolean rfl

theorem IndexEntry.text_row {column : String} (h : e.column = some column) :
    (e.row table).text IndexRow.column = .ok column := by
  refine Row.text_of_text ?_
  simp [IndexEntry.row, h, Cell.ofText?]

theorem IndexEntry.toOption_text_row :
    ((e.row table).text IndexRow.column).toOption = e.column := by
  cases h : e.column with
  | some column => rw [text_row h, Except.toOption]
  | none =>
      have hcell : (e.row table).cells[IndexRow.column]? = some .null := by
        simp [IndexEntry.row, h, Cell.ofText?]
      rw [Row.text, Row.text?_of_null hcell]
      rfl

theorem IndexEntry.keptName?_row :
    Index.keptName? .conventional (e.row table) = if isKept e.name then some e.name else none := by
  unfold Index.keptName? isKept
  rw [indexName?_row]
  simp only [Policy.isKeyIndex_conventional, Policy.isIgnoredIndex_conventional]
  cases (e.name == primaryIndexName || isPerformanceIndex e.name) <;> rfl

theorem rows_entryItems : Item.rows (entryItems table es) = es.map (·.row table) := by
  simp [Item.rows, entryItems, List.filterMap_map, Function.comp_def, Except.toOption]

theorem keysOf_entryItems : keysOf (Index.keptName? .conventional) (entryItems table es) =
    (es.filter (isKept ·.name)).map (·.name) := by
  rw [keysOf, rows_entryItems, List.filterMap_map, ← List.filterMap_eq_map, List.filterMap_filter]
  exact List.filterMap_congr fun e _ => IndexEntry.keptName?_row

theorem rowsUnder_entryItems (h : isKept name = true) :
    rowsUnder (Index.keptName? .conventional) name (entryItems table es) =
      (es.filter (·.name = name)).map (·.row table) := by
  rw [rowsUnder, rows_entryItems, List.filter_map]
  refine congrArg _ (List.filter_congr fun e _ => ?_)
  rw [Function.comp_apply, IndexEntry.keptName?_row]
  by_cases hname : e.name = name
  · simp [h, hname]
  · cases isKept e.name <;> simp [hname]

theorem readable_entryItems (h : ∀ e ∈ es, ∃ column, e.column = some column) :
    Index.Readable .conventional (entryItems table es) := by
  have hrow : ∀ r, .ok r ∈ entryItems table es → ∃ e ∈ es, e.row table = r := by
    intro r hr
    simpa [entryItems] using hr
  constructor
  case rows =>
    intro item hitem
    obtain ⟨e, -, rfl⟩ := List.mem_map.mp hitem
    exact ⟨e.row table, rfl⟩
  case names =>
    intro r hr
    obtain ⟨e, -, rfl⟩ := hrow r hr
    exact ⟨some e.name, IndexEntry.indexName?_row⟩
  case columns =>
    intro r name hr _
    obtain ⟨e, he, rfl⟩ := hrow r hr
    obtain ⟨column, hcolumn⟩ := h e he
    exact ⟨column, IndexEntry.text_row hcolumn⟩
  case unique =>
    intro name r hr
    obtain ⟨e, -, rfl⟩ := hrow r (mem_rowsUnder.mp (List.mem_of_mem_head? hr)).1
    exact ⟨e.nonUnique, IndexEntry.boolean_row⟩

structure Pragmas.Lists (p : Pragmas) (database table : String) (listed : List IndexListing)
    (terms : String → List IndexTerm) : Prop where
  list : p.indexList database table = .ok listed
  info : ∀ i ∈ listed, p.indexInfo database i.name = .ok (terms i.name)
  nodup : (listed.map (·.name)).Nodup
  nonempty : ∀ i ∈ listed, terms i.name ≠ []
  ascending : ∀ i ∈ listed, (terms i.name).Pairwise (·.sequence < ·.sequence)

def Named (terms : List IndexTerm) : Prop := ∀ t ∈ terms, t.name.isSome

instance (terms : List IndexTerm) : Decidable (Named terms) :=
  inferInstanceAs (Decidable (∀ t ∈ terms, t.name.isSome))

def entries (terms : String → List IndexTerm) (i : IndexListing) : List IndexEntry :=
  if (terms i.name).any (·.name.isNone) then [] else indexEntries i (terms i.name)

theorem any_isNone_eq_false_iff {ts : List IndexTerm} :
    ts.any (·.name.isNone) = false ↔ Named ts := by
  simp [Named, List.any_eq_false, Option.isSome_iff_ne_none]

theorem entries_named (h : Named (terms i.name)) :
    entries terms i = indexEntries i (terms i.name) := by
  rw [entries, any_isNone_eq_false_iff.mpr h]
  rfl

theorem mem_entries_iff : e ∈ entries terms i ↔ Named (terms i.name) ∧
    ∃ t ∈ terms i.name, ⟨!i.unique, i.reportedName, t.sequence + 1, t.name⟩ = e := by
  unfold entries
  cases h : (terms i.name).any (·.name.isNone) with
  | true =>
      have hnot : ¬Named (terms i.name) := by
        rw [← any_isNone_eq_false_iff, h]
        simp
      simp [hnot]
  | false => simp [any_isNone_eq_false_iff.mp h, indexEntries]

theorem allEntries_eq (h : ∀ i ∈ listed, p.indexInfo database i.name = .ok (terms i.name)) :
    (p.allEntries database table listed).1 = .ok (listed.flatMap (entries terms)) := by
  induction listed with
  | nil => rfl
  | cons i listed ih =>
      have hi : ∃ events, p.entriesOf database table i = .ok (entries terms i, events) := by
        unfold Pragmas.entriesOf entries
        rw [h i List.mem_cons_self, ok_bind]
        split <;> exact ⟨_, rfl⟩
      obtain ⟨events, hi⟩ := hi
      rw [Pragmas.allEntries, hi]
      simp only [ih fun j hj => h j (List.mem_cons_of_mem i hj), List.flatMap_cons]
      rfl

def sortedEntries (terms : String → List IndexTerm) (listed : List IndexListing) :
    List IndexEntry :=
  (listed.flatMap (entries terms)).mergeSort IndexEntry.le

theorem mem_sortedEntries_iff :
    e ∈ sortedEntries terms listed ↔ ∃ i ∈ listed, e ∈ entries terms i := by
  rw [sortedEntries, List.mem_mergeSort, List.mem_flatMap]

theorem Pragmas.Lists.indexAnswer_items (h : p.Lists database table listed terms) :
    (p.indexAnswer database table false).items =
      .ok (entryItems table (sortedEntries terms listed)) := by
  have hall : listed.filter (fun i => !false || i.unique) = listed := by simp
  unfold Pragmas.indexAnswer
  rw [h.list]
  simp only [hall, allEntries_eq h.info]
  rfl

theorem reportedName_eq_of_ne (h : i.reportedName ≠ primaryIndexName) :
    i.origin ≠ .primaryKey ∧ i.reportedName = i.name := by
  unfold IndexListing.reportedName at *
  split at h
  next => exact absurd rfl h
  next horigin => exact ⟨horigin, if_neg horigin⟩

theorem reportedName_ne_iff : i.reportedName ≠ primaryIndexName ↔
    i.origin ≠ .primaryKey ∧ i.name ≠ primaryIndexName := by
  constructor
  · intro h
    obtain ⟨horigin, hname⟩ := reportedName_eq_of_ne h
    exact ⟨horigin, hname ▸ h⟩
  · rintro ⟨horigin, hname⟩
    rwa [IndexListing.reportedName, if_neg horigin]

theorem filter_entries (hnodup : (listed.map (·.name)).Nodup) (hi : i ∈ listed)
    (hname : i.reportedName ≠ primaryIndexName) (hnamed : Named (terms i.name)) :
    (listed.flatMap (entries terms)).filter (·.name = i.name) =
      indexEntries i (terms i.name) := by
  obtain ⟨-, hreported⟩ := reportedName_eq_of_ne hname
  obtain ⟨before, after, rfl⟩ := List.append_of_mem hi
  rw [List.map_append, List.map_cons, List.nodup_middle, List.nodup_cons,
    ← List.map_append] at hnodup
  -- other indexes go by other names, and that of the primary key by a name that is not this one
  have hother : ∀ j ∈ before ++ after, (entries terms j).filter (·.name = i.name) = [] := by
    intro j hj
    refine List.filter_eq_nil_iff.mpr fun e he => ?_
    obtain ⟨-, t, -, rfl⟩ := mem_entries_iff.mp he
    rw [decide_eq_true_iff]
    intro hsame
    have hj' : j.reportedName ≠ primaryIndexName := fun heq => hname (hreported.trans (hsame ▸ heq))
    refine hnodup.1 (List.mem_map.mpr ⟨j, hj, ?_⟩)
    exact (reportedName_eq_of_ne hj').2.symm.trans hsame
  have hself : (entries terms i).filter (·.name = i.name) = indexEntries i (terms i.name) := by
    rw [entries_named hnamed]
    refine List.filter_eq_self.mpr fun e he => ?_
    obtain ⟨t, -, rfl⟩ := List.mem_map.mp he
    simpa using hreported
  have hbefore := List.flatMap_eq_nil_iff.mpr fun j hj => hother j (List.mem_append_left after hj)
  have hafter := List.flatMap_eq_nil_iff.mpr fun j hj => hother j (List.mem_append_right before hj)
  rw [List.filter_flatMap, List.flatMap_append, List.flatMap_cons, hbefore, hself, hafter,
    List.nil_append, List.append_nil]

theorem filter_sortedEntries (h : p.Lists database table listed terms) (hi : i ∈ listed)
    (hname : i.reportedName ≠ primaryIndexName) (hnamed : Named (terms i.name)) :
    (sortedEntries terms listed).filter (·.name = i.name) = indexEntries i (terms i.name) := by
  have hperm : ((sortedEntries terms listed).filter (·.name = i.name)).Perm
      (indexEntries i (terms i.name)) := by
    rw [← filter_entries h.nodup hi hname hnamed]
    exact (List.mergeSort_perm _ _).filter _
  have hascending := h.ascending i hi
  refine hperm.eq_of_pairwise ?_ ((IndexEntry.pairwise_sorted _).filter _) ?_
  · -- the place tells apart the entries of one index
    intro a b ha hb hab hba
    obtain ⟨t, ht, rfl⟩ := List.mem_map.mp (hperm.mem_iff.mp ha)
    obtain ⟨t', ht', rfl⟩ := List.mem_map.mp hb
    have hsequence : t.sequence = t'.sequence := by
      have hle := IndexEntry.le_mk_iff.mp hab
      have hge := IndexEntry.le_mk_iff.mp hba
      exact Nat.succ.inj (Nat.le_antisymm hle hge)
    have hinj : ((terms i.name).map (·.sequence)).Nodup :=
      List.pairwise_map.mpr (hascending.imp Nat.ne_of_lt)
    rw [List.inj_on_of_nodup_map hinj ht ht' hsequence]
  · refine List.pairwise_map.mpr (hascending.imp fun hlt => ?_)
    exact IndexEntry.le_mk_iff.mpr (Nat.succ_le_succ hlt.le)

end DatabaseSchema.Sqlite
