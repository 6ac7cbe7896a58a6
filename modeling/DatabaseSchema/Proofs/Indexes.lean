import DatabaseSchema.Keys
import DatabaseSchema.Proofs.Catalog

namespace DatabaseSchema.Index

variable {p : Policy} {indexes indexes' : List Index} {table : String}

structure Listed (p : Policy) (i : Index) : Prop where
  notKey : p.isKeyIndex i.name = false
  notIgnored : p.isIgnoredIndex i.name = false
  columns : i.columnNames ≠ []

structure Grouped (p : Policy) (indexes : List Index) : Prop where
  nodup : (indexes.map (·.name)).Nodup
  listed : ∀ i ∈ indexes, Listed p i

theorem grouped_nil (p : Policy) : Grouped p [] :=
  ⟨List.nodup_nil, by simp⟩

theorem name_appendColumn (indexes : List Index) (name column : String) :
    (appendColumn indexes name column).map (·.name) = indexes.map (·.name) := by
  rw [appendColumn, List.map_map]
  refine List.map_congr_left fun i _ => ?_
  simp only [Function.comp_apply]
  split <;> rfl

theorem Grouped.appendColumn (h : Grouped p indexes) (name column : String) :
    Grouped p (appendColumn indexes name column) where
  nodup := by
    rw [name_appendColumn]
    exact h.nodup
  listed := by
    intro i hi
    obtain ⟨j, hj, rfl⟩ := List.mem_map.mp hi
    obtain ⟨hk, hg, hc⟩ := h.listed j hj
    split
    · exact ⟨hk, hg, by simp⟩
    · exact ⟨hk, hg, hc⟩

theorem Grouped.append (h : Grouped p indexes) {i : Index} (hi : Listed p i)
    (hnew : ∀ j ∈ indexes, j.name ≠ i.name) : Grouped p (indexes ++ [i]) where
  nodup := by
    rw [List.map_append, List.nodup_append]
    refine ⟨h.nodup, by simp, ?_⟩
    intro name hname other hother
    obtain ⟨j, hj, rfl⟩ := List.mem_map.mp hname
    rw [List.mem_singleton.mp hother]
    exact hnew j hj
  listed := by
    intro j hj
    rcases List.mem_append.mp hj with hj | hj
    · exact h.listed j hj
    · rw [List.mem_singleton.mp hj]
      exact hi

theorem Grouped.addRow {item : Item} (h : Grouped p indexes)
    (ha : (addRow p table indexes item).result = .ok indexes') : Grouped p indexes' := by
  unfold Index.addRow at ha
  simp only [Logged.result_bind, Logged.result_ofExcept, bind_eq_ok] at ha
  obtain ⟨row, -, name?, -, ha⟩ := ha
  cases name? with
  | none =>
      cases ha
      exact h
  | some name =>
      simp only at ha
      split at ha
      next =>
        cases ha
        exact h
      next hkey =>
        split at ha
        next =>
          cases ha
          exact h
        next hignored =>
          simp only [Logged.result_bind, Logged.result_ofExcept, bind_eq_ok] at ha
          obtain ⟨column, -, ha⟩ := ha
          split at ha
          next =>
            cases ha
            exact h.appendColumn name column
          next hnew =>
            simp only [Logged.result_bind, Logged.result_ofExcept, bind_eq_ok] at ha
            obtain ⟨nonUnique, -, ha⟩ := ha
            cases ha
            refine h.append ⟨by simpa using hkey, by simpa using hignored, by simp⟩ ?_
            simpa using hnew

theorem grouped_of_answer {answer : Items} (h : (ofAnswer p table answer).result = .ok indexes) :
    Grouped p indexes := by
  unfold ofAnswer ofItems at h
  simp only [Logged.result_bind, Logged.result_ofExcept, Logged.result_emitAll, bind_eq_ok] at h
  obtain ⟨items, -, found, hf, -, -, h⟩ := h
  cases h
  exact Logged.foldlM_invariant (fun _ _ _ hg ha => hg.addRow ha) (grouped_nil p) hf

end DatabaseSchema.Index

namespace DatabaseSchema

structure Grouping where
  indexes : List Index := []
  positions : List (String × Nat) := []

namespace Grouping

variable {p : Policy} {table name : String} {g g' : Grouping} {item : Item}

def addColumn (g : Grouping) (position : Nat) (column : String) : Grouping :=
  { g with
    indexes := g.indexes.modify position fun i =>
      { i with columnNames := i.columnNames ++ [column] } }

def addIndex (g : Grouping) (i : Index) : Grouping :=
  ⟨g.indexes ++ [i], (i.name, g.indexes.length) :: g.positions⟩

def addRow (p : Policy) (table : String) (g : Grouping) (item : Item) : Logged Grouping := do
  let row ← Logged.ofExcept ((Subject.indexes table).row item)
  match ← Logged.ofExcept ((Part.table table).check (p.indexName? row)) with
  | none => return g
  | some name =>
      if p.isKeyIndex name then return g
      else if p.isIgnoredIndex name then
        Logged.emit (.ignoringIndex name table)
        return g
      else
        let part := Part.index name table
        let column ← Logged.ofExcept (part.check (row.text IndexRow.column))
        match g.positions.lookup name with
        | some position => return g.addColumn position column
        | none =>
            let nonUnique ← Logged.ofExcept (part.check (row.boolean IndexRow.nonUnique))
            return g.addIndex ⟨name, !nonUnique, [column]⟩

def Placed (g : Grouping) : Prop :=
  Catalog.Indexes g.positions (g.indexes.map (·.name))

theorem Placed.addColumn (h : g.Placed) (position : Nat) (column : String) :
    (g.addColumn position column).Placed := by
  have hnames : ((g.addColumn position column).indexes).map (·.name) = g.indexes.map (·.name) := by
    refine List.ext_getElem? fun i => ?_
    simp only [Grouping.addColumn, List.getElem?_map, List.getElem?_modify]
    cases g.indexes[i]? with
    | none => rfl
    | some index => split <;> rfl
  rw [Placed, hnames]
  exact h

theorem Placed.addIndex (h : g.Placed) {i : Index} (hnew : g.positions.lookup i.name = none) :
    (g.addIndex i).Placed := by
  have hfree : i.name ∉ g.indexes.map (·.name) := by
    rw [← h.isSome_lookup, hnew]
    simp
  rw [Placed, Grouping.addIndex, List.map_append]
  simpa using h.concat hfree

theorem Placed.any_name (h : g.Placed) :
    g.indexes.any (·.name == name) = (g.positions.lookup name).isSome := by
  rw [Bool.eq_iff_iff, h.isSome_lookup]
  simp

theorem Placed.appendColumn_eq (h : g.Placed) {position : Nat}
    (hposition : g.positions.lookup name = some position) (column : String) :
    Index.appendColumn g.indexes name column = (g.addColumn position column).indexes := by
  refine List.ext_getElem? fun i => ?_
  rw [Index.appendColumn, Grouping.addColumn, List.getElem?_map, List.getElem?_modify]
  cases hi : g.indexes[i]? with
  | none => simp
  | some index =>
      -- the place is that of the name, and of no other
      have hplace : index.name = name ↔ position = i := by
        have hname : (g.indexes.map (·.name))[i]? = some index.name := by
          rw [List.getElem?_map, hi]
          rfl
        constructor
        · rintro rfl
          exact h.eq_of_getElem? ((h _ _).mp hposition) hname
        · rintro rfl
          exact Option.some.inj (hname.symm.trans ((h _ _).mp hposition))
      by_cases hindex : index.name = name
      · simp [hindex, hplace.mp hindex]
      · simp [hindex, mt hplace.mpr hindex]

theorem Placed.addRow_eq (h : g.Placed) :
    (·.indexes) <$> addRow p table g item = Index.addRow p table g.indexes item := by
  unfold addRow Index.addRow
  rw [Logged.map_bind]
  refine Logged.bind_congr fun row _ => ?_
  rw [Logged.map_bind]
  refine Logged.bind_congr fun name? _ => ?_
  cases name? with
  | none => rfl
  | some name =>
      simp only
      split
      next => rfl
      next =>
        split
        next => rfl
        next =>
          rw [Logged.map_bind]
          refine Logged.bind_congr fun column _ => ?_
          rw [h.any_name]
          cases hposition : g.positions.lookup name with
          | some position =>
              simp only [Option.isSome_some, if_true, h.appendColumn_eq hposition]
              rfl
          | none =>
              simp only [Option.isSome_none, Bool.false_eq_true, if_false]
              rw [Logged.map_bind]
              rfl

theorem Placed.addRow (h : g.Placed) (ha : (addRow p table g item).result = .ok g') :
    g'.Placed := by
  unfold Grouping.addRow at ha
  simp only [Logged.result_bind, Logged.result_ofExcept, bind_eq_ok] at ha
  obtain ⟨row, -, name?, -, ha⟩ := ha
  cases name? with
  | none =>
      cases ha
      exact h
  | some name =>
      simp only at ha
      split at ha
      next =>
        cases ha
        exact h
      next =>
        split at ha
        next =>
          cases ha
          exact h
        next =>
          simp only [Logged.result_bind, Logged.result_ofExcept, bind_eq_ok] at ha
          obtain ⟨column, -, ha⟩ := ha
          split at ha
          next =>
            cases ha
            exact h.addColumn _ _
          next hnew =>
            simp only [Logged.result_bind, Logged.result_ofExcept, bind_eq_ok] at ha
            obtain ⟨nonUnique, -, ha⟩ := ha
            cases ha
            exact h.addIndex hnew

theorem Placed.foldlM_eq (h : g.Placed) (items : List Item) :
    (·.indexes) <$> items.foldlM (Grouping.addRow p table) g =
      items.foldlM (Index.addRow p table) g.indexes := by
  induction items generalizing g with
  | nil => rfl
  | cons item items ih =>
      rw [List.foldlM_cons, List.foldlM_cons, Logged.map_bind, ← h.addRow_eq, Logged.bind_map_left]
      exact Logged.bind_congr fun g' hg' => ih (h.addRow hg')

theorem foldlM_addRow_eq (p : Policy) (table : String) (items : List Item) :
    (·.indexes) <$> items.foldlM (addRow p table) {} = items.foldlM (Index.addRow p table) [] := by
  have hplaced : Placed {} := Catalog.indexes_nil
  exact hplaced.foldlM_eq items

end Grouping

end DatabaseSchema
