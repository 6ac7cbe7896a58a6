import DatabaseSchema.Catalog

namespace DatabaseSchema.Catalog

section Positions

variable {positions : List (String × Nat)} {keys : List String} {key : String}

def Indexes (positions : List (String × Nat)) (keys : List String) : Prop :=
  ∀ key i, positions.lookup key = some i ↔ keys[i]? = some key

theorem indexes_nil : Indexes [] [] := by
  intro key i
  simp

theorem Indexes.isSome_lookup (h : Indexes positions keys) :
    (positions.lookup key).isSome ↔ key ∈ keys := by
  rw [Option.isSome_iff_exists, List.mem_iff_getElem?]
  exact exists_congr (h key)

theorem Indexes.concat (h : Indexes positions keys) (hnew : key ∉ keys) :
    Indexes ((key, keys.length) :: positions) (keys ++ [key]) := by
  intro other i
  have hold := h other i
  rw [List.lookup_cons]
  by_cases hother : other = key
  · subst hother
    -- the new key stood nowhere among the old ones
    have hne : keys[i]? ≠ some other := fun he => hnew (List.mem_of_getElem? he)
    simp only [beq_self_eq_true, List.getElem?_append]
    grind
  · have hb : (other == key) = false := by simpa using hother
    simp only [hb, hold, List.getElem?_append]
    grind

theorem Indexes.eq_of_getElem? (h : Indexes positions keys) {i j : Nat}
    (hi : keys[i]? = some key) (hj : keys[j]? = some key) : i = j :=
  Option.some.inj (((h key i).mpr hi).symm.trans ((h key j).mpr hj))

theorem Indexes.nodup (h : Indexes positions keys) : keys.Nodup := by
  rw [List.Nodup, List.pairwise_iff_getElem]
  intro i j hi hj hij heq
  have hsame : i = j := h.eq_of_getElem?
    (by rw [List.getElem?_eq_getElem hi, heq]) (List.getElem?_eq_getElem hj)
  omega

end Positions

section Insert

variable {α : Type} {c c' : Catalog α} {name : String} {a : α}

theorem insert_eq_ok :
    c.insert name a = .ok c' ↔
      c.contains name = false ∧
        c' = ⟨c.kind, c.entries ++ [a], (nameKey name, c.size) :: c.positions⟩ := by
  unfold insert
  split
  next h => simp [h]
  next h => simp [h, eq_comm]

theorem insert_eq_error {e : SchemaError} :
    c.insert name a = .error e ↔ c.contains name = true ∧ e = .duplicateName c.kind name := by
  unfold insert
  split
  next h => simp [h, eq_comm]
  next h => simp [h]

theorem get?_congr {name' : String} (c : Catalog α) (h : nameKey name = nameKey name') :
    c.get? name = c.get? name' := by
  simp only [get?, h]

theorem get?_eq_none (h : c.contains name = false) : c.get? name = none := by
  have hnone : c.positions.lookup (nameKey name) = none := by simpa [contains] using h
  rw [get?, hnone]
  rfl

end Insert

variable {c c' : Catalog String} {name entry : String}

def WellFormed (c : Catalog String) : Prop :=
  ∀ key i, c.positions.lookup key = some i ↔ c.entries[i]?.map nameKey = some key

theorem wellFormed_iff : c.WellFormed ↔ Indexes c.positions (c.entries.map nameKey) := by
  simp only [WellFormed, Indexes, List.getElem?_map]

theorem wellFormed_empty (kind : NameKind) : (empty kind : Catalog String).WellFormed :=
  wellFormed_iff.mpr indexes_nil

theorem WellFormed.contains_iff (h : c.WellFormed) :
    c.contains name = true ↔ ∃ entry ∈ c.entries, nameKey entry = nameKey name := by
  rw [contains, (wellFormed_iff.mp h).isSome_lookup, List.mem_map]

theorem WellFormed.insert (h : c.WellFormed) (hi : c.insert name name = .ok c') :
    c'.WellFormed := by
  obtain ⟨hfree, rfl⟩ := insert_eq_ok.mp hi
  have hindexes := wellFormed_iff.mp h
  have hnew : nameKey name ∉ c.entries.map nameKey := by
    rw [← hindexes.isSome_lookup, Bool.not_eq_true]
    exact hfree
  rw [wellFormed_iff]
  simpa [size] using hindexes.concat hnew

theorem WellFormed.insert_fresh (h : c.WellFormed)
    (hnew : ∀ entry ∈ c.entries, nameKey entry ≠ nameKey name) :
    ∃ c', c.insert name name = .ok c' ∧ c'.WellFormed ∧ c'.entries = c.entries ++ [name] := by
  have hfree : c.contains name = false := by
    rw [← Bool.not_eq_true, h.contains_iff]
    rintro ⟨entry, hmem, hk⟩
    exact hnew entry hmem hk
  have hi := insert_eq_ok (a := name).mpr ⟨hfree, rfl⟩
  exact ⟨_, hi, h.insert hi, rfl⟩

theorem WellFormed.insert_taken (h : c.WellFormed) (hentry : entry ∈ c.entries)
    (hk : nameKey entry = nameKey name) :
    c.insert name name = .error (.duplicateName c.kind name) :=
  insert_eq_error.mpr ⟨h.contains_iff.mpr ⟨entry, hentry, hk⟩, rfl⟩

theorem WellFormed.get?_eq_some_iff (h : c.WellFormed) :
    c.get? name = some entry ↔ entry ∈ c.entries ∧ nameKey entry = nameKey name := by
  constructor
  · intro hg
    obtain ⟨i, hi, he⟩ := Option.bind_eq_some_iff.mp hg
    have hk := (h _ i).mp hi
    rw [he] at hk
    exact ⟨List.mem_of_getElem? he, by simpa using hk⟩
  · rintro ⟨hmem, hk⟩
    obtain ⟨i, hi⟩ := List.mem_iff_getElem?.mp hmem
    exact Option.bind_eq_some_iff.mpr ⟨i, (h _ i).mpr (by simp [hi, hk]), hi⟩

theorem WellFormed.nodup (h : c.WellFormed) : (c.entries.map nameKey).Nodup :=
  (wellFormed_iff.mp h).nodup

theorem WellFormed.eq_of_key (h : c.WellFormed) {a b : String} (ha : a ∈ c.entries)
    (hb : b ∈ c.entries) (hk : nameKey a = nameKey b) : a = b := by
  obtain ⟨i, hi⟩ := List.mem_iff_getElem?.mp ha
  obtain ⟨j, hj⟩ := List.mem_iff_getElem?.mp hb
  obtain rfl : i = j := (wellFormed_iff.mp h).eq_of_getElem?
    (by rw [List.getElem?_map, hi, Option.map_some, hk])
    (by rw [List.getElem?_map, hj, Option.map_some])
  exact Option.some.inj (hi.symm.trans hj)

theorem addTable_eq_ok {p : Policy} {item : Item} (h : (addTable p c item).result = .ok c') :
    c' = c ∨ ∃ name, p.isSystemTable name = false ∧ p.isIgnoredTable name = false ∧
      c.insert name name = .ok c' := by
  unfold addTable at h
  simp only [Logged.result_bind, Logged.result_ofExcept, Logged.result_emit, bind_eq_ok] at h
  obtain ⟨row, -, name, -, schema, -, kind, -, -, -, h⟩ := h
  split at h
  next => exact .inl (Except.ok.inj h).symm
  next hkept =>
    simp only [Bool.or_eq_true, not_or, Bool.not_eq_true] at hkept
    exact .inr ⟨name, hkept.1, hkept.2, h⟩

theorem addView_eq_ok {p : Policy} {item : Item} (h : (addView p c item).result = .ok c') :
    ∃ name, c.insert name name = .ok c' := by
  unfold addView at h
  simp only [Logged.result_bind, Logged.result_ofExcept, Logged.result_emit, bind_eq_ok] at h
  obtain ⟨row, -, name, -, -, -, h⟩ := h
  exact ⟨name, h⟩

theorem tableNames_eq_ok {p : Policy} {answer : Items}
    (h : (tableNames p answer).result = .ok c) :
    ∃ items, answer = .ok items ∧ (items.foldlM (addTable p) (empty .table)).result = .ok c := by
  unfold tableNames at h
  simp only [Logged.result_bind, Logged.result_ofExcept, Logged.result_emit, bind_eq_ok,
    Subject.items_eq_ok] at h
  obtain ⟨items, hitems, c₁, hc, -, -, h⟩ := h
  cases h
  exact ⟨items, hitems, hc⟩

theorem viewNames_eq_ok {p : Policy} {answer : Items} (h : (viewNames p answer).result = .ok c) :
    ∃ items, answer = .ok items ∧ (items.foldlM (addView p) (empty .view)).result = .ok c := by
  unfold viewNames at h
  simp only [Logged.result_bind, Logged.result_ofExcept, Logged.result_emit, bind_eq_ok,
    Subject.items_eq_ok] at h
  obtain ⟨items, hitems, c₁, hc, -, -, h⟩ := h
  cases h
  exact ⟨items, hitems, hc⟩

theorem tableNames_wellFormed {p : Policy} {answer : Items}
    (h : (tableNames p answer).result = .ok c) : c.WellFormed := by
  obtain ⟨items, -, hc⟩ := tableNames_eq_ok h
  refine Logged.foldlM_invariant (fun c item c' hwf hadd => ?_) (wellFormed_empty _) hc
  obtain rfl | ⟨name, -, -, hi⟩ := addTable_eq_ok hadd
  · exact hwf
  · exact hwf.insert hi

theorem viewNames_wellFormed {p : Policy} {answer : Items}
    (h : (viewNames p answer).result = .ok c) : c.WellFormed := by
  obtain ⟨items, -, hc⟩ := viewNames_eq_ok h
  refine Logged.foldlM_invariant (fun c item c' hwf hadd => ?_) (wellFormed_empty _) hc
  obtain ⟨name, hi⟩ := addView_eq_ok hadd
  exact hwf.insert hi

theorem tableNames_filtered {p : Policy} {answer : Items}
    (h : (tableNames p answer).result = .ok c) :
    ∀ name ∈ c.entries, p.isSystemTable name = false ∧ p.isIgnoredTable name = false := by
  obtain ⟨items, -, hc⟩ := tableNames_eq_ok h
  refine Logged.foldlM_invariant
    (P := fun c => ∀ name ∈ c.entries, p.isSystemTable name = false ∧ p.isIgnoredTable name = false)
    (fun c item c' hall hadd => ?_) (by simp [empty]) hc
  obtain rfl | ⟨name, hs, hg, hi⟩ := addTable_eq_ok hadd
  · exact hall
  · obtain ⟨-, rfl⟩ := insert_eq_ok.mp hi
    intro entry hmem
    rcases List.mem_append.mp hmem with hold | hnew
    · exact hall entry hold
    · rw [List.mem_singleton.mp hnew]
      exact ⟨hs, hg⟩

end DatabaseSchema.Catalog
