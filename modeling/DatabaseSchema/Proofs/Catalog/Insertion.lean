import DatabaseSchema.Proofs.Catalog
import Mathlib.Data.List.Induction

namespace DatabaseSchema.Catalog

variable {α : Type} {kind : NameKind} {accepted calls : List (String × α)} {c : Catalog α}
  {call : String × α} {name : String} {e : SchemaError}

def attempt (c : Catalog α) (call : String × α) : Except SchemaError Unit × Catalog α :=
  match c.insert call.1 call.2 with
  | .ok c' => (.ok (), c')
  | .error e => (.error e, c)

-- An insertion that changes the catalog in place, first the positions and then the entries. What
-- was changed before a failure would stay so.
def insertInPlace (name : String) (a : α) : ExceptT SchemaError (StateM (Catalog α)) Unit := do
  let c ← get
  if c.contains name then throw (.duplicateName c.kind name)
  set { c with positions := (nameKey name, c.size) :: c.positions }
  modify fun c => { c with entries := c.entries ++ [a] }

def insertAll (kind : NameKind) (calls : List (String × α)) : List (String × α) × Catalog α :=
  calls.foldl
    (fun (accepted, c) call =>
      match c.attempt call with
      | (.ok (), c') => (accepted ++ [call], c')
      | (.error _, c') => (accepted, c'))
    ([], empty kind)

def Taken (accepted : List (String × α)) (name : String) : Prop :=
  ∃ earlier ∈ accepted, nameKey earlier.1 = nameKey name

structure Holds (kind : NameKind) (accepted : List (String × α)) (c : Catalog α) : Prop where
  kind : c.kind = kind
  entries : c.entries = accepted.map (·.2)
  positions : Indexes c.positions (accepted.map (nameKey ·.1))
  inside : ∀ place ∈ c.positions, place.2 < c.entries.length

structure Tells (accepted : List (String × α)) (c : Catalog α) : Prop where
  distinct : (accepted.map (nameKey ·.1)).Nodup
  entries : c.entries = accepted.map (·.2)
  size : c.size = accepted.length
  contains : ∀ name, c.contains name = true ↔ Taken accepted name
  found : ∀ name, ∀ call ∈ accepted, nameKey call.1 = nameKey name → c.get? name = some call.2
  missing : ∀ name, ¬Taken accepted name → c.get? name = none
  inside : ∀ place ∈ c.positions, place.2 < c.entries.length

theorem insertInPlace_eq (c : Catalog α) (call : String × α) :
    (insertInPlace call.1 call.2).run c = c.attempt call := by
  rw [attempt, insert]
  show ExceptT.run (m := StateM (Catalog α)) (if c.contains call.1 then _ else _) c = _
  split <;> rfl

theorem holds_empty (kind : NameKind) : Holds kind ([] : List (String × α)) (empty kind) where
  kind := rfl
  entries := rfl
  positions := indexes_nil
  inside := by simp [empty]

namespace Holds

variable (h : Holds kind accepted c)

include h

theorem size_eq : c.size = accepted.length := by
  rw [size, h.entries, List.length_map]

theorem contains_iff : c.contains name = true ↔ Taken accepted name := by
  rw [contains, h.positions.isSome_lookup, List.mem_map, Taken]

theorem get?_eq (hcall : call ∈ accepted) (hkey : nameKey call.1 = nameKey name) :
    c.get? name = some call.2 := by
  obtain ⟨i, hi⟩ := List.mem_iff_getElem?.mp hcall
  have hposition : c.positions.lookup (nameKey name) = some i :=
    (h.positions _ i).mpr (by rw [List.getElem?_map, hi, Option.map_some, hkey])
  have hentry : c.entries[i]? = some call.2 := by
    rw [h.entries, List.getElem?_map, hi, Option.map_some]
  rw [get?, hposition]
  exact hentry

theorem get?_eq_none_of_free (hfree : ¬Taken accepted name) : c.get? name = none := by
  refine get?_eq_none ?_
  rw [← Bool.not_eq_true, h.contains_iff]
  exact hfree

theorem tells : Tells accepted c where
  distinct := h.positions.nodup
  entries := h.entries
  size := h.size_eq
  contains _ := h.contains_iff
  found _ _ hcall hkey := h.get?_eq hcall hkey
  missing _ hfree := h.get?_eq_none_of_free hfree
  inside := h.inside

theorem attempt_taken (htaken : Taken accepted call.1) :
    c.attempt call = (.error (.duplicateName kind call.1), c) := by
  have hinsert : c.insert call.1 call.2 = .error (.duplicateName kind call.1) :=
    insert_eq_error.mpr ⟨h.contains_iff.mpr htaken, by rw [h.kind]⟩
  rw [attempt, hinsert]

theorem attempt_free (hfree : ¬Taken accepted call.1) :
    ∃ c', c.attempt call = (.ok (), c') ∧ Holds kind (accepted ++ [call]) c' := by
  have hcontains : c.contains call.1 = false := by
    rw [← Bool.not_eq_true, h.contains_iff]
    exact hfree
  have hinsert := insert_eq_ok (a := call.2).mpr ⟨hcontains, rfl⟩
  refine ⟨_, by rw [attempt, hinsert], ?_⟩
  constructor
  case kind => exact h.kind
  case entries => rw [h.entries, List.map_append, List.map_singleton]
  case positions =>
    have hnew : nameKey call.1 ∉ accepted.map (nameKey ·.1) := by
      rw [List.mem_map]
      exact hfree
    simpa [h.size_eq] using h.positions.concat hnew
  case inside =>
    intro place hplace
    rw [List.length_append, List.length_singleton]
    rcases List.mem_cons.mp hplace with rfl | hplace
    · exact Nat.lt_succ_self _
    · exact Nat.lt_succ_of_lt (h.inside place hplace)

theorem attempt_eq_ok_iff : (c.attempt call).1 = .ok () ↔ ¬Taken accepted call.1 := by
  by_cases htaken : Taken accepted call.1
  · simp [h.attempt_taken htaken, htaken]
  · obtain ⟨c', hattempt, -⟩ := h.attempt_free htaken
    simp [hattempt, htaken]

theorem attempt_eq_error_iff :
    (c.attempt call).1 = .error e ↔ Taken accepted call.1 ∧ e = .duplicateName kind call.1 := by
  by_cases htaken : Taken accepted call.1
  · simp [h.attempt_taken htaken, htaken, eq_comm]
  · obtain ⟨c', hattempt, -⟩ := h.attempt_free htaken
    simp [hattempt, htaken]

end Holds

theorem insertAll_concat (kind : NameKind) (calls : List (String × α)) (call : String × α) :
    insertAll kind (calls ++ [call]) =
      match (insertAll kind calls).2.attempt call with
      | (.ok (), c') => ((insertAll kind calls).1 ++ [call], c')
      | (.error _, c') => ((insertAll kind calls).1, c') := by
  rw [insertAll, List.foldl_append]
  rfl

theorem insertAll_cases (kind : NameKind) (calls : List (String × α)) :
    Holds kind (insertAll kind calls).1 (insertAll kind calls).2 ∧
      insertAll kind (insertAll kind calls).1 = insertAll kind calls := by
  -- from the end: whether the last insertion is accepted is a matter of those before it
  induction calls using List.reverseRecOn with
  | nil => exact ⟨holds_empty kind, rfl⟩
  | append_singleton calls call ih =>
      obtain ⟨hholds, hagain⟩ := ih
      by_cases htaken : Taken (insertAll kind calls).1 call.1
      · have hsame : insertAll kind (calls ++ [call]) = insertAll kind calls := by
          rw [insertAll_concat, hholds.attempt_taken htaken]
        rw [hsame]
        exact ⟨hholds, hagain⟩
      · obtain ⟨c', hattempt, hholds'⟩ := hholds.attempt_free htaken
        have hnext : insertAll kind (calls ++ [call]) = ((insertAll kind calls).1 ++ [call], c') := by
          rw [insertAll_concat, hattempt]
        rw [hnext]
        refine ⟨hholds', ?_⟩
        rw [insertAll_concat, hagain, hattempt]

theorem insertAll_tells (kind : NameKind) (calls : List (String × α)) :
    let accepted := (insertAll kind calls).1
    let c := (insertAll kind calls).2
    Tells accepted c ∧
      (∀ call, (insertInPlace call.1 call.2).run c = c.attempt call ∧
        ((c.attempt call).1 = .ok () ↔ ¬Taken accepted call.1) ∧
        ∀ e, (c.attempt call).1 = .error e →
          e = .duplicateName kind call.1 ∧ (c.attempt call).2 = c) ∧
      insertAll kind accepted = (accepted, c) := by
  intro accepted c
  obtain ⟨hholds, hagain⟩ := insertAll_cases kind calls
  refine ⟨hholds.tells, fun call => ⟨insertInPlace_eq c call, hholds.attempt_eq_ok_iff,
    fun e he => ?_⟩, hagain⟩
  obtain ⟨htaken, rfl⟩ := hholds.attempt_eq_error_iff.mp he
  exact ⟨rfl, by rw [hholds.attempt_taken htaken]⟩

example :
    let inserted := insertAll .table [("Customer", 1), ("orders", 2), ("CUSTOMER", 3)]
    inserted.1 = [("Customer", 1), ("orders", 2)] ∧ inserted.2.get? "customer" = some 1 := by
  decide +kernel

end DatabaseSchema.Catalog
