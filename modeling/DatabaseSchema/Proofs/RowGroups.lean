import DatabaseSchema.Source
import Mathlib.Algebra.BigOperators.Group.List.Lemmas
import Mathlib.Algebra.GroupWithZero.Nat

namespace DatabaseSchema

section Distinct

variable {α : Type} [DecidableEq α]

theorem eraseDups_concat (as : List α) (a : α) :
    (as ++ [a]).eraseDups = if a ∈ as then as.eraseDups else as.eraseDups ++ [a] := by
  rw [List.eraseDups_append]
  by_cases h : a ∈ as <;> simp [List.removeAll, List.eraseDups_cons, h]

theorem eraseDups_sublist (as : List α) : as.eraseDups.Sublist as := by
  induction as using List.reverseRecOn with
  | nil => exact .slnil
  | append_singleton as a ih =>
      rw [eraseDups_concat]
      split
      next => exact ih.trans (List.sublist_append_left as [a])
      next => exact ih.append (.refl [a])

theorem nodup_eraseDups (as : List α) : as.eraseDups.Nodup := by
  induction as using List.reverseRecOn with
  | nil => exact List.nodup_nil
  | append_singleton as a ih =>
      rw [eraseDups_concat]
      split
      next => exact ih
      next h =>
        refine List.nodup_append.mpr ⟨ih, by simp, ?_⟩
        rintro b hb _ hb' rfl
        rw [List.mem_singleton.mp hb'] at hb
        exact h (List.mem_eraseDups.mp hb)

theorem sum_count_eraseDups (as : List α) : (as.eraseDups.map (as.count ·)).sum = as.length := by
  have hperm : as.eraseDups.Perm as.dedup := by
    refine (List.perm_ext_iff_of_nodup (nodup_eraseDups as) as.nodup_dedup).mpr fun a => ?_
    rw [List.mem_eraseDups, List.mem_dedup]
  rw [(hperm.map _).sum_eq, List.sum_map_count_dedup_eq_length]

end Distinct

def Item.rows (items : List Item) : List Row := items.filterMap Except.toOption

def rowsUnder (key? : Row → Option String) (key : String) (items : List Item) : List Row :=
  (Item.rows items).filter (key? · = some key)

def keysOf (key? : Row → Option String) (items : List Item) : List String :=
  (Item.rows items).filterMap key?

section Keyed

variable {key? : Row → Option String} {key : String} {items before after : List Item} {r : Row}

theorem Item.mem_rows : r ∈ Item.rows items ↔ .ok r ∈ items := by
  rw [Item.rows, List.mem_filterMap]
  constructor
  · rintro ⟨item, hitem, hr⟩
    cases item with
    | ok r' =>
        cases hr
        exact hitem
    | error message => cases hr
  · intro hr
    exact ⟨.ok r, hr, rfl⟩

theorem rowsUnder_append (key? : Row → Option String) (key : String) (before after : List Item) :
    rowsUnder key? key (before ++ after) =
      rowsUnder key? key before ++ rowsUnder key? key after := by
  rw [rowsUnder, Item.rows, List.filterMap_append, List.filter_append]
  rfl

theorem rowsUnder_cons (items : List Item) (h : key? r = some key) :
    rowsUnder key? key (.ok r :: items) = r :: rowsUnder key? key items :=
  List.filter_cons_of_pos (decide_eq_true h)

theorem rowsUnder_row (h : key? r = some key) : rowsUnder key? key [.ok r] = [r] :=
  rowsUnder_cons [] h

theorem rowsUnder_other (h : key? r ≠ some key) : rowsUnder key? key [.ok r] = [] :=
  List.filter_cons_of_neg (by simpa using h)

theorem mem_rowsUnder : r ∈ rowsUnder key? key items ↔ .ok r ∈ items ∧ key? r = some key := by
  rw [rowsUnder, List.mem_filter, Item.mem_rows, decide_eq_true_iff]

theorem rowsUnder_eq_nil_iff : rowsUnder key? key items = [] ↔ key ∉ keysOf key? items := by
  simp [rowsUnder, keysOf]

theorem keysOf_row (items : List Item) (h : key? r = some key) :
    keysOf key? (items ++ [.ok r]) = keysOf key? items ++ [key] := by
  simp [keysOf, Item.rows, Except.toOption, h]

theorem keysOf_other (items : List Item) (h : key? r = none) :
    keysOf key? (items ++ [.ok r]) = keysOf key? items := by
  simp [keysOf, Item.rows, Except.toOption, h]

theorem length_rowsUnder (key? : Row → Option String) (key : String) (items : List Item) :
    (rowsUnder key? key items).length = (keysOf key? items).count key := by
  rw [rowsUnder, keysOf, ← List.countP_eq_length_filter, List.count_filterMap]
  refine List.countP_congr fun r _ => ?_
  rw [decide_eq_true_iff, beq_iff_eq]

theorem split_of_rows {rows rows' : List Row} (h : Item.rows items = rows ++ r :: rows') :
    ∃ before after, items = before ++ .ok r :: after ∧ Item.rows before = rows := by
  obtain ⟨before, rest, rfl, hbefore, hrest⟩ := List.filterMap_eq_append_iff.mp h
  obtain ⟨failures, item, after, rfl, hfailures, hitem, -⟩ := List.filterMap_eq_cons_iff.mp hrest
  cases item with
  | ok r' =>
      cases hitem
      refine ⟨before ++ failures, after, by simp, ?_⟩
      rw [Item.rows, List.filterMap_append, hbefore, List.filterMap_eq_nil_iff.mpr hfailures,
        List.append_nil]
  | error message => cases hitem

theorem head?_rowsUnder :
    (rowsUnder key? key items).head? = some r ↔
      ∃ before after, items = before ++ .ok r :: after ∧ key? r = some key ∧
        rowsUnder key? key before = [] := by
  constructor
  · intro h
    rw [rowsUnder, List.head?_filter] at h
    obtain ⟨hkey, rows, rows', hrows, hbefore⟩ := List.find?_eq_some_iff_append.mp h
    obtain ⟨before, after, rfl, rfl⟩ := split_of_rows hrows
    refine ⟨before, after, rfl, by simpa using hkey, List.filter_eq_nil_iff.mpr fun r hr => ?_⟩
    simpa using hbefore r hr
  · rintro ⟨before, after, rfl, hkey, hbefore⟩
    rw [rowsUnder_append, hbefore, List.nil_append, rowsUnder_cons after hkey]
    rfl

end Keyed

end DatabaseSchema
