import DatabaseSchema.Proofs.Text.Upper
import DatabaseSchema.Text
import Mathlib.Data.List.Basic
import Mathlib.Data.List.DropRight

namespace DatabaseSchema.Text

variable {sep k : Char} {cs text xs ys : List Char}

def Spaced (cs text : List Char) : Prop :=
  ∃ before after, (∀ c ∈ before, isBlank c = true) ∧ (∀ c ∈ after, isBlank c = true) ∧
    text = before ++ cs ++ after

theorem spaced_of_all (before after : List Char) (hbefore : before.all isBlank = true)
    (hafter : after.all isBlank = true) (h : text = before ++ cs ++ after) : Spaced cs text :=
  ⟨before, after, List.all_eq_true.mp hbefore, List.all_eq_true.mp hafter, h⟩

theorem dropWhile_append_cons (hk : isBlank k = false) (xs ys : List Char) :
    (xs ++ k :: ys).dropWhile isBlank = xs.dropWhile isBlank ++ k :: ys := by
  rw [List.dropWhile_append, List.dropWhile_cons, hk]
  split
  next hempty => rw [List.isEmpty_iff.mp hempty]; rfl
  next => rfl

theorem trimEndChars_append_blank (hys : ∀ c ∈ ys, isBlank c = true) (xs : List Char) :
    trimEndChars (xs ++ ys) = trimEndChars xs := by
  rw [trimEndChars, List.reverse_append, List.dropWhile_append_of_pos (by simpa using hys),
    trimEndChars]

theorem trimEndChars_append_cons (hk : isBlank k = false) (xs ys : List Char) :
    trimEndChars (xs ++ k :: ys) = xs ++ k :: trimEndChars ys := by
  have hreverse : (xs ++ k :: ys).reverse = ys.reverse ++ k :: xs.reverse := by simp
  rw [trimEndChars, hreverse, dropWhile_append_cons hk]
  simp [trimEndChars]

theorem trimChars_append_cons (hk : isBlank k = false) (xs ys : List Char) :
    trimChars (xs ++ k :: ys) = xs.dropWhile isBlank ++ k :: trimEndChars ys := by
  rw [trimChars, dropWhile_append_cons hk, trimEndChars_append_cons hk]

theorem trimChars_dropWhile (cs : List Char) : trimChars (cs.dropWhile isBlank) = trimChars cs := by
  rw [trimChars, List.dropWhile_idempotent, trimChars]

theorem trimEndChars_trimEndChars (cs : List Char) :
    trimEndChars (trimEndChars cs) = trimEndChars cs := by
  simp only [trimEndChars, List.reverse_reverse, List.dropWhile_idempotent]

theorem trimChars_subset (cs : List Char) : trimChars cs ⊆ cs := by
  intro c hc
  have hdropped := (List.dropWhile_sublist isBlank).subset (List.mem_reverse.mp hc)
  exact (List.dropWhile_sublist isBlank).subset (List.mem_reverse.mp hdropped)

theorem Spaced.trimChars_eq (h : Spaced cs text) : trimChars text = trimChars cs := by
  obtain ⟨before, after, hbefore, hafter, rfl⟩ := h
  rw [trimChars, List.append_assoc, List.dropWhile_append_of_pos hbefore, List.dropWhile_append]
  split
  next hempty =>
    have hdropped : after.dropWhile isBlank = [] := List.dropWhile_eq_nil_iff.mpr hafter
    rw [hdropped, trimChars, List.isEmpty_iff.mp hempty]
  next => rw [trimEndChars_append_blank hafter, trimChars]

theorem spaced_trimChars (cs : List Char) : Spaced (trimChars cs) cs := by
  let rest := cs.dropWhile isBlank
  have htrim : trimChars cs = (rest.reverse.dropWhile isBlank).reverse := rfl
  have hrest : rest = trimChars cs ++ (rest.reverse.takeWhile isBlank).reverse := by
    rw [htrim, ← List.reverse_append, List.takeWhile_append_dropWhile, List.reverse_reverse]
  refine ⟨cs.takeWhile isBlank, (rest.reverse.takeWhile isBlank).reverse, ?_, ?_, ?_⟩
  · exact fun c hc => List.mem_takeWhile_imp hc
  · exact fun c hc => List.mem_takeWhile_imp (List.mem_reverse.mp hc)
  · rw [List.append_assoc, ← hrest, List.takeWhile_append_dropWhile]

theorem trimChars_eq_self (h : ∀ c ∈ cs, isBlank c = false) : trimChars cs = cs := by
  have hdrop : ∀ {cs : List Char}, (∀ c ∈ cs, isBlank c = false) → cs.dropWhile isBlank = cs := by
    intro cs h
    cases cs with
    | nil => rfl
    | cons c cs => simp [h c List.mem_cons_self]
  rw [trimChars, hdrop h, trimEndChars, hdrop (by simpa using h), List.reverse_reverse]

theorem Spaced.upper (h : Spaced cs text) :
    Spaced (cs.flatMap upperChar) (text.flatMap upperChar) := by
  obtain ⟨before, after, hbefore, hafter, rfl⟩ := h
  have hblank : ∀ {cs : List Char}, (∀ c ∈ cs, isBlank c = true) → cs.flatMap upperChar = cs :=
    fun hcs => flatMap_upperChar_eq fun c hc => (caseless_of_isBlank (hcs c hc)).upper
  refine ⟨before, after, hbefore, hafter, ?_⟩
  rw [List.flatMap_append, List.flatMap_append, hblank hbefore, hblank hafter]

theorem splitFirst?_of_not_mem (h : sep ∉ xs) : splitFirst? sep xs = none := by
  induction xs with
  | nil => rfl
  | cons c xs ih =>
      have hc : c ≠ sep := (List.ne_of_not_mem_cons h).symm
      have hxs : sep ∉ xs := List.not_mem_of_not_mem_cons h
      rw [splitFirst?, if_neg hc, ih hxs]
      rfl

theorem splitFirst?_append_cons (h : sep ∉ xs) (ys : List Char) :
    splitFirst? sep (xs ++ sep :: ys) = some (xs, ys) := by
  induction xs with
  | nil => rw [List.nil_append, splitFirst?, if_pos rfl]
  | cons c xs ih =>
      have hc : c ≠ sep := (List.ne_of_not_mem_cons h).symm
      have hxs : sep ∉ xs := List.not_mem_of_not_mem_cons h
      rw [List.cons_append, splitFirst?, if_neg hc, ih hxs]
      rfl

end DatabaseSchema.Text
