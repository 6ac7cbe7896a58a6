import DatabaseSchema.Text
import Mathlib.Data.List.Infix

namespace DatabaseSchema.Text

variable {part xs ys : List Char} {word : String} {c : Char}

def IsPart (word s : String) : Prop := word.toList <:+: s.toList

instance (word s : String) : Decidable (IsPart word s) :=
  inferInstanceAs (Decidable (word.toList <:+: s.toList))

theorem IsPart.trans {a b s : String} (hab : IsPart a b) (hb : IsPart b s) : IsPart a s :=
  List.IsInfix.trans hab hb

theorem containsPart_iff : containsPart part xs = true ↔ part <:+: xs := by
  induction xs with
  | nil => simp [containsPart]
  | cons x xs ih =>
      rw [containsPart, Bool.or_eq_true, List.isPrefixOf_iff_prefix, ih, List.infix_cons_iff]

theorem contains_iff {s : String} : contains s word = true ↔ IsPart word s :=
  containsPart_iff

theorem isPrefixOf_append_cons (h : c ∉ part) (xs ys : List Char) :
    part.isPrefixOf (xs ++ c :: ys) = part.isPrefixOf xs := by
  induction xs generalizing part with
  | nil =>
      cases part with
      | nil => rfl
      | cons p part =>
          have hp : (p == c) = false := by
            rw [beq_eq_false_iff_ne]
            rintro rfl
            exact h List.mem_cons_self
          simp [List.isPrefixOf, hp]
  | cons x xs ih =>
      cases part with
      | nil => rfl
      | cons p part =>
          have hrest : c ∉ part := fun hmem => h (List.mem_cons_of_mem p hmem)
          simp [List.isPrefixOf, ih hrest]

theorem containsPart_append_cons (h : c ∉ part) (xs ys : List Char) :
    containsPart part (xs ++ c :: ys) = (containsPart part xs || containsPart part ys) := by
  induction xs with
  | nil =>
      have hstart : part.isPrefixOf (c :: ys) = part.isEmpty :=
        (isPrefixOf_append_cons h [] ys).trans (by cases part <;> rfl)
      show (part.isPrefixOf (c :: ys) || containsPart part ys) = _
      rw [hstart]
      rfl
  | cons x xs ih =>
      show (part.isPrefixOf (x :: xs ++ c :: ys) || containsPart part (xs ++ c :: ys)) = _
      rw [isPrefixOf_append_cons h (x :: xs) ys, ih, ← Bool.or_assoc]
      rfl

def mentions (word : String) (cs : List Char) : Bool :=
  containsPart word.toList (cs.flatMap upperChar)

theorem contains_upper (s word : String) : contains (upper s) word = mentions word s.toList := by
  simp [contains, upper, mentions]

def Separates (word : String) (c : Char) : Prop :=
  upperChar c = [c] ∧ c ∉ word.toList

instance (word : String) : DecidablePred (Separates word) := fun c =>
  inferInstanceAs (Decidable (upperChar c = [c] ∧ c ∉ word.toList))

theorem mentions_append_cons (h : Separates word c) (xs ys : List Char) :
    mentions word (xs ++ c :: ys) = (mentions word xs || mentions word ys) := by
  rw [mentions, List.flatMap_append, List.flatMap_cons, h.1, List.singleton_append]
  exact containsPart_append_cons h.2 _ _

section Word

variable (hword : word ≠ "")

include hword

theorem mentions_nil : mentions word [] = false := by
  simpa [mentions, containsPart] using hword

theorem mentions_cons (h : Separates word c) (ys : List Char) :
    mentions word (c :: ys) = mentions word ys := by
  have hsplit := mentions_append_cons h [] ys
  rwa [mentions_nil hword, Bool.false_or] at hsplit

theorem mentions_separators_append (h : ∀ c ∈ xs, Separates word c) (ys : List Char) :
    mentions word (xs ++ ys) = mentions word ys := by
  induction xs with
  | nil => rfl
  | cons c xs ih =>
      obtain ⟨hc, hxs⟩ := List.forall_mem_cons.mp h
      rw [List.cons_append, mentions_cons hword hc, ih hxs]

theorem mentions_append_of_head (h : ∀ c ∈ ys.head?, Separates word c) (xs : List Char) :
    mentions word (xs ++ ys) = (mentions word xs || mentions word ys) := by
  cases ys with
  | nil => rw [List.append_nil, mentions_nil hword, Bool.or_false]
  | cons c ys => rw [mentions_append_cons (h c rfl), mentions_cons hword (h c rfl)]

theorem mentions_intercalate (h : ∀ d ∈ c :: xs, Separates word d) (parts : List (List Char)) :
    mentions word ((c :: xs).intercalate parts) = parts.any (mentions word) := by
  obtain ⟨hc, hxs⟩ := List.forall_mem_cons.mp h
  induction parts with
  | nil => exact mentions_nil hword
  | cons part parts ih =>
      cases parts with
      | nil => simp
      | cons next parts =>
          rw [List.intercalate_cons_cons, List.append_assoc, List.cons_append,
            mentions_append_cons hc, mentions_separators_append hword hxs, ih]
          rfl

end Word

end DatabaseSchema.Text
