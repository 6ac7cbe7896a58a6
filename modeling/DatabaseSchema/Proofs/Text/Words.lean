import DatabaseSchema.Text.Category
import Mathlib.Data.List.Basic
import Mathlib.Data.List.TakeDrop

namespace DatabaseSchema.Text

section Span

variable {p : Char → Bool} {xs ys : List Char}

theorem takeWhile_append_of_head (hxs : ∀ c ∈ xs, p c = true) (hys : ∀ c ∈ ys.head?, p c = false) :
    (xs ++ ys).takeWhile p = xs := by
  have hstop : ys.takeWhile p = [] := by
    cases ys with
    | nil => rfl
    | cons c ys => rw [List.takeWhile_cons, hys c rfl]; rfl
  rw [List.takeWhile_append_of_pos hxs, hstop, List.append_nil]

theorem dropWhile_append_of_head (hxs : ∀ c ∈ xs, p c = true) (hys : ∀ c ∈ ys.head?, p c = false) :
    (xs ++ ys).dropWhile p = ys := by
  rw [List.dropWhile_append_of_pos hxs]
  cases ys with
  | nil => rfl
  | cons c ys => rw [List.dropWhile_cons, hys c rfl]; rfl

end Span

section Breaks

variable {breaks : Char → Bool} {a b xs ys : List Char} {c : Char}

theorem append_inj_of_breaks (ha : ∀ c ∈ a, breaks c = false) (hb : ∀ c ∈ b, breaks c = false)
    (hxs : ∀ c ∈ xs.head?, breaks c = true) (hys : ∀ c ∈ ys.head?, breaks c = true)
    (h : a ++ xs = b ++ ys) : a = b ∧ xs = ys := by
  have hinside : ∀ {w : List Char}, (∀ c ∈ w, breaks c = false) → ∀ c ∈ w, (!breaks c) = true :=
    fun hw c hc => by rw [hw c hc]; rfl
  have hends : ∀ {zs : List Char}, (∀ c ∈ zs.head?, breaks c = true) →
      ∀ c ∈ zs.head?, (!breaks c) = false :=
    fun hzs c hc => by rw [hzs c hc]; rfl
  constructor
  · rw [← takeWhile_append_of_head (hinside ha) (hends hxs), h,
      takeWhile_append_of_head (hinside hb) (hends hys)]
  · rw [← dropWhile_append_of_head (hinside ha) (hends hxs), h,
      dropWhile_append_of_head (hinside hb) (hends hys)]

theorem append_cons_inj (ha : c ∉ a) (hb : c ∉ b) (h : a ++ c :: xs = b ++ c :: ys) :
    a = b ∧ xs = ys := by
  have hnot : ∀ {w : List Char}, c ∉ w → ∀ d ∈ w, (d == c) = false := by
    intro w hw d hd
    rw [beq_eq_false_iff_ne]
    rintro rfl
    exact hw hd
  have hhead : ∀ zs : List Char, ∀ d ∈ (c :: zs).head?, (d == c) = true := by
    rintro zs d ⟨⟩
    exact beq_self_eq_true c
  obtain ⟨hab, hrest⟩ := append_inj_of_breaks (hnot ha) (hnot hb) (hhead xs) (hhead ys) h
  exact ⟨hab, (List.cons.inj hrest).2⟩

end Breaks

section Lists

variable {c : Char} {sep : List Char} {parts parts' : List (List Char)}

theorem flatMap_ended_inj (hparts : ∀ part ∈ parts, c ∉ part) (hparts' : ∀ part ∈ parts', c ∉ part)
    (h : parts.flatMap (· ++ c :: sep) = parts'.flatMap (· ++ c :: sep)) : parts = parts' := by
  induction parts generalizing parts' with
  | nil =>
      cases parts' with
      | nil => rfl
      | cons part' parts' => simp at h
  | cons part parts ih =>
      cases parts' with
      | nil => simp at h
      | cons part' parts' =>
          obtain ⟨hpart, hrest⟩ := List.forall_mem_cons.mp hparts
          obtain ⟨hpart', hrest'⟩ := List.forall_mem_cons.mp hparts'
          simp only [List.flatMap_cons, List.append_assoc, List.cons_append] at h
          obtain ⟨rfl, hlist⟩ := append_cons_inj hpart hpart' h
          rw [ih hrest hrest' (List.append_cancel_left hlist)]

theorem intercalate_ended (hne : parts ≠ []) :
    sep.intercalate parts ++ sep = parts.flatMap (· ++ sep) := by
  induction parts with
  | nil => exact absurd rfl hne
  | cons part parts ih =>
      cases parts with
      | nil => simp
      | cons next parts =>
          rw [List.intercalate_cons_cons, List.append_assoc, List.append_assoc,
            ih (List.cons_ne_nil next parts)]
          exact (List.append_assoc part sep _).symm

theorem not_mem_intercalate (hsep : c ∉ sep) (hparts : ∀ part ∈ parts, c ∉ part) :
    c ∉ sep.intercalate parts := by
  induction parts with
  | nil => simp
  | cons part parts ih =>
      obtain ⟨hpart, hrest⟩ := List.forall_mem_cons.mp hparts
      cases parts with
      | nil => simpa using hpart
      | cons next parts =>
          rw [List.intercalate_cons_cons]
          simp only [List.mem_append, not_or]
          exact ⟨⟨hpart, hsep⟩, ih hrest⟩

theorem intercalate_inj (hne : ∀ part ∈ parts, part ≠ []) (hne' : ∀ part ∈ parts', part ≠ [])
    (hparts : ∀ part ∈ parts, c ∉ part) (hparts' : ∀ part ∈ parts', c ∉ part)
    (h : (c :: sep).intercalate parts = (c :: sep).intercalate parts') : parts = parts' := by
  have hempty : ∀ {parts : List (List Char)}, (∀ part ∈ parts, part ≠ []) →
      (c :: sep).intercalate parts = [] → parts = [] := by
    intro parts hne h
    cases parts with
    | nil => rfl
    | cons part parts =>
        have hpart := hne part List.mem_cons_self
        cases parts <;> simp_all [List.intercalate_cons_cons]
  by_cases hnil : parts = []
  · subst hnil
    exact (hempty hne' h.symm).symm
  · by_cases hnil' : parts' = []
    · subst hnil'
      exact hempty hne h
    · have hended := congrArg (· ++ c :: sep) h
      simp only [intercalate_ended hnil, intercalate_ended hnil'] at hended
      exact flatMap_ended_inj hparts hparts' hended

end Lists

def isBreak (c : Char) : Bool := isBlank c || c == ',' || c == '(' || c == ')'

structure IsWord (s : String) : Prop where
  ne_empty : s ≠ ""
  whole : ∀ c ∈ s.toList, isBreak c = false

theorem isWord_iff {s : String} : IsWord s ↔ s ≠ "" ∧ s.toList.all (!isBreak ·) = true := by
  constructor
  · rintro ⟨hne, hwhole⟩
    exact ⟨hne, List.all_eq_true.mpr fun c hc => by rw [hwhole c hc]; rfl⟩
  · rintro ⟨hne, hwhole⟩
    exact ⟨hne, fun c hc => by simpa using List.all_eq_true.mp hwhole c hc⟩

instance : DecidablePred IsWord := fun _ => decidable_of_iff' _ isWord_iff

theorem IsWord.not_mem {s : String} {c : Char} (h : IsWord s) (hc : isBreak c = true) :
    c ∉ s.toList := by
  intro hmem
  rw [h.whole c hmem] at hc
  cases hc

theorem IsWord.toList_ne_nil {s : String} (h : IsWord s) : s.toList ≠ [] :=
  fun hnil => h.ne_empty (String.toList_eq_nil_iff.mp hnil)

theorem of_isDigit {P : Char → Prop} (h : ∀ n < 58, 48 ≤ n → P (Char.ofNat n)) {c : Char}
    (hc : c.isDigit = true) : P c := by
  rw [← Char.ofNat_toNat c]
  simp only [Char.isDigit, Bool.and_eq_true, decide_eq_true_eq, UInt32.le_iff_toNat_le] at hc
  exact h c.toNat (Nat.lt_succ_of_le hc.2) hc.1

theorem isBreak_of_isDigit {c : Char} (h : c.isDigit = true) : isBreak c = false :=
  of_isDigit (P := fun c => isBreak c = false) (by decide) h

theorem not_mem_commas {c : Char} {names : List String} (hc : c ∉ [',', ' '])
    (hbreak : isBreak c = true) (h : ∀ name ∈ names, IsWord name) :
    c ∉ (", ".intercalate names).toList := by
  rw [String.toList_intercalate]
  refine not_mem_intercalate hc fun part hpart => ?_
  obtain ⟨name, hname, rfl⟩ := List.mem_map.mp hpart
  exact (h name hname).not_mem hbreak

theorem commas_inj {names names' : List String} (h : ∀ name ∈ names, IsWord name)
    (h' : ∀ name ∈ names', IsWord name)
    (heq : (", ".intercalate names).toList = (", ".intercalate names').toList) :
    names = names' := by
  have hne : ∀ {names : List String}, (∀ name ∈ names, IsWord name) →
      ∀ part ∈ names.map String.toList, part ≠ [] ∧ ',' ∉ part := by
    intro names h part hpart
    obtain ⟨name, hname, rfl⟩ := List.mem_map.mp hpart
    exact ⟨(h name hname).toList_ne_nil, (h name hname).not_mem (by decide)⟩
  rw [String.toList_intercalate, String.toList_intercalate] at heq
  refine List.map_injective_iff.mpr (fun _ _ => String.toList_inj.mp) ?_
  exact intercalate_inj (fun part hp => (hne h part hp).1) (fun part hp => (hne h' part hp).1)
    (fun part hp => (hne h part hp).2) (fun part hp => (hne h' part hp).2) heq

end DatabaseSchema.Text
