import DatabaseSchema.Pattern
import DatabaseSchema.Text
import DatabaseSchema.Text.Category

namespace DatabaseSchema.Text

variable {c d k : Char} {p : Char → Bool} {f : Char → List Char} {cs xs ys text : List Char}

theorem inRanges_iff {ranges : List (Nat × Nat)} {n : Nat} :
    inRanges ranges n = true ↔ n ∈ ranges.flatMap fun r => List.range' r.1 (r.2 + 1 - r.1) := by
  simp only [inRanges, List.any_eq_true, Bool.and_eq_true, decide_eq_true_eq, List.mem_flatMap,
    List.mem_range'_1]
  refine exists_congr fun r => and_congr_right fun _ => ?_
  omega

theorem CaseRun.preimage_image {r : CaseRun} {n : Nat} (h : r.covers n = true)
    (hpos : 0 < r.image n) : r.preimage (r.image n) = some n := by
  have hback : ((r.image n : Int) - r.shift).toNat = n := by
    unfold image at hpos ⊢
    omega
  simp only [preimage, hback, h, beq_self_eq_true, Bool.and_self, if_pos]

theorem mem_upperChar (h : d ∈ upperChar c) :
    (c.toNat < 128 ∧ d = c.toUpper) ∨ (∃ e ∈ upperExpansions, d ∈ e.2.map Char.ofNat) ∨
      (∃ r ∈ upperRuns, r.covers c.toNat = true ∧ d = Char.ofNat (r.image c.toNat)) ∨ d = c := by
  unfold upperChar at h
  split at h
  next hascii => exact .inl ⟨hascii, List.mem_singleton.mp h⟩
  next =>
    split at h
    next cs hlookup =>
      obtain ⟨before, after, htable, -⟩ := List.lookup_eq_some_iff.mp hlookup
      exact .inr (.inl ⟨(c.toNat, cs), by simp [htable], h⟩)
    next =>
      rw [List.mem_singleton, mapByRuns] at h
      split at h
      next r hr =>
        have hcovers : r.covers c.toNat = true := by simpa using List.find?_some hr
        exact .inr (.inr (.inl ⟨r, List.mem_of_find?_eq_some hr, hcovers, h⟩))
      next => exact .inr (.inr (.inr h))

theorem upperChar_ne_nil (c : Char) : upperChar c ≠ [] := by
  have htable : ∀ e ∈ upperExpansions, e.2 ≠ [] := by decide
  unfold upperChar
  split
  next => simp
  next =>
    split
    next cs hlookup =>
      obtain ⟨before, after, hexpansions, -⟩ := List.lookup_eq_some_iff.mp hlookup
      simpa using htable (c.toNat, cs) (by simp [hexpansions])
    next => simp

structure Caseless (k : Char) : Prop where
  upper : upperChar k = [k]
  eq_of_mem : ∀ c, k ∈ upperChar c → c = k

def isCaseless (k : Char) : Bool :=
  upperChar k == [k] && k != '\x00' &&
    (List.range 128).all (fun n => (Char.ofNat n).toUpper != k || Char.ofNat n == k) &&
    upperExpansions.all (fun e => !(e.2.map Char.ofNat).contains k) &&
    upperRuns.all fun r => (r.preimage k.toNat).isNone

theorem toNat_of_ofNat {n : Nat} (h : Char.ofNat n = k) (hk : k ≠ '\x00') : k.toNat = n := by
  by_cases hvalid : n.isValidChar
  · rw [← h, Char.ofNat, dif_pos hvalid]
    rfl
  · refine absurd ?_ hk
    rw [← h, Char.ofNat, dif_neg hvalid]
    rfl

theorem caseless_of_isCaseless (h : isCaseless k = true) : Caseless k := by
  simp only [isCaseless, Bool.and_eq_true, beq_iff_eq, bne_iff_ne, List.all_eq_true,
    List.mem_range, Bool.or_eq_true, Bool.not_eq_true', Option.isNone_iff_eq_none,
    List.contains_eq_mem, decide_eq_false_iff_not] at h
  obtain ⟨⟨⟨⟨hupper, hk⟩, hascii⟩, hexpansions⟩, hruns⟩ := h
  refine ⟨hupper, fun c hc => ?_⟩
  obtain ⟨hlt, heq⟩ | ⟨e, he, hmem⟩ | ⟨r, hr, hcovers, heq⟩ | heq := mem_upperChar hc
  · have hsame := hascii c.toNat hlt
    rw [Char.ofNat_toNat] at hsame
    exact hsame.resolve_left fun hne => hne heq.symm
  · exact absurd hmem (hexpansions e he)
  · have himage : k.toNat = r.image c.toNat := toNat_of_ofNat heq.symm hk
    have hpos : 0 < r.image c.toNat := by
      rw [← himage]
      exact Nat.pos_of_ne_zero fun hzero => hk (by rw [← Char.ofNat_toNat k, hzero])
    have hnone := hruns r hr
    rw [himage, r.preimage_image hcovers hpos] at hnone
    cases hnone
  · exact heq.symm

theorem caseless_of_isBlank (h : isBlank k = true) : Caseless k := by
  have hall : (blankRanges.flatMap fun r => List.range' r.1 (r.2 + 1 - r.1)).all
      (fun n => isCaseless (Char.ofNat n)) = true := by decide +kernel
  have hk := List.all_eq_true.mp hall k.toNat (inRanges_iff.mp h)
  rw [Char.ofNat_toNat] at hk
  exact caseless_of_isCaseless hk

theorem isBlank_of_mem_upperChar (h : d ∈ upperChar c) : isBlank d = isBlank c := by
  cases hd : isBlank d with
  | true => rw [(caseless_of_isBlank hd).eq_of_mem c h, hd]
  | false =>
      cases hc : isBlank c with
      | false => rfl
      | true =>
          rw [(caseless_of_isBlank hc).upper, List.mem_singleton] at h
          rw [← hd, h, hc]

theorem flatMap_upperChar_eq (h : ∀ c ∈ cs, upperChar c = [c]) : cs.flatMap upperChar = cs := by
  induction cs with
  | nil => rfl
  | cons c cs ih =>
      obtain ⟨hc, hcs⟩ := List.forall_mem_cons.mp h
      rw [List.flatMap_cons, hc, ih hcs]
      rfl

theorem toLower_of_not_ascii (hc : ¬c.toNat < 128) : c.toLower = c := by
  unfold Char.toLower
  rw [dif_neg]
  rintro ⟨-, hle⟩
  exact hc (Nat.lt_of_le_of_lt (UInt32.le_iff_toNat_le.mp hle) (by decide))

theorem apply_toLower {α : Type} {f : Char → α}
    (h : ∀ n < 128, f (Char.ofNat n).toLower = f (Char.ofNat n)) (c : Char) :
    f c.toLower = f c := by
  by_cases hc : c.toNat < 128
  · have hn := h c.toNat hc
    rwa [Char.ofNat_toNat] at hn
  · rw [toLower_of_not_ascii hc]

theorem isBlank_toLower (c : Char) : isBlank c.toLower = isBlank c :=
  apply_toLower (by decide +kernel) c

theorem dropWhile_flatMap (hne : ∀ c, f c ≠ []) (hf : ∀ c, ∀ d ∈ f c, p d = p c)
    (cs : List Char) : (cs.flatMap f).dropWhile p = (cs.dropWhile p).flatMap f := by
  induction cs with
  | nil => rfl
  | cons c cs ih =>
      rw [List.flatMap_cons, List.dropWhile_cons]
      cases hp : p c with
      | true =>
          rw [List.dropWhile_append_of_pos fun d hd => (hf c d hd).trans hp, ih]
          rfl
      | false =>
          obtain ⟨d, ds, hds⟩ := List.exists_cons_of_ne_nil (hne c)
          have hd : p d = false := (hf c d (by simp [hds])).trans hp
          simp [hds, hd]

theorem trimEndChars_flatMap_upperChar (cs : List Char) :
    trimEndChars (cs.flatMap upperChar) = (trimEndChars cs).flatMap upperChar := by
  have hdrop := dropWhile_flatMap (p := isBlank) (f := List.reverse ∘ upperChar)
    (fun c => by simpa using upperChar_ne_nil c)
    (fun c d hd => isBlank_of_mem_upperChar (by simpa using hd)) cs.reverse
  rw [trimEndChars, List.reverse_flatMap, hdrop, List.reverse_flatMap]
  simp only [Function.comp_def, List.reverse_reverse, trimEndChars]

theorem trimChars_flatMap_upperChar (cs : List Char) :
    trimChars (cs.flatMap upperChar) = (trimChars cs).flatMap upperChar := by
  rw [trimChars, dropWhile_flatMap upperChar_ne_nil fun c d hd => isBlank_of_mem_upperChar hd,
    trimEndChars_flatMap_upperChar, trimChars]

end DatabaseSchema.Text

namespace DatabaseSchema

namespace Text

variable {c k : Char}

theorem fold_of_ascii (h : c.toNat < 128) : fold c = c.toLower := by
  rw [fold, if_pos h]

theorem fold_of_not_ascii (h : ¬c.toNat < 128) :
    (∃ r ∈ foldRuns ++ lowerRuns, r.covers c.toNat = true ∧
      fold c = Char.ofNat (r.image c.toNat)) ∨ fold c = c := by
  have hcovers : ∀ {runs : List CaseRun} {r : CaseRun},
      runs.find? (·.covers c.toNat) = some r → r ∈ runs ∧ r.covers c.toNat = true :=
    fun hr => ⟨List.mem_of_find?_eq_some hr, by simpa using List.find?_some hr⟩
  rw [fold, if_neg h]
  split
  next r hr => exact .inl ⟨r, List.mem_append_left _ (hcovers hr).1, (hcovers hr).2, rfl⟩
  next =>
    rw [mapByRuns]
    split
    next r hr => exact .inl ⟨r, List.mem_append_right _ (hcovers hr).1, (hcovers hr).2, rfl⟩
    next => exact .inr rfl

def isPlain (k : Char) : Bool :=
  k.toNat < 128 && k.toLower.toNat < 128 && k.toLower != '\x00' && k.toLower.toUpper == k &&
    (foldRuns ++ lowerRuns).all fun r => (r.preimage k.toLower.toNat).isNone

structure Plain (k : Char) : Prop where
  ascii : k.toNat < 128
  toUpper : k.toLower.toUpper = k
  toLower_eq : ∀ c, fold c = k.toLower ↔ c.toLower = k.toLower

theorem plain_of_isPlain (h : isPlain k = true) : Plain k := by
  simp only [isPlain, Bool.and_eq_true, decide_eq_true_eq, bne_iff_ne, beq_iff_eq,
    List.all_eq_true, Option.isNone_iff_eq_none] at h
  obtain ⟨⟨⟨⟨hascii, hsmall⟩, hzero⟩, hupper⟩, hruns⟩ := h
  refine ⟨hascii, hupper, fun c => ?_⟩
  by_cases hc : c.toNat < 128
  · rw [fold_of_ascii hc]
  · have hne : c ≠ k.toLower := by
      rintro rfl
      exact hc hsmall
    rw [toLower_of_not_ascii hc]
    refine ⟨fun hfold => ?_, fun heq => absurd heq hne⟩
    obtain ⟨r, hr, hcovers, himage⟩ | hself := fold_of_not_ascii hc
    · have himage : k.toLower.toNat = r.image c.toNat :=
        toNat_of_ofNat (himage.symm.trans hfold) hzero
      have hpos : 0 < r.image c.toNat := by
        rw [← himage]
        exact Nat.pos_of_ne_zero fun h0 => hzero (by rw [← Char.ofNat_toNat k.toLower, h0])
      have hnone := hruns r hr
      rw [himage, r.preimage_image hcovers hpos] at hnone
      cases hnone
    · exact absurd (hself.symm.trans hfold) hne

theorem Plain.mem_caseVariants (h : Plain k) : k ∈ caseVariants c ↔ c.toLower = k.toLower := by
  rw [← h.toLower_eq, caseVariants, List.mem_filter, beq_iff_eq, fold_of_ascii h.ascii]
  constructor
  · rintro ⟨-, heq⟩
    exact heq.symm
  · intro hfold
    refine ⟨?_, hfold.symm⟩
    simp [hfold, h.toUpper]

end Text

theorem CharSet.has_folded_only {c k : Char} (h : Text.Plain k) :
    (folded (.only k)).has c = true ↔ c.toLower = k.toLower := by
  rw [← h.mem_caseVariants]
  simp only [has, only, List.any_eq_true, Bool.and_eq_true, decide_eq_true_eq]
  constructor
  · rintro ⟨d, hd, hle, hge⟩
    rwa [Char.le_antisymm hle hge]
  · exact fun hk => ⟨k, hk, Char.le_refl k, Char.le_refl k⟩

end DatabaseSchema
