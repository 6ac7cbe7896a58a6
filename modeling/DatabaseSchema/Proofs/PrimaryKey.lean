import DatabaseSchema.Keys
import Mathlib.Data.List.Nodup
import Mathlib.Data.List.Perm.Basic

namespace DatabaseSchema.PrimaryKey

section

variable {key : List String} {all columns result : List Column} {c : Column} {table name : String}

theorem isNamed_iff : c.isNamed name = true ↔ nameKey c.name = nameKey name :=
  sameName_iff

theorem key_of_find? (h : columns.find? (·.isNamed name) = some c) :
    nameKey c.name = nameKey name := by
  simpa [isNamed_iff] using List.find?_some h

theorem find?_isNamed (hdistinct : (columns.map (nameKey ·.name)).Nodup) (hc : c ∈ columns)
    (hn : nameKey c.name = nameKey name) :
    columns.find? (·.isNamed name) = some c := by
  have hsome : (columns.find? (·.isNamed name)).isSome :=
    List.find?_isSome.mpr ⟨c, hc, isNamed_iff.mpr hn⟩
  obtain ⟨d, hd⟩ := Option.isSome_iff_exists.mp hsome
  have hsame := (key_of_find? hd).trans hn.symm
  rw [hd, List.inj_on_of_nodup_map hdistinct (List.mem_of_find?_eq_some hd) hc hsame]

def Flagged (key : List String) (columns : List Column) : Prop :=
  ∀ c ∈ columns, c.primaryKey = true ↔ ∃ name ∈ key, nameKey c.name = nameKey name

theorem flagged_mark (h : ∀ c ∈ columns, c.primaryKey = false) :
    Flagged key (mark columns key) := by
  intro c hc
  obtain ⟨d, hd, rfl⟩ := List.mem_map.mp hc
  have hany : key.any d.isNamed = true ↔ ∃ name ∈ key, nameKey d.name = nameKey name := by
    simp [List.any_eq_true, isNamed_iff]
  split
  next ht => simpa using hany.mp ht
  next hf => simp [h d hd, ← hany, hf]

theorem length_mark : (mark columns key).length = columns.length :=
  List.length_map _

theorem name_mark : (mark columns key).map (·.name) = columns.map (·.name) := by
  rw [mark, List.map_map]
  refine List.map_congr_left fun c _ => ?_
  simp only [Function.comp_apply]
  split <;> rfl

theorem mem_arrange (h : c ∈ arrange all key columns) : c ∈ all ∨ c ∈ columns := by
  induction columns generalizing key with
  | nil => simp [arrange] at h
  | cons d columns ih =>
      cases key with
      | nil => exact .inr (by simpa [arrange] using h)
      | cons name key =>
          rw [arrange] at h
          split at h
          next =>
            rcases List.mem_append.mp h with h | h
            · exact .inl (List.mem_of_find?_eq_some (Option.mem_toList.mp h))
            · exact (ih h).imp_right (List.mem_cons_of_mem d)
          next =>
            rcases List.mem_cons.mp h with rfl | h
            · exact .inr List.mem_cons_self
            · exact (ih h).imp_right (List.mem_cons_of_mem d)

theorem length_arrange (h : ∀ name ∈ key, ∃ c ∈ all, c.isNamed name = true) :
    (arrange all key columns).length = columns.length := by
  induction columns generalizing key with
  | nil => cases key <;> rfl
  | cons d columns ih =>
      cases key with
      | nil => rfl
      | cons name key =>
          obtain ⟨c, hc, hn⟩ := h name List.mem_cons_self
          have hrest : ∀ name ∈ key, ∃ c ∈ all, c.isNamed name = true :=
            fun other hmem => h other (List.mem_cons_of_mem name hmem)
          have hfound : (all.find? (·.isNamed name)).isSome :=
            List.find?_isSome.mpr ⟨c, hc, hn⟩
          obtain ⟨found, hfound⟩ := Option.isSome_iff_exists.mp hfound
          rw [arrange]
          split
          next => simp [hfound, ih hrest]
          next => simp [ih h]

theorem order_eq_ok :
    order table key columns = .ok result ↔
      (∀ name ∈ key, ∃ c ∈ columns, nameKey c.name = nameKey name) ∧
        result = arrange columns key columns := by
  unfold order
  split
  next missing hfind =>
    have hm : missing ∈ key := List.mem_of_find?_eq_some hfind
    have hnone := List.find?_some hfind
    simp only [reduceCtorEq, false_iff, not_and]
    intro hall
    obtain ⟨c, hc, hn⟩ := hall missing hm
    simp [isNamed_iff] at hnone
    exact absurd hn (hnone c hc)
  next hfind =>
    have hall : ∀ name ∈ key, ∃ c ∈ columns, nameKey c.name = nameKey name := by
      intro name hmem
      have hany := List.find?_eq_none.mp hfind name hmem
      simpa [isNamed_iff] using hany
    exact ⟨fun h => ⟨hall, (Except.ok.inj h).symm⟩, fun h => by rw [h.2]⟩

theorem order_mark (h : ∀ c ∈ columns, c.primaryKey = false)
    (ho : order table key (mark columns key) = .ok result) :
    Flagged key result ∧ (∀ name ∈ key, ∃ c ∈ columns, nameKey c.name = nameKey name) ∧
      result.length = columns.length := by
  obtain ⟨hall, rfl⟩ := order_eq_ok.mp ho
  refine ⟨?_, ?_, ?_⟩
  · intro c hc
    rcases mem_arrange hc with hc | hc <;> exact flagged_mark h c hc
  · intro name hmem
    obtain ⟨c, hc, hn⟩ := hall name hmem
    have hname : c.name ∈ (mark columns key).map (·.name) := List.mem_map_of_mem hc
    rw [name_mark] at hname
    obtain ⟨d, hd, heq⟩ := List.mem_map.mp hname
    exact ⟨d, hd, by rw [heq, hn]⟩
  · rw [length_arrange ?_, length_mark]
    exact fun name hmem => (hall name hmem).imp fun c hc => ⟨hc.1, isNamed_iff.mpr hc.2⟩

end

variable {entries entries' sorted sorted' rest : List (Int32 × String)} {a b : Int32 × String}
  {place : Int32}

def atPlace (place : Int32) (entries : List (Int32 × String)) : List (Int32 × String) :=
  entries.filter (·.1 == place)

structure StablySorted (entries sorted : List (Int32 × String)) : Prop where
  perm : sorted.Perm entries
  ascending : sorted.Pairwise fun a b => a.1 ≤ b.1
  stable : ∀ place, atPlace place sorted = atPlace place entries

theorem mem_atPlace : a ∈ atPlace place entries ↔ a ∈ entries ∧ a.1 = place := by
  rw [atPlace, List.mem_filter, beq_iff_eq]

theorem atPlace_append :
    atPlace place (entries ++ rest) = atPlace place entries ++ atPlace place rest :=
  List.filter_append _ _

theorem atPlace_cons_self (h : a.1 = place) :
    atPlace place (a :: entries) = a :: atPlace place entries :=
  List.filter_cons_of_pos (beq_iff_eq.mpr h)

theorem atPlace_cons_other (h : a.1 ≠ place) :
    atPlace place (a :: entries) = atPlace place entries :=
  List.filter_cons_of_neg (by simpa using h)

theorem place_trans (a b c : Int32 × String) (hab : decide (a.1 ≤ b.1) = true)
    (hbc : decide (b.1 ≤ c.1) = true) : decide (a.1 ≤ c.1) = true := by
  simp only [decide_eq_true_eq] at hab hbc ⊢
  exact Int32.le_trans hab hbc

theorem place_total (a b : Int32 × String) :
    (decide (a.1 ≤ b.1) || decide (b.1 ≤ a.1)) = true := by
  simpa using Int32.le_total a.1 b.1

theorem atPlace_mergeSort (place : Int32) (entries : List (Int32 × String)) :
    atPlace place (entries.mergeSort fun a b => a.1 ≤ b.1) = atPlace place entries := by
  have hsame : (atPlace place entries).Pairwise fun a b => decide (a.1 ≤ b.1) = true := by
    refine List.pairwise_of_forall_mem_list fun a ha b hb => ?_
    rw [(mem_atPlace.mp ha).2, (mem_atPlace.mp hb).2]
    exact decide_eq_true (Int32.le_refl place)
  have hself : atPlace place (atPlace place entries) = atPlace place entries :=
    List.filter_eq_self.mpr fun a ha => beq_iff_eq.mpr (mem_atPlace.mp ha).2
  have hsub : (atPlace place entries).Sublist
      (atPlace place (entries.mergeSort fun a b => a.1 ≤ b.1)) := by
    rw [← hself]
    exact (List.sublist_mergeSort place_trans place_total hsame List.filter_sublist).filter _
  have hperm := (List.mergeSort_perm entries fun a b => a.1 ≤ b.1).filter (·.1 == place)
  exact (hsub.eq_of_length hperm.length_eq.symm).symm

theorem stablySorted_mergeSort (entries : List (Int32 × String)) :
    StablySorted entries (entries.mergeSort fun a b => a.1 ≤ b.1) where
  perm := List.mergeSort_perm entries _
  ascending := (List.pairwise_mergeSort place_trans place_total entries).imp of_decide_eq_true
  stable place := atPlace_mergeSort place entries

theorem subset_of_atPlace (h : ∀ place, atPlace place entries = atPlace place entries') :
    entries ⊆ entries' := by
  intro a ha
  have hmem : a ∈ atPlace a.1 entries := mem_atPlace.mpr ⟨ha, rfl⟩
  rw [h] at hmem
  exact (mem_atPlace.mp hmem).1

theorem head_le (h : (a :: entries).Pairwise fun a b => a.1 ≤ b.1) (hb : b ∈ a :: entries) :
    a.1 ≤ b.1 := by
  obtain rfl | hb := List.mem_cons.mp hb
  · exact Int32.le_refl _
  · exact (List.pairwise_cons.mp h).1 b hb

theorem eq_of_ascending (h : sorted.Pairwise fun a b => a.1 ≤ b.1)
    (h' : sorted'.Pairwise fun a b => a.1 ≤ b.1)
    (hsame : ∀ place, atPlace place sorted = atPlace place sorted') : sorted = sorted' := by
  induction sorted generalizing sorted' with
  | nil => exact (List.subset_nil.mp (subset_of_atPlace fun place => (hsame place).symm)).symm
  | cons a as ih =>
      cases sorted' with
      | nil => exact absurd (subset_of_atPlace hsame List.mem_cons_self) List.not_mem_nil
      | cons b bs =>
          have hab := head_le h (subset_of_atPlace (fun place => (hsame place).symm)
            List.mem_cons_self)
          have hba := head_le h' (subset_of_atPlace hsame List.mem_cons_self)
          have hfirst := hsame a.1
          rw [atPlace_cons_self rfl, atPlace_cons_self (Int32.le_antisymm hba hab)] at hfirst
          obtain ⟨rfl, hrest⟩ := List.cons_eq_cons.mp hfirst
          refine congrArg _ (ih h.of_cons h'.of_cons fun place => ?_)
          by_cases hplace : a.1 = place
          · rwa [← hplace]
          · have htails := hsame place
            rwa [atPlace_cons_other hplace, atPlace_cons_other hplace] at htails

theorem atPlace_eq_of_perm (h : entries.Perm entries') (hdistinct : (entries.map (·.1)).Nodup) :
    atPlace place entries = atPlace place entries' := by
  have hplaces {as : List (Int32 × String)} (has : (as.map (·.1)).Nodup) :
      (atPlace place as).Pairwise fun a b => a.1 ≠ b.1 := (List.pairwise_map.mp has).filter _
  refine List.Perm.eq_of_pairwise (fun a b ha hb hne _ => ?_) (hplaces hdistinct)
    (hplaces ((h.map (·.1)).nodup_iff.mp hdistinct)) (h.filter _)
  exact absurd ((mem_atPlace.mp ha).2.trans (mem_atPlace.mp hb).2.symm) hne

namespace StablySorted

theorem eq (h : StablySorted entries sorted) (h' : StablySorted entries sorted') :
    sorted = sorted' :=
  eq_of_ascending h.ascending h'.ascending fun place =>
    (h.stable place).trans (h'.stable place).symm

theorem inSequence_eq (h : StablySorted entries sorted) :
    inSequence entries = sorted.map (·.2) := by
  rw [inSequence, (stablySorted_mergeSort entries).eq h]

theorem of_perm (h : StablySorted (entries ++ rest) sorted) (hperm : entries.Perm entries')
    (hdistinct : (entries.map (·.1)).Nodup) : StablySorted (entries' ++ rest) sorted where
  perm := h.perm.trans (hperm.append_right rest)
  ascending := h.ascending
  stable place := by
    rw [h.stable, atPlace_append, atPlace_append, atPlace_eq_of_perm hperm hdistinct]

end StablySorted

end DatabaseSchema.PrimaryKey
