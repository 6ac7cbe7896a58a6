import DatabaseSchema.Proofs.Listwise
import DatabaseSchema.Proofs.PrimaryKey
import Mathlib.Data.List.Perm.Basic
import Mathlib.Data.List.Perm.Subperm

namespace DatabaseSchema.PrimaryKey

variable {key : List String} {all columns found result : List Column} {c d : Column}
  {table name : String}

theorem arrange_nil (all columns : List Column) : arrange all [] columns = columns := by
  cases columns <;> rfl

theorem arrange_plain (hd : d.primaryKey = false) :
    arrange all key (d :: columns) = d :: arrange all key columns := by
  cases key with
  | nil => rw [arrange_nil, arrange_nil]
  | cons name key => simp [arrange, hd]

theorem arrange_flagged (hd : d.primaryKey = true)
    (hfind : all.find? (·.isNamed name) = some c) :
    arrange all (name :: key) (d :: columns) = c :: arrange all key columns := by
  simp [arrange, hd, hfind]

def SamePlaces (result columns : List Column) : Prop :=
  List.Forall₂ (fun d c => d.primaryKey = c.primaryKey ∧ (c.primaryKey = false → d = c))
    result columns

theorem samePlaces_refl (columns : List Column) : SamePlaces columns columns :=
  List.forall₂_same.mpr fun _ _ => ⟨rfl, fun _ => rfl⟩

theorem samePlaces_arrange
    (hfound : List.Forall₂ (fun name c => all.find? (·.isNamed name) = some c) key found)
    (hflagged : ∀ c ∈ found, c.primaryKey = true) :
    SamePlaces (arrange all key columns) columns := by
  induction columns generalizing key found with
  | nil =>
      cases key <;> exact samePlaces_refl []
  | cons d columns ih =>
      cases hd : d.primaryKey with
      | false =>
          rw [arrange_plain hd]
          exact .cons ⟨rfl, fun _ => rfl⟩ (ih hfound hflagged)
      | true =>
          cases hfound with
          | nil =>
              rw [arrange_nil]
              exact samePlaces_refl _
          | @cons name c key found hfind hfound =>
              rw [arrange_flagged hd hfind]
              have hc : c.primaryKey = true := hflagged c List.mem_cons_self
              refine .cons ⟨hc.trans hd.symm, fun hn => ?_⟩ ?_
              · rw [hd] at hn
                cases hn
              · exact ih hfound fun e he => hflagged e (List.mem_cons_of_mem c he)

namespace SamePlaces

theorem flags (h : SamePlaces result columns) :
    result.map (·.primaryKey) = columns.map (·.primaryKey) := by
  induction h with
  | nil => rfl
  | cons hdc _ ih => rw [List.map_cons, List.map_cons, hdc.1, ih]

theorem filter_plain (h : SamePlaces result columns) :
    result.filter (fun c => !c.primaryKey) = columns.filter (fun c => !c.primaryKey) := by
  induction h with
  | nil => rfl
  | @cons d c _ _ hdc _ ih =>
      cases hc : c.primaryKey with
      | false =>
          obtain rfl := hdc.2 hc
          simp [hc, ih]
      | true =>
          have hd : d.primaryKey = true := hdc.1.trans hc
          simp [hc, hd, ih]

theorem getElem?_plain (h : SamePlaces result columns) {i : Nat} (hi : columns[i]? = some c)
    (hc : c.primaryKey = false) : result[i]? = some c := by
  obtain ⟨hlt, hget⟩ := List.getElem?_eq_some_iff.mp hi
  have hlt' : i < result.length := by rw [List.Forall₂.length_eq h]; exact hlt
  have hsame := (List.Forall₂.get h hlt' hlt).2
  simp only [List.get_eq_getElem] at hsame
  rw [List.getElem?_eq_getElem hlt', hsame (by rw [hget, hc]), hget]

theorem perm_iff (h : SamePlaces result columns) :
    result.Perm columns ↔
      (result.filter (·.primaryKey)).Perm (columns.filter (·.primaryKey)) := by
  constructor
  · intro hp
    exact hp.filter _
  · intro hp
    have hall := hp.append_right (result.filter fun c => !c.primaryKey)
    rw [h.filter_plain] at hall
    have hresult := List.filter_append_perm (·.primaryKey) result
    rw [h.filter_plain] at hresult
    exact hresult.symm.trans (hall.trans (List.filter_append_perm (·.primaryKey) columns))

end SamePlaces

theorem filter_arrange
    (hfound : List.Forall₂ (fun name c => all.find? (·.isNamed name) = some c) key found)
    (hflagged : ∀ c ∈ found, c.primaryKey = true)
    (hlength : (columns.filter (·.primaryKey)).length ≤ found.length) :
    (arrange all key columns).filter (·.primaryKey) =
      found.take (columns.filter (·.primaryKey)).length := by
  induction columns generalizing key found with
  | nil => cases key <;> simp [arrange]
  | cons d columns ih =>
      cases hd : d.primaryKey with
      | false =>
          simp only [List.filter_cons, hd, Bool.false_eq_true, if_false] at hlength
          rw [arrange_plain hd]
          simp only [List.filter_cons, hd, Bool.false_eq_true, if_false]
          exact ih hfound hflagged hlength
      | true =>
          simp only [List.filter_cons, hd, if_true, List.length_cons] at hlength
          cases hfound with
          | nil => simp at hlength
          | @cons name c key found hfind hfound =>
              have hc : c.primaryKey = true := hflagged c List.mem_cons_self
              have hrest := ih hfound (fun e he => hflagged e (List.mem_cons_of_mem c he))
                (by simpa using hlength)
              rw [arrange_flagged hd hfind]
              simp only [List.filter_cons, hc, hd, if_true, List.length_cons, List.take_succ_cons,
                hrest]

def RepeatsLast (key : List String) : Prop :=
  ∃ first rest, key = first ++ rest ∧ (first.map nameKey).Nodup ∧
    ∀ name ∈ rest, nameKey name ∈ first.map nameKey

theorem repeatsLast_of_nodup (h : (key.map nameKey).Nodup) : RepeatsLast key :=
  ⟨key, [], by simp, h, by simp⟩

theorem exists_found (hall : ∀ name ∈ key, ∃ c ∈ columns, nameKey c.name = nameKey name) :
    ∃ found, List.Forall₂ (fun name c => columns.find? (·.isNamed name) = some c) key found := by
  induction key with
  | nil => exact ⟨[], .nil⟩
  | cons name key ih =>
      obtain ⟨c, hc, hn⟩ := hall name List.mem_cons_self
      have hsome : (columns.find? (·.isNamed name)).isSome :=
        List.find?_isSome.mpr ⟨c, hc, isNamed_iff.mpr hn⟩
      obtain ⟨d, hd⟩ := Option.isSome_iff_exists.mp hsome
      obtain ⟨found, hfound⟩ := ih fun other hmem => hall other (List.mem_cons_of_mem name hmem)
      exact ⟨d :: found, .cons hd hfound⟩

section Found

variable (hdistinct : (columns.map (nameKey ·.name)).Nodup) (hflagged : Flagged key columns)
  (hfound : List.Forall₂ (fun name c => columns.find? (·.isNamed name) = some c) key found)

include hfound

theorem keys_found : found.map (nameKey ·.name) = key.map nameKey := by
  induction hfound with
  | nil => rfl
  | cons hfind _ ih =>
      rw [List.map_cons, List.map_cons, key_of_find? hfind, ih]

include hflagged

theorem mem_of_found (hc : c ∈ found) : c ∈ columns ∧ c.primaryKey = true := by
  obtain ⟨name, hname, hfind⟩ := exists_of_mem_right hfound c hc
  have hmem := List.mem_of_find?_eq_some hfind
  exact ⟨hmem, (hflagged c hmem).mpr ⟨name, hname, key_of_find? hfind⟩⟩

include hdistinct

theorem mem_found_iff : c ∈ found ↔ c ∈ columns.filter (·.primaryKey) := by
  rw [List.mem_filter]
  constructor
  · exact mem_of_found hflagged hfound
  · rintro ⟨hc, ht⟩
    obtain ⟨name, hname, hn⟩ := (hflagged c hc).mp ht
    obtain ⟨d, hd, hfind⟩ := exists_of_mem_left hfound name hname
    have hsame := find?_isNamed hdistinct hc hn
    rw [hfind, Option.some.injEq] at hsame
    exact hsame ▸ hd

theorem length_flagged_le : (columns.filter (·.primaryKey)).length ≤ found.length := by
  have hnodup : (columns.filter (·.primaryKey)).Nodup := (List.Nodup.of_map _ hdistinct).filter _
  refine (List.subperm_of_subset hnodup fun c hc => ?_).length_le
  exact (mem_found_iff hdistinct hflagged hfound).mpr hc

theorem take_found_perm_iff :
    (found.take (columns.filter (·.primaryKey)).length).Perm (columns.filter (·.primaryKey)) ↔
      (found.take (columns.filter (·.primaryKey)).length).Nodup := by
  have hnodup : (columns.filter (·.primaryKey)).Nodup := (List.Nodup.of_map _ hdistinct).filter _
  constructor
  · intro hp
    exact hp.nodup_iff.mpr hnodup
  · intro hd
    -- as many different flagged columns as there are flagged columns
    have hsub : found.take (columns.filter (·.primaryKey)).length ⊆ columns.filter (·.primaryKey) :=
      fun c hc => (mem_found_iff hdistinct hflagged hfound).mp (List.mem_of_mem_take hc)
    have hlength := List.length_take_of_le (length_flagged_le hdistinct hflagged hfound)
    exact (List.subperm_of_subset hd hsub).perm_of_length_le (Nat.le_of_eq hlength.symm)

theorem nodup_take_found_iff {n : Nat} :
    (found.take n).Nodup ↔ ((key.take n).map nameKey).Nodup := by
  rw [List.map_take, ← keys_found hfound, ← List.map_take]
  constructor
  · intro h
    refine h.map_on fun c hc d hd heq => ?_
    have hc' := (mem_of_found hflagged hfound (List.mem_of_mem_take hc)).1
    have hd' := (mem_of_found hflagged hfound (List.mem_of_mem_take hd)).1
    exact List.inj_on_of_nodup_map hdistinct hc' hd' heq
  · intro h
    exact h.of_map _

theorem nodup_take_found_iff_repeatsLast :
    (found.take (columns.filter (·.primaryKey)).length).Nodup ↔ RepeatsLast key := by
  constructor
  · intro hd
    have hkeys := (nodup_take_found_iff hdistinct hflagged hfound).mp hd
    have hperm := (take_found_perm_iff hdistinct hflagged hfound).mpr hd
    refine ⟨_, _, (List.take_append_drop _ key).symm, hkeys, fun name hname => ?_⟩
    obtain ⟨c, hc, hfind⟩ := exists_of_mem_left hfound name (List.mem_of_mem_drop hname)
    have hmem := hperm.mem_iff.mpr ((mem_found_iff hdistinct hflagged hfound).mp hc)
    rw [List.map_take, ← keys_found hfound, ← List.map_take, ← key_of_find? hfind]
    exact List.mem_map_of_mem hmem
  · rintro ⟨first, rest, rfl, hfirst, hrest⟩
    rw [nodup_take_found_iff hdistinct hflagged hfound]
    -- each flagged column goes by a name of the first part
    have hsub : (columns.filter (·.primaryKey)).map (nameKey ·.name) ⊆ first.map nameKey := by
      intro k hk
      obtain ⟨c, hc, rfl⟩ := List.mem_map.mp hk
      obtain ⟨hmem, ht⟩ := List.mem_filter.mp hc
      obtain ⟨name, hname, heq⟩ := (hflagged c hmem).mp ht
      rw [heq]
      rcases List.mem_append.mp hname with hname | hname
      · exact List.mem_map_of_mem hname
      · exact hrest name hname
    have hnodup : ((columns.filter (·.primaryKey)).map (nameKey ·.name)).Nodup :=
      hdistinct.sublist (List.filter_sublist.map _)
    have hle := (List.subperm_of_subset hnodup hsub).length_le
    rw [List.length_map, List.length_map] at hle
    rw [List.take_append_of_le_length hle, List.map_take]
    exact hfirst.sublist (List.take_sublist _ _)

end Found

theorem arrange_perm_iff (hdistinct : (columns.map (nameKey ·.name)).Nodup)
    (hflagged : Flagged key columns)
    (hall : ∀ name ∈ key, ∃ c ∈ columns, nameKey c.name = nameKey name) :
    (arrange columns key columns).Perm columns ↔ RepeatsLast key := by
  obtain ⟨found, hfound⟩ := exists_found hall
  have hin : ∀ c ∈ found, c.primaryKey = true :=
    fun c hc => (mem_of_found hflagged hfound hc).2
  have hlength := length_flagged_le hdistinct hflagged hfound
  rw [(samePlaces_arrange hfound hin).perm_iff, filter_arrange hfound hin hlength,
    take_found_perm_iff hdistinct hflagged hfound,
    nodup_take_found_iff_repeatsLast hdistinct hflagged hfound]

structure InKeyOrder (key : List String) (columns result : List Column) : Prop where
  perm : result.Perm columns
  plain : ∀ (i : Nat) c, columns[i]? = some c → c.primaryKey = false → result[i]? = some c
  flags : result.map (·.primaryKey) = columns.map (·.primaryKey)
  keys : (result.filter (·.primaryKey)).map (nameKey ·.name) = key.map nameKey

theorem arrange_inKeyOrder (hdistinct : (columns.map (nameKey ·.name)).Nodup)
    (hflagged : Flagged key columns) (hkey : (key.map nameKey).Nodup)
    (hall : ∀ name ∈ key, ∃ c ∈ columns, nameKey c.name = nameKey name) :
    InKeyOrder key columns (arrange columns key columns) := by
  obtain ⟨found, hfound⟩ := exists_found hall
  have hin : ∀ c ∈ found, c.primaryKey = true :=
    fun c hc => (mem_of_found hflagged hfound hc).2
  have hplaces : SamePlaces (arrange columns key columns) columns :=
    samePlaces_arrange hfound hin
  have hlength := length_flagged_le hdistinct hflagged hfound
  have hlength' : found.length ≤ (columns.filter (·.primaryKey)).length := by
    have hnodup : found.Nodup := by
      rw [← keys_found hfound] at hkey
      exact hkey.of_map _
    refine (List.subperm_of_subset hnodup fun c hc => ?_).length_le
    exact (mem_found_iff hdistinct hflagged hfound).mp hc
  constructor
  case perm => exact (arrange_perm_iff hdistinct hflagged hall).mpr (repeatsLast_of_nodup hkey)
  case plain => exact fun i c => hplaces.getElem?_plain
  case flags => exact hplaces.flags
  case keys =>
    rw [filter_arrange hfound hin hlength, List.take_of_length_le hlength', keys_found hfound]

def FirstMissing (columns : List Column) (key : List String) (missing : String) : Prop :=
  ∃ before after, key = before ++ missing :: after ∧
    (∀ name ∈ before, ∃ c ∈ columns, nameKey c.name = nameKey name) ∧
      ∀ c ∈ columns, nameKey c.name ≠ nameKey missing

theorem find?_missing_eq_some {missing : String} :
    key.find? (fun name => !columns.any (·.isNamed name)) = some missing ↔
      FirstMissing columns key missing := by
  rw [List.find?_eq_some_iff_append]
  simp only [FirstMissing, Bool.not_not, Bool.not_eq_true', List.any_eq_false, List.any_eq_true,
    isNamed_iff]
  constructor
  · rintro ⟨hmissing, before, after, hkey, hbefore⟩
    exact ⟨before, after, hkey, hbefore, hmissing⟩
  · rintro ⟨before, after, hkey, hbefore, hmissing⟩
    exact ⟨hmissing, before, after, hkey, hbefore⟩

theorem order_eq_error {e : SchemaError} :
    order table key columns = .error e ↔ ∃ missing, FirstMissing columns key missing ∧
      e = .missingKeyColumn table missing (columns.map (·.name)) := by
  simp only [← find?_missing_eq_some]
  unfold order
  cases key.find? fun name => !columns.any (·.isNamed name) with
  | none => simp
  | some missing => simp [eq_comm]

theorem names_mark (columns : List Column) (key : List String) :
    (mark columns key).map (nameKey ·.name) = columns.map (nameKey ·.name) := by
  have hkeys : ∀ columns : List Column,
      columns.map (nameKey ·.name) = (columns.map (·.name)).map nameKey :=
    fun columns => List.map_map.symm
  rw [hkeys, hkeys, name_mark]

theorem exists_named_mark {name : String} :
    (∃ c ∈ mark columns key, nameKey c.name = nameKey name) ↔
      ∃ c ∈ columns, nameKey c.name = nameKey name := by
  have hmem : ∀ columns : List Column, (∃ c ∈ columns, nameKey c.name = nameKey name) ↔
      nameKey name ∈ columns.map (nameKey ·.name) := fun columns => by simp
  rw [hmem, hmem, names_mark]

theorem firstMissing_mark {missing : String} :
    FirstMissing (mark columns key) key missing ↔ FirstMissing columns key missing := by
  have hnone : ∀ columns : List Column, (∀ c ∈ columns, nameKey c.name ≠ nameKey missing) ↔
      ¬∃ c ∈ columns, nameKey c.name = nameKey missing := fun columns => by simp
  simp only [FirstMissing, exists_named_mark, hnone]

theorem order_marked (table : String) (key : List String) (columns : List Column)
    (hplain : ∀ c ∈ columns, c.primaryKey = false)
    (hdistinct : (columns.map (nameKey ·.name)).Nodup) (hkey : (key.map nameKey).Nodup) :
    ((∃ e, order table key (mark columns key) = .error e) ↔
      ∃ name ∈ key, ∀ c ∈ columns, nameKey c.name ≠ nameKey name) ∧
    (∀ e, order table key (mark columns key) = .error e ↔
      ∃ missing, FirstMissing columns key missing ∧
        e = .missingKeyColumn table missing (columns.map (·.name))) ∧
    ((∀ name ∈ key, ∃ c ∈ columns, nameKey c.name = nameKey name) →
      ∃ result, order table key (mark columns key) = .ok result ∧
        InKeyOrder key (mark columns key) result) := by
  have herror : ∀ e, order table key (mark columns key) = .error e ↔
      ∃ missing, FirstMissing columns key missing ∧
        e = .missingKeyColumn table missing (columns.map (·.name)) := by
    intro e
    simp only [order_eq_error, firstMissing_mark, name_mark]
  refine ⟨⟨?_, ?_⟩, herror, ?_⟩
  · rintro ⟨e, he⟩
    obtain ⟨missing, ⟨before, after, rfl, -, hnone⟩, -⟩ := (herror e).mp he
    exact ⟨missing, by simp, hnone⟩
  · rintro ⟨name, hname, hnone⟩
    cases hr : order table key (mark columns key) with
    | error e => exact ⟨e, rfl⟩
    | ok result =>
        obtain ⟨c, hc, hn⟩ := exists_named_mark.mp ((order_eq_ok.mp hr).1 name hname)
        exact absurd hn (hnone c hc)
  · intro hall
    have hall' : ∀ name ∈ key, ∃ c ∈ mark columns key, nameKey c.name = nameKey name :=
      fun name hname => exists_named_mark.mpr (hall name hname)
    refine ⟨_, order_eq_ok.mpr ⟨hall', rfl⟩, ?_⟩
    rw [← names_mark columns key] at hdistinct
    exact arrange_inKeyOrder hdistinct (flagged_mark hplain) hkey hall'

theorem order_marked_composite :
    let columns : List Column := ["A", "X", "B", "c"].map fun name =>
      { name, dataType := .integer, width := 10, scale := 0 }
    let key := ["C", "a", "B"]
    (∀ c ∈ columns, c.primaryKey = false) ∧ (columns.map (nameKey ·.name)).Nodup ∧
      (key.map nameKey).Nodup ∧
      (∀ name ∈ key, ∃ c ∈ columns, nameKey c.name = nameKey name) ∧
      ∃ result, order "T" key (mark columns key) = .ok result ∧
        InKeyOrder key (mark columns key) result ∧ result.map (·.name) = ["c", "X", "A", "B"] := by
  intro columns key
  have hplain : ∀ c ∈ columns, c.primaryKey = false := by decide
  have hdistinct : (columns.map (nameKey ·.name)).Nodup := by decide +kernel
  have hkey : (key.map nameKey).Nodup := by decide +kernel
  have hall : ∀ name ∈ key, ∃ c ∈ columns, nameKey c.name = nameKey name := by decide +kernel
  obtain ⟨result, hresult, hordered⟩ :=
    (order_marked "T" key columns hplain hdistinct hkey).2.2 hall
  refine ⟨hplain, hdistinct, hkey, hall, result, hresult, hordered, ?_⟩
  have hnames : (order "T" key (mark columns key)).toOption.map (·.map (·.name)) =
      some ["c", "X", "A", "B"] := by decide +kernel
  simpa [hresult, Except.toOption] using hnames

end DatabaseSchema.PrimaryKey
