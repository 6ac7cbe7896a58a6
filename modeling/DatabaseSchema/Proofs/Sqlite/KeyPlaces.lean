import DatabaseSchema.Proofs.PrimaryKey.Order
import DatabaseSchema.Proofs.Replay.Keys
import DatabaseSchema.Proofs.Sqlite.ColumnRows

namespace DatabaseSchema.Sqlite

variable {p : Pragmas} {database table : String} {infos : List TableInfo} {i j : TableInfo}
  {entry columns : List Column} {c : Column}

def places (infos : List TableInfo) : List Int := (infos.filter (·.key ≠ 0)).map (·.key.toInt)

def Numbered (infos : List TableInfo) : Prop :=
  (places infos).Perm ((List.range (places infos).length).map fun (i : Nat) => (i : Int) + 1)

instance : DecidablePred Numbered := fun infos =>
  inferInstanceAs (Decidable ((places infos).Perm _))

-- What SQLite tells of the columns of a table. Tables of its own, which go by reserved names,
-- have no primary keys.
structure WellKeyed (table : String) (infos : List TableInfo) : Prop where
  distinct : (infos.map (nameKey ·.name)).Nodup
  numbered : Numbered infos
  reserved : isSystemName table = true → ∀ i ∈ infos, i.key = 0

def keyColumns (infos : List TableInfo) : List TableInfo := infos.filter (0 < ·.key)

theorem mem_keyColumns : i ∈ keyColumns infos ↔ i ∈ infos ∧ 0 < i.key := by
  rw [keyColumns, List.mem_filter, decide_eq_true_iff]

theorem Numbered.nodup (h : Numbered infos) : ((keyColumns infos).map (·.key)).Nodup := by
  have hplaces : (places infos).Nodup :=
    h.nodup_iff.mpr (List.nodup_range.map fun a b hab => by omega)
  have hnumbers : ((infos.filter (·.key ≠ 0)).map (·.key)).Nodup := by
    refine List.Nodup.of_map Int32.toInt ?_
    rw [List.map_map]
    exact hplaces
  refine hnumbers.sublist (List.Sublist.map _ ?_)
  refine List.monotone_filter_right _ fun i hi => ?_
  simp only [decide_eq_true_eq] at hi ⊢
  rintro heq
  exact absurd (heq ▸ hi) Int32.lt_irrefl

theorem pairwise_byKey (infos : List TableInfo) :
    (infos.mergeSort fun a b => a.key ≤ b.key).Pairwise fun a b => a.key ≤ b.key := by
  have htrans : ∀ a b c : TableInfo, decide (a.key ≤ b.key) = true →
      decide (b.key ≤ c.key) = true → decide (a.key ≤ c.key) = true := by
    intro a b c hab hbc
    simp only [decide_eq_true_eq] at hab hbc ⊢
    exact Int32.le_trans hab hbc
  have htotal : ∀ a b : TableInfo,
      (decide (a.key ≤ b.key) || decide (b.key ≤ a.key)) = true := by
    intro a b
    simpa using Int32.le_total a.key b.key
  exact (List.pairwise_mergeSort htrans htotal infos).imp of_decide_eq_true

def inKeyOrder (infos : List TableInfo) : List TableInfo :=
  (keyColumns infos).mergeSort fun a b => a.key ≤ b.key

def keyNames (infos : List TableInfo) : List String := (inKeyOrder infos).map (·.name)

theorem perm_inKeyOrder (infos : List TableInfo) : (inKeyOrder infos).Perm (keyColumns infos) :=
  List.mergeSort_perm _ _

theorem Numbered.ascending (h : Numbered infos) :
    (inKeyOrder infos).Pairwise fun a b => a.key < b.key := by
  have hdistinct : (inKeyOrder infos).Pairwise fun a b => a.key ≠ b.key :=
    List.pairwise_map.mp (((perm_inKeyOrder infos).map TableInfo.key).nodup_iff.mpr h.nodup)
  exact (pairwise_byKey (keyColumns infos)).imp₂ (fun _ _ => Int32.lt_of_le_of_ne) hdistinct

theorem mem_keyNames {name : String} :
    name ∈ keyNames infos ↔ ∃ i ∈ infos, 0 < i.key ∧ i.name = name := by
  simp only [keyNames, List.mem_map, (perm_inKeyOrder infos).mem_iff, mem_keyColumns, and_assoc]

theorem WellKeyed.nodup_keyNames (h : WellKeyed table infos) :
    ((keyNames infos).map nameKey).Nodup := by
  have hperm : ((keyNames infos).map nameKey).Perm ((keyColumns infos).map (nameKey ·.name)) := by
    rw [keyNames, List.map_map]
    exact (perm_inKeyOrder infos).map _
  exact hperm.nodup_iff.mpr (h.distinct.sublist (List.filter_sublist.map _))

theorem primaryKey_ofAnswer (hinfo : p.tableInfo database table = .ok infos) :
    (PrimaryKey.ofAnswer table (p.keyItems database table)).result = .ok (keyNames infos) := by
  have hitems : p.keyItems database table =
      .ok ((keyColumns infos).map fun i => .ok (keyRow table i)) := by
    rw [Pragmas.keyItems, hinfo]
    rfl
  have hentries : ((keyColumns infos).map fun i => Except.ok (keyRow table i)).mapM
      (PrimaryKey.entry table) = .ok ((keyColumns infos).map fun i => (i.key, i.name)) := by
    rw [mapM_eq_ok_iff, List.forall₂_map_left_iff, List.forall₂_map_right_iff]
    exact List.forall₂_same.mpr fun i _ => PrimaryKey.entry_keyRow table table i.name i.key
  have hsorted : PrimaryKey.inSequence ((keyColumns infos).map fun i => (i.key, i.name)) =
      keyNames infos := by
    have hsort : (inKeyOrder infos).map (fun i => (i.key, i.name)) =
        ((keyColumns infos).map fun i => (i.key, i.name)).mergeSort fun a b => a.1 ≤ b.1 :=
      List.map_mergeSort fun _ _ _ _ => rfl
    rw [PrimaryKey.inSequence, ← hsort, List.map_map]
    rfl
  unfold PrimaryKey.ofAnswer
  simp only [Logged.result_bind, Logged.result_ofExcept, Logged.result_emit, hitems,
    Subject.items, ok_bind, hentries, hsorted]
  rfl

structure Presents (infos : List TableInfo) (entry : List Column) : Prop where
  distinct : (entry.map (nameKey ·.name)).Nodup
  plain : ∀ c ∈ entry, c.primaryKey = false
  present : ∀ i ∈ infos, ∃ c ∈ entry, c.name = i.name ∧ c.nullable = (!i.notNull && i.key == 0)
  autonumbered : ∀ c ∈ entry, c.autonumbered = true →
    ∃ i ∈ infos, i.name = c.name ∧ IsIntegerKey infos i

-- The key has the key columns in order, and the columns of the table agree with it: they are
-- flagged in the same order, are required if they are flagged, and at most one of them, which is
-- an integer and all of the key, numbers itself.
structure KeyTold (infos : List TableInfo) (key : List String) (columns : List Column) : Prop where
  inOrder : ∃ ordered : List TableInfo, ordered.Perm (infos.filter (0 < ·.key)) ∧
    ordered.Pairwise (fun a b => a.key < b.key) ∧ key = ordered.map (·.name)
  flagged : (columns.filter (·.primaryKey)).map (·.name) = key
  required : ∀ c ∈ columns, c.primaryKey = true → c.nullable = false
  autonumbered : ∀ c ∈ columns, c.autonumbered = true → key = [c.name] ∧
    ∃ i ∈ infos, i.name = c.name ∧ Text.sameAscii i.declaredType "INTEGER" = true
  atMostOne : columns.countP (·.autonumbered) ≤ 1

theorem IsIntegerKey.keyNames_eq (h : IsIntegerKey infos i) (hi : i ∈ infos) :
    keyNames infos = [i.name] := by
  obtain ⟨hcount, hkey, -⟩ := h
  obtain ⟨only, honly⟩ := List.length_eq_one_iff.mp (List.countP_eq_length_filter.symm.trans hcount)
  have hmem : i ∈ keyColumns infos := mem_keyColumns.mpr ⟨hi, hkey ▸ by decide⟩
  rw [keyColumns, honly, List.mem_singleton] at hmem
  have hperm := perm_inKeyOrder infos
  rw [keyColumns, honly, ← hmem] at hperm
  rw [keyNames, List.perm_singleton.mp hperm, List.map_singleton]

theorem names_eq_of_keys {key : List String}
    (hkeys : columns.map (nameKey ·.name) = key.map nameKey)
    (hspelt : ∀ c ∈ columns, ∀ name ∈ key, nameKey c.name = nameKey name → c.name = name) :
    columns.map (·.name) = key := by
  induction columns generalizing key with
  | nil => exact (List.map_eq_nil_iff.mp hkeys.symm).symm
  | cons c columns ih =>
      cases key with
      | nil => cases hkeys
      | cons name key =>
          obtain ⟨hc, hrest⟩ := List.cons.inj hkeys
          rw [List.map_cons, hspelt c List.mem_cons_self name List.mem_cons_self hc,
            ih hrest fun d hd other hother =>
              hspelt d (List.mem_cons_of_mem c hd) other (List.mem_cons_of_mem name hother)]

theorem atMostOne_of_keys {test : Column → Bool} (name : String)
    (hdistinct : (columns.map (nameKey ·.name)).Nodup)
    (hname : ∀ c ∈ columns, test c = true → c.name = name) : columns.countP test ≤ 1 := by
  have hnodup := hdistinct.sublist ((List.filter_sublist (p := test)).map _)
  rw [List.countP_eq_length_filter]
  match hfilter : columns.filter test, hnodup with
  | [], _ => exact Nat.zero_le 1
  | [_], _ => exact Nat.le_refl 1
  | c :: d :: rest, hnodup =>
      have hnames : ∀ e ∈ c :: d :: rest, e.name = name := by
        intro e he
        rw [← hfilter] at he
        obtain ⟨he, htest⟩ := List.mem_filter.mp he
        exact hname e he htest
      simp [hnames c (by simp), hnames d (by simp)] at hnodup

theorem mem_mark {key : List String} (hc : c ∈ PrimaryKey.mark entry key) :
    ∃ d ∈ entry, c.name = d.name ∧ c.nullable = d.nullable ∧ c.autonumbered = d.autonumbered := by
  obtain ⟨d, hd, rfl⟩ := List.mem_map.mp hc
  refine ⟨d, hd, ?_⟩
  split
  next => exact ⟨rfl, rfl, rfl⟩
  next => exact ⟨rfl, rfl, rfl⟩

section Marked

variable (h : Presents infos entry)

include h

theorem Presents.found (hi : i ∈ infos) (hc : c ∈ PrimaryKey.mark entry (keyNames infos))
    (hname : nameKey c.name = nameKey i.name) :
    c.name = i.name ∧ c.nullable = (!i.notNull && i.key == 0) := by
  obtain ⟨d, hd, hdname, hdnullable, -⟩ := mem_mark hc
  obtain ⟨e, he, hename, henullable⟩ := h.present i hi
  obtain rfl : d = e := by
    refine List.inj_on_of_nodup_map h.distinct hd he ?_
    rw [← hdname, hname, hename]
  exact ⟨hdname.trans hename, hdnullable.trans henullable⟩

theorem Presents.keyTold (hk : WellKeyed table infos) :
    ∃ columns, PrimaryKey.order table (keyNames infos)
        (PrimaryKey.mark entry (keyNames infos)) = .ok columns ∧
      KeyTold infos (keyNames infos) columns := by
  have hall : ∀ name ∈ keyNames infos, ∃ c ∈ entry, nameKey c.name = nameKey name := by
    intro name hname
    obtain ⟨i, hi, -, rfl⟩ := mem_keyNames.mp hname
    obtain ⟨c, hc, hcname, -⟩ := h.present i hi
    exact ⟨c, hc, by rw [hcname]⟩
  obtain ⟨columns, hcolumns, horder⟩ := (PrimaryKey.order_marked table (keyNames infos) entry
    h.plain h.distinct hk.nodup_keyNames).2.2 hall
  have hmarked : ∀ c ∈ columns, c ∈ PrimaryKey.mark entry (keyNames infos) :=
    fun c hc => horder.perm.subset hc
  have hauto : ∀ c ∈ columns, c.autonumbered = true → keyNames infos = [c.name] ∧
      ∃ i ∈ infos, i.name = c.name ∧ Text.sameAscii i.declaredType "INTEGER" = true := by
    intro c hc hauto
    obtain ⟨d, hd, hname, -, hd'⟩ := mem_mark (hmarked c hc)
    obtain ⟨i, hi, hiname, hkey⟩ := h.autonumbered d hd (hd'.symm.trans hauto)
    rw [hname, ← hiname]
    exact ⟨hkey.keyNames_eq hi, i, hi, rfl, hkey.2.2⟩
  refine ⟨columns, hcolumns, ?_⟩
  constructor
  case inOrder => exact ⟨_, perm_inKeyOrder infos, hk.numbered.ascending, rfl⟩
  case flagged =>
    refine names_eq_of_keys horder.keys fun c hc name hname heq => ?_
    obtain ⟨i, hi, -, rfl⟩ := mem_keyNames.mp hname
    exact (h.found hi (hmarked c (List.mem_filter.mp hc).1) heq).1
  case required =>
    intro c hc hflag
    obtain ⟨name, hname, heq⟩ := (PrimaryKey.flagged_mark h.plain c (hmarked c hc)).mp hflag
    obtain ⟨i, hi, hpositive, rfl⟩ := mem_keyNames.mp hname
    have hkey : i.key ≠ 0 := (Int32.lt_iff_le_and_ne.mp hpositive).2.symm
    rw [(h.found hi (hmarked c hc) heq).2, beq_eq_false_iff_ne.mpr hkey, Bool.and_false]
  case autonumbered => exact hauto
  case atMostOne =>
    have hdistinct : (columns.map (nameKey ·.name)).Nodup := by
      rw [(horder.perm.map _).nodup_iff, PrimaryKey.names_mark]
      exact h.distinct
    refine atMostOne_of_keys ((keyNames infos).headD "") hdistinct fun c hc hc' => ?_
    rw [(hauto c hc hc').1]
    rfl

end Marked

end DatabaseSchema.Sqlite
