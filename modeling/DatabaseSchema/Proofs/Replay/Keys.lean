import DatabaseSchema.Proofs.PrimaryKey
import DatabaseSchema.Proofs.Replay.Rows
import Mathlib.Algebra.Group.Nat.Defs

namespace DatabaseSchema

theorem Fixture.isOfTable_of_text {r : Row} {position : Nat} {owner : String}
    (h : r.cells[position]? = some (.text owner)) (table : String) :
    isOfTable table position r = sameName owner table := by
  unfold isOfTable
  rw [Row.text?_of_text h]

namespace PrimaryKey

variable {key : List String} {all columns : List Column} {table : String}

theorem entry_keyRow (table owner name : String) (sequence : Int32) :
    entry table (.ok (keyRow owner name sequence)) = .ok (sequence, name) := by
  have hn : (keyRow owner name sequence).text KeyRow.column = .ok name := Row.text_of_text rfl
  have hs : (keyRow owner name sequence).int KeyRow.sequence = .ok sequence := Row.int_of_int32 rfl
  unfold entry
  simp only [Subject.row, Part.check, hn, hs, ok_bind]
  rfl

theorem mapM_entry_rows (calls : List BuilderCall) (table : String) :
    (((calls.flatMap (BuilderCall.rows .primaryKeys)).filter
        (Fixture.isOfTable table KeyRow.table)).map .ok).mapM (entry table) =
      .ok (calls.filterMap (BuilderCall.keyEntry? (nameKey table))) := by
  induction calls with
  | nil => rfl
  | cons call calls ih =>
      rw [List.flatMap_cons, List.filter_append, List.map_append, List.mapM_append, ih,
        List.filterMap_cons]
      cases call with
      | primaryKey owner name sequence =>
          have hof : Fixture.isOfTable table KeyRow.table (keyRow owner name sequence) =
              sameName owner table := Fixture.isOfTable_of_text rfl table
          by_cases hk : nameKey owner = nameKey table
          · simp [BuilderCall.rows, BuilderCall.keyEntry?, hof, sameName_iff, hk, entry_keyRow]
          · simp [BuilderCall.rows, BuilderCall.keyEntry?, hof, sameName_iff, hk]
      | _ => simp [BuilderCall.rows, BuilderCall.keyEntry?]

def numbered (key : List String) : List (Int32 × String) :=
  (key.zipIdx 1).map fun (name, place) => (Int32.ofNat place, name)

theorem getElem_numbered {i : Nat} (hi : i < (numbered key).length) :
    (numbered key)[i] = (Int32.ofNat (1 + i), key.get ⟨i, by simpa [numbered] using hi⟩) := by
  simp [numbered]

theorem toInt_place {i : Nat} (hlt : key.length < 2 ^ 31) (hi : i < (numbered key).length) :
    (Int32.ofNat (1 + i)).toInt = 1 + i := by
  have hlen : i < key.length := by simpa [numbered] using hi
  rw [Int32.toInt_ofNat_of_lt (by omega)]
  omega

theorem pairwise_numbered (hlt : key.length < 2 ^ 31) :
    (numbered key).Pairwise fun a b => a.1 < b.1 := by
  rw [List.pairwise_iff_getElem]
  intro i j hi hj hij
  rw [getElem_numbered hi, getElem_numbered hj, Int32.lt_iff_toInt_lt, toInt_place hlt hi,
    toInt_place hlt hj]
  omega

theorem inSequence_of_perm (hlt : key.length < 2 ^ 31) {entries : List (Int32 × String)}
    (h : entries.Perm (numbered key)) : inSequence entries = key := by
  have hdistinct : ((numbered key).map (·.1)).Nodup :=
    List.pairwise_map.mpr ((pairwise_numbered hlt).imp Int32.ne_of_lt)
  have hsorted : StablySorted entries (numbered key) := {
    perm := h.symm
    ascending := (pairwise_numbered hlt).imp Int32.le_of_lt
    stable := fun place => atPlace_eq_of_perm h.symm hdistinct }
  rw [hsorted.inSequence_eq, numbered, List.map_map]
  exact List.zipIdx_map_fst 1 key

theorem arrange_self
    (hfind : ∀ c ∈ columns, ∀ name, nameKey c.name = nameKey name →
      all.find? (·.isNamed name) = some c)
    (hflags : (columns.filter (·.primaryKey)).map (nameKey ·.name) = key.map nameKey) :
    arrange all key columns = columns := by
  induction columns generalizing key with
  | nil => cases key <;> rfl
  | cons d columns ih =>
      have hrest : ∀ c ∈ columns, ∀ name, nameKey c.name = nameKey name →
          all.find? (·.isNamed name) = some c :=
        fun c hc => hfind c (List.mem_cons_of_mem d hc)
      cases key with
      | nil => rfl
      | cons name key =>
          rw [arrange]
          cases hd : d.primaryKey with
          | true =>
              rw [List.filter_cons_of_pos hd, List.map_cons, List.map_cons,
                List.cons.injEq] at hflags
              simp [hfind d List.mem_cons_self name hflags.1, ih hrest hflags.2]
          | false =>
              rw [List.filter_cons_of_neg (by simp [hd])] at hflags
              simp [ih hrest hflags]

theorem flagged_of_filter (hdistinct : (columns.map (nameKey ·.name)).Nodup)
    (hflags : (columns.filter (·.primaryKey)).map (nameKey ·.name) = key.map nameKey) :
    Flagged key columns := by
  intro c hc
  constructor
  · intro ht
    have hmem : nameKey c.name ∈ key.map nameKey := by
      rw [← hflags]
      exact List.mem_map_of_mem (List.mem_filter.mpr ⟨hc, ht⟩)
    obtain ⟨name, hname, heq⟩ := List.mem_map.mp hmem
    exact ⟨name, hname, heq.symm⟩
  · rintro ⟨name, hname, heq⟩
    have hmem : nameKey name ∈ (columns.filter (·.primaryKey)).map (nameKey ·.name) := by
      rw [hflags]
      exact List.mem_map_of_mem hname
    obtain ⟨d, hd, hdn⟩ := List.mem_map.mp hmem
    obtain ⟨hd, ht⟩ := List.mem_filter.mp hd
    rwa [List.inj_on_of_nodup_map hdistinct hc hd (heq.trans hdn.symm)]

theorem mark_unflagged (h : Flagged key columns) :
    mark (columns.map ({ · with primaryKey := false })) key = columns := by
  rw [mark, List.map_map]
  refine (List.map_congr_left fun c hc => ?_).trans (List.map_id columns)
  have hany : key.any c.isNamed = true ↔ c.primaryKey = true := by
    rw [h c hc]
    simp [List.any_eq_true, isNamed_iff]
  simp only [Function.comp_apply, id_eq]
  split
  next ht =>
    have ht' : key.any c.isNamed = true := ht
    rw [← hany.mp ht']
  next hf =>
    have hf' : c.primaryKey = false := by
      rw [← Bool.not_eq_true, ← hany]
      exact hf
    rw [← hf']

theorem order_mark_unflagged (table : String) (hdistinct : (columns.map (nameKey ·.name)).Nodup)
    (hflags : (columns.filter (·.primaryKey)).map (nameKey ·.name) = key.map nameKey) :
    order table key (mark (columns.map ({ · with primaryKey := false })) key) = .ok columns := by
  have hflagged := flagged_of_filter hdistinct hflags
  rw [mark_unflagged hflagged, order_eq_ok]
  refine ⟨fun name hname => ?_, ?_⟩
  · have hmem : nameKey name ∈ (columns.filter (·.primaryKey)).map (nameKey ·.name) := by
      rw [hflags]
      exact List.mem_map_of_mem hname
    obtain ⟨c, hc, hn⟩ := List.mem_map.mp hmem
    exact ⟨c, (List.mem_filter.mp hc).1, hn⟩
  · exact (arrange_self (fun c hc name hn => find?_isNamed hdistinct hc hn) hflags).symm

end PrimaryKey

end DatabaseSchema
