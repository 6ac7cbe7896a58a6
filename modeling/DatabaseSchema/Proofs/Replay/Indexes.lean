import DatabaseSchema.Proofs.Indexes.Grouping
import DatabaseSchema.Proofs.Replay.Keys

namespace DatabaseSchema

def indexRow (owner name : String) (unique : Bool) (column : String) (place : Nat) : Row :=
  ⟨[.text owner, .boolean !unique, .text name, .integer (Int64.ofNat (place + 1)), .text column]⟩

theorem indexRows_eq (owner name : String) (unique : Bool) (columns : List String) :
    Fixture.indexRows owner name unique columns =
      columns.zipIdx.map fun (column, place) => indexRow owner name unique column place := rfl

namespace Index

variable {p : Policy} {table owner name column : String} {unique : Bool} {place : Nat}
  {indexes : List Index}

theorem keptName?_indexRow (hk : p.isKeyIndex name = false) (hg : p.isIgnoredIndex name = false) :
    keptName? p (indexRow owner name unique column place) = some name :=
  keptName?_eq_some_iff.mpr ⟨Row.text?_of_text rfl, hk, hg⟩

theorem text_indexRow :
    (indexRow owner name unique column place).text IndexRow.column = .ok column :=
  Row.text_of_text rfl

theorem addRow_first (hr : p.indexName? = Row.indexName?) (hk : p.isKeyIndex name = false)
    (hg : p.isIgnoredIndex name = false) (hnew : indexes.any (·.name == name) = false) :
    (addRow p table indexes (.ok (indexRow owner name unique column place))).result =
      .ok (indexes ++ [⟨name, unique, [column]⟩]) := by
  have hunique : (indexRow owner name unique column place).boolean IndexRow.nonUnique =
      .ok !unique := Row.boolean_of_boolean rfl
  rw [addRow_kept hr (keptName?_indexRow hk hg), text_indexRow, hunique]
  simp only [Part.check, ok_bind, hnew, Bool.not_not]
  rfl

theorem addRow_next (hr : p.indexName? = Row.indexName?) (hk : p.isKeyIndex name = false)
    (hg : p.isIgnoredIndex name = false) (hold : indexes.any (·.name == name) = true) :
    (addRow p table indexes (.ok (indexRow owner name unique column place))).result =
      .ok (appendColumn indexes name column) := by
  rw [addRow_kept hr (keptName?_indexRow hk hg), text_indexRow]
  simp only [Part.check, ok_bind, hold, if_true]

theorem appendColumn_last {columns : List String} (hnew : ∀ i ∈ indexes, i.name ≠ name) :
    appendColumn (indexes ++ [⟨name, unique, columns⟩]) name column =
      indexes ++ [⟨name, unique, columns ++ [column]⟩] := by
  rw [appendColumn, List.map_append]
  congr 1
  · refine (List.map_congr_left fun i hi => ?_).trans (List.map_id indexes)
    simp [hnew i hi]
  · simp

theorem foldlM_addRow_rest (hr : p.indexName? = Row.indexName?) (hk : p.isKeyIndex name = false)
    (hg : p.isIgnoredIndex name = false) (hnew : ∀ i ∈ indexes, i.name ≠ name)
    (before columns : List String) (place : Nat) :
    ((columns.zipIdx place).map fun (column, place) =>
        (.ok (indexRow owner name unique column place) : Item)).foldlM
      (fun indexes item => (addRow p table indexes item).result)
      (indexes ++ [⟨name, unique, before⟩]) =
      .ok (indexes ++ [⟨name, unique, before ++ columns⟩]) := by
  induction columns generalizing before place with
  | nil => simp; rfl
  | cons column columns ih =>
      have hold : (indexes ++ [(⟨name, unique, before⟩ : Index)]).any (·.name == name) = true := by
        simp
      rw [List.zipIdx_cons, List.map_cons, List.foldlM_cons, addRow_next hr hk hg hold,
        appendColumn_last hnew, ok_bind, ih]
      simp

theorem foldlM_addRow_index (hr : p.indexName? = Row.indexName?) {i : Index} (hi : Listed p i)
    (hnew : ∀ j ∈ indexes, j.name ≠ i.name) :
    ((Fixture.indexRows owner i.name i.unique i.columnNames).map Except.ok).foldlM
      (fun indexes item => (addRow p table indexes item).result) indexes =
      .ok (indexes ++ [i]) := by
  obtain ⟨name, unique, columns⟩ := i
  obtain ⟨hk, hg, hne⟩ := hi
  obtain ⟨column, columns, rfl⟩ := List.exists_cons_of_ne_nil hne
  have hfirst : indexes.any (·.name == name) = false := by simpa using hnew
  rw [indexRows_eq, List.map_map, List.zipIdx_cons, List.map_cons, List.foldlM_cons]
  simp only [Function.comp_apply, addRow_first hr hk hg hfirst, ok_bind]
  exact foldlM_addRow_rest hr hk hg hnew [column] columns 1

theorem filter_index_rows (call : BuilderCall) (table : String) :
    (call.rows .indexes).filter (Fixture.isOfTable table IndexRow.table) =
      match call with
      | .index owner name unique columns =>
          if nameKey owner = nameKey table then Fixture.indexRows owner name unique columns else []
      | _ => [] := by
  cases call with
  | index owner name unique columns =>
      have hall : ∀ r ∈ Fixture.indexRows owner name unique columns,
          Fixture.isOfTable table IndexRow.table r = decide (nameKey owner = nameKey table) := by
        intro r hr
        obtain ⟨⟨column, place⟩, -, rfl⟩ := List.mem_map.mp hr
        have hof : Fixture.isOfTable table IndexRow.table
            (indexRow owner name unique column place) = sameName owner table :=
          Fixture.isOfTable_of_text rfl table
        show Fixture.isOfTable table IndexRow.table (indexRow owner name unique column place) = _
        rw [hof, Bool.eq_iff_iff, sameName_iff]
        simp
      rw [BuilderCall.rows, List.filter_congr hall]
      by_cases hk : nameKey owner = nameKey table <;> simp [hk]
  | _ => rfl

theorem foldlM_addRow_calls (hr : p.indexName? = Row.indexName?) (calls : List BuilderCall)
    (h : Grouped p (indexes ++ calls.filterMap (BuilderCall.index? (nameKey table)))) :
    (((calls.flatMap (BuilderCall.rows .indexes)).filter
        (Fixture.isOfTable table IndexRow.table)).map Except.ok).foldlM
      (fun indexes item => (addRow p table indexes item).result) indexes =
      .ok (indexes ++ calls.filterMap (BuilderCall.index? (nameKey table))) := by
  induction calls generalizing indexes with
  | nil => simp; rfl
  | cons call calls ih =>
      rw [List.flatMap_cons, List.filter_append, List.map_append, List.foldlM_append,
        filter_index_rows]
      cases call with
      | index owner name unique columns =>
          by_cases hk : nameKey owner = nameKey table
          · have hpick : (BuilderCall.index owner name unique columns).index? (nameKey table) =
                some ⟨name, unique, columns⟩ := if_pos hk
            rw [List.filterMap_cons_some hpick] at h ⊢
            have hi := h.listed _ (List.mem_append_right indexes List.mem_cons_self)
            have hnew : ∀ j ∈ indexes, j.name ≠ name := by
              have hdistinct := h.nodup
              rw [List.map_append, List.nodup_append] at hdistinct
              exact fun j hj => hdistinct.2.2 _ (List.mem_map_of_mem hj) _ List.mem_cons_self
            simp only [hk, if_true]
            rw [foldlM_addRow_index hr hi hnew, ok_bind, ih]
            · simp
            · simpa using h
          · have hpick : (BuilderCall.index owner name unique columns).index? (nameKey table) =
                none := if_neg hk
            rw [List.filterMap_cons_none hpick] at h ⊢
            simp only [hk, if_false]
            exact ih h
      | _ => exact ih h

theorem ofAnswer_calls (hr : p.indexName? = Row.indexName?) (calls : List BuilderCall)
    (h : Grouped p (calls.filterMap (BuilderCall.index? (nameKey table)))) :
    (ofAnswer p table (.ok (((calls.flatMap (BuilderCall.rows .indexes)).filter
        (Fixture.isOfTable table IndexRow.table)).map Except.ok))).result =
      .ok (calls.filterMap (BuilderCall.index? (nameKey table))) := by
  have hfold := foldlM_addRow_calls hr calls (by rwa [List.nil_append])
  rw [List.nil_append] at hfold
  unfold ofAnswer
  rw [Logged.result_bind, Logged.result_ofExcept, Subject.items, ok_bind]
  exact (result_ofItems p table _).trans hfold

end Index

end DatabaseSchema
