import DatabaseSchema.Proofs.Columns
import DatabaseSchema.Proofs.Indexes
import DatabaseSchema.Proofs.Listwise
import DatabaseSchema.Proofs.RowGroups

namespace DatabaseSchema

theorem Policy.Known.indexName?_eq {p : Policy} (h : p.Known) : p.indexName? = Row.indexName? := by
  cases h <;> rfl

namespace Index

variable {p : Policy} {table name column : String} {items before : List Item} {item : Item}
  {r : Row} {indexes indexes' : List Index} {e : SchemaError}

def keptName? (p : Policy) (r : Row) : Option String :=
  match r.indexName? with
  | .ok (some name) => if p.isKeyIndex name || p.isIgnoredIndex name then none else some name
  | _ => none

inductive Refused (p : Policy) (table : String) : Refusal Item SchemaError where
  | failed {before : List Item} (message : String) :
      Refused p table before (.error message) (.query (.indexes table) (.source message))
  | name {before : List Item} {r : Row} {e : CellError} :
      r.indexName? = .error e → Refused p table before (.ok r) (.read (.table table) e)
  | column {before : List Item} {r : Row} {name : String} {e : CellError} :
      keptName? p r = some name → r.text IndexRow.column = .error e →
      Refused p table before (.ok r) (.read (.index name table) e)
  | unique {before : List Item} {r : Row} {name column : String} {e : CellError} :
      keptName? p r = some name → r.text IndexRow.column = .ok column →
      rowsUnder (keptName? p) name before = [] → r.boolean IndexRow.nonUnique = .error e →
      Refused p table before (.ok r) (.read (.index name table) e)

structure Readable (p : Policy) (items : List Item) : Prop where
  rows : ∀ item ∈ items, ∃ r, item = .ok r
  names : ∀ r, .ok r ∈ items → ∃ name?, r.indexName? = .ok name?
  columns : ∀ r name, .ok r ∈ items → keptName? p r = some name →
    ∃ column, r.text IndexRow.column = .ok column
  unique : ∀ name, ∀ r ∈ (rowsUnder (keptName? p) name items).head?,
    ∃ nonUnique, r.boolean IndexRow.nonUnique = .ok nonUnique

structure Told (p : Policy) (items : List Item) (indexes : List Index) : Prop where
  names : indexes.map (·.name) = (keysOf (keptName? p) items).eraseDups
  columns : ∀ i ∈ indexes,
    (rowsUnder (keptName? p) i.name items).map (·.text IndexRow.column) = i.columnNames.map .ok
  unique : ∀ i ∈ indexes,
    (rowsUnder (keptName? p) i.name items).head?.map (·.boolean IndexRow.nonUnique) =
      some (.ok !i.unique)

theorem keptName?_eq_some_iff :
    keptName? p r = some name ↔
      r.indexName? = .ok (some name) ∧ p.isKeyIndex name = false ∧
        p.isIgnoredIndex name = false := by
  unfold keptName?
  constructor
  · intro h
    split at h
    next other hother =>
      obtain ⟨hkept, hname⟩ := Option.ite_none_left_eq_some.mp h
      cases hname
      exact ⟨hother, by simpa using hkept⟩
    next => cases h
  · rintro ⟨hname, hkey, hignored⟩
    simp [hname, hkey, hignored]

theorem accepts_refused_iff : (Refused p table).Accepts items ↔ Readable p items := by
  constructor
  · intro h
    constructor
    case rows =>
      intro item hitem
      obtain ⟨before, after, hitems⟩ := List.append_of_mem hitem
      cases item with
      | ok r => exact ⟨r, rfl⟩
      | error message => exact absurd (.failed message) (h before _ after _ hitems)
    case names =>
      intro r hr
      obtain ⟨before, after, hitems⟩ := List.append_of_mem hr
      cases hname : r.indexName? with
      | ok name? => exact ⟨name?, rfl⟩
      | error e => exact absurd (.name hname) (h before _ after _ hitems)
    case columns =>
      intro r name hr hkept
      obtain ⟨before, after, hitems⟩ := List.append_of_mem hr
      cases hcolumn : r.text IndexRow.column with
      | ok column => exact ⟨column, rfl⟩
      | error e => exact absurd (.column hkept hcolumn) (h before _ after _ hitems)
    case unique =>
      intro name r hr
      obtain ⟨before, after, hitems, hkept, hfirst⟩ := head?_rowsUnder.mp hr
      cases hunique : r.boolean IndexRow.nonUnique with
      | ok nonUnique => exact ⟨nonUnique, rfl⟩
      | error e =>
          cases hcolumn : r.text IndexRow.column with
          | ok column =>
              exact absurd (.unique hkept hcolumn hfirst hunique) (h before _ after _ hitems)
          | error e => exact absurd (.column hkept hcolumn) (h before _ after _ hitems)
  · rintro h before item after e rfl hrefused
    cases hrefused with
    | failed message =>
        obtain ⟨r, hr⟩ := h.rows (.error message) (by simp)
        cases hr
    | @name _ r e he =>
        obtain ⟨name?, hname⟩ := h.names r (by simp)
        cases he.symm.trans hname
    | @column _ r name e hkept he =>
        obtain ⟨column, hcolumn⟩ := h.columns r name (by simp) hkept
        cases he.symm.trans hcolumn
    | @unique _ r name column e hkept _ hfirst he =>
        obtain ⟨nonUnique, hunique⟩ := h.unique name r
          (head?_rowsUnder.mpr ⟨before, after, rfl, hkept, hfirst⟩)
        cases he.symm.trans hunique

theorem addRow_failed (message : String) :
    (addRow p table indexes (.error message)).result =
      .error (.query (.indexes table) (.source message)) :=
  rfl

theorem addRow_unnamed (hp : p.indexName? = Row.indexName?) {e : CellError}
    (hname : r.indexName? = .error e) :
    (addRow p table indexes (.ok r)).result = .error (.read (.table table) e) := by
  unfold addRow
  simp only [Logged.result_bind, Logged.result_ofExcept, Subject.row, Part.check, ok_bind, hp,
    hname, error_bind]

theorem addRow_skipped (hp : p.indexName? = Row.indexName?) {name? : Option String}
    (hname : r.indexName? = .ok name?) (h : keptName? p r = none) :
    (addRow p table indexes (.ok r)).result = .ok indexes := by
  unfold addRow
  simp only [Logged.result_bind, Logged.result_ofExcept, Subject.row, Part.check, ok_bind, hp,
    hname]
  cases name? with
  | none => simp
  | some name =>
      cases hkey : p.isKeyIndex name with
      | true => simp [hkey]
      | false =>
          have hignored : p.isIgnoredIndex name = true := by simpa [keptName?, hname, hkey] using h
          simp [hkey, hignored]

theorem addRow_kept (hp : p.indexName? = Row.indexName?) (h : keptName? p r = some name) :
    (addRow p table indexes (.ok r)).result =
      (Part.index name table).check (r.text IndexRow.column) >>= fun column =>
        if indexes.any (·.name == name) then .ok (appendColumn indexes name column)
        else
          (Part.index name table).check (r.boolean IndexRow.nonUnique) >>= fun nonUnique =>
            .ok (indexes ++ [⟨name, !nonUnique, [column]⟩]) := by
  obtain ⟨hname, hkey, hignored⟩ := keptName?_eq_some_iff.mp h
  unfold addRow
  simp only [Logged.result_bind, Logged.result_ofExcept, Subject.row, Part.check, ok_bind, hp,
    hname, hkey, hignored, if_false, Bool.false_eq_true]
  refine congrArg _ (funext fun column => ?_)
  split <;> simp

theorem Told.any_iff (h : Told p before indexes) :
    indexes.any (·.name == name) = true ↔ rowsUnder (keptName? p) name before ≠ [] := by
  have hmem : name ∈ indexes.map (·.name) ↔ name ∈ keysOf (keptName? p) before := by
    rw [h.names, List.mem_eraseDups]
  rw [ne_eq, rowsUnder_eq_nil_iff, not_not, ← hmem, List.any_eq_true, List.mem_map]
  simp only [beq_iff_eq]

theorem told_nil (p : Policy) : Told p [] [] where
  names := rfl
  columns := by simp
  unique := by simp

theorem Told.skip (h : Told p before indexes) (hr : keptName? p r = none) :
    Told p (before ++ [.ok r]) indexes := by
  have hrows : ∀ name, rowsUnder (keptName? p) name (before ++ [.ok r]) =
      rowsUnder (keptName? p) name before := by
    intro name
    rw [rowsUnder_append, rowsUnder_other (by simp [hr]), List.append_nil]
  constructor
  case names => rw [keysOf_other before hr, h.names]
  case columns =>
    intro i hi
    rw [hrows]
    exact h.columns i hi
  case unique =>
    intro i hi
    rw [hrows]
    exact h.unique i hi

theorem Told.join (h : Told p before indexes) (hkept : keptName? p r = some name)
    (hcolumn : r.text IndexRow.column = .ok column)
    (hold : rowsUnder (keptName? p) name before ≠ []) :
    Told p (before ++ [.ok r]) (appendColumn indexes name column) := by
  constructor
  case names =>
    have hmem : name ∈ keysOf (keptName? p) before := by
      simpa only [ne_eq, rowsUnder_eq_nil_iff, not_not] using hold
    rw [name_appendColumn, h.names, keysOf_row before hkept, eraseDups_concat, if_pos hmem]
  case columns =>
    intro i hi
    obtain ⟨j, hj, rfl⟩ := List.mem_map.mp hi
    by_cases hname : j.name = name
    · simp [hname, rowsUnder_append, rowsUnder_row hkept, hcolumn, ← h.columns j hj]
    · have hother : keptName? p r ≠ some j.name := by simp [hkept, Ne.symm hname]
      simp [hname, rowsUnder_append, rowsUnder_other hother, h.columns j hj]
  case unique =>
    intro i hi
    obtain ⟨j, hj, rfl⟩ := List.mem_map.mp hi
    have hj' := h.unique j hj
    obtain ⟨first, hfirst, hunique⟩ := Option.map_eq_some_iff.mp hj'
    by_cases hname : j.name = name
    · rw [hname] at hfirst
      simpa [hname, rowsUnder_append, hfirst] using hunique
    · simpa [hname, rowsUnder_append, hfirst] using hunique

theorem Told.begin (h : Told p before indexes) (hkept : keptName? p r = some name)
    (hcolumn : r.text IndexRow.column = .ok column) {nonUnique : Bool}
    (hunique : r.boolean IndexRow.nonUnique = .ok nonUnique)
    (hnew : rowsUnder (keptName? p) name before = []) :
    Told p (before ++ [.ok r]) (indexes ++ [⟨name, !nonUnique, [column]⟩]) := by
  have hfresh : name ∉ keysOf (keptName? p) before := rowsUnder_eq_nil_iff.mp hnew
  have hother : ∀ i ∈ indexes, keptName? p r ≠ some i.name := by
    intro i hi hname
    obtain rfl : name = i.name := Option.some.inj (hkept.symm.trans hname)
    refine hfresh (List.mem_eraseDups.mp ?_)
    rw [← h.names]
    exact List.mem_map_of_mem hi
  have hrows : rowsUnder (keptName? p) name (before ++ [.ok r]) = [r] := by
    rw [rowsUnder_append, hnew, rowsUnder_row hkept, List.nil_append]
  constructor
  case names =>
    rw [List.map_append, h.names, keysOf_row before hkept, eraseDups_concat, if_neg hfresh]
    rfl
  case columns =>
    intro i hi
    rcases List.mem_append.mp hi with hi | hi
    · rw [rowsUnder_append, rowsUnder_other (hother i hi), List.append_nil]
      exact h.columns i hi
    · obtain rfl := List.mem_singleton.mp hi
      simp [hrows, hcolumn]
  case unique =>
    intro i hi
    rcases List.mem_append.mp hi with hi | hi
    · rw [rowsUnder_append, rowsUnder_other (hother i hi), List.append_nil]
      exact h.unique i hi
    · obtain rfl := List.mem_singleton.mp hi
      simp [hrows, hunique]

theorem addRow_outcome (hp : p.indexName? = Row.indexName?) (h : Told p before indexes) :
    (∃ indexes', (addRow p table indexes item).result = .ok indexes' ∧
        Told p (before ++ [item]) indexes') ∨
      ∃ e, (addRow p table indexes item).result = .error e ∧ Refused p table before item e := by
  cases item with
  | error message => exact .inr ⟨_, addRow_failed message, .failed message⟩
  | ok r =>
      cases hname : r.indexName? with
      | error e => exact .inr ⟨_, addRow_unnamed hp hname, .name hname⟩
      | ok name? =>
          cases hkept : keptName? p r with
          | none => exact .inl ⟨_, addRow_skipped hp hname hkept, h.skip hkept⟩
          | some name =>
              rw [addRow_kept hp hkept]
              cases hcolumn : r.text IndexRow.column with
              | error e => exact .inr ⟨_, rfl, .column hkept hcolumn⟩
              | ok column =>
                  simp only [Part.check, ok_bind]
                  by_cases hnew : rowsUnder (keptName? p) name before = []
                  · rw [if_neg (fun hany => h.any_iff.mp hany hnew)]
                    cases hunique : r.boolean IndexRow.nonUnique with
                    | error e => exact .inr ⟨_, rfl, .unique hkept hcolumn hnew hunique⟩
                    | ok nonUnique => exact .inl ⟨_, rfl, h.begin hkept hcolumn hunique hnew⟩
                  · rw [if_pos (h.any_iff.mpr hnew)]
                    exact .inl ⟨_, rfl, h.join hkept hcolumn hnew⟩

theorem addRow_refused (hp : p.indexName? = Row.indexName?) (h : Told p before indexes)
    (hr : Refused p table before item e) : (addRow p table indexes item).result = .error e := by
  cases hr with
  | failed message => exact addRow_failed message
  | name hname => exact addRow_unnamed hp hname
  | column hkept hcolumn =>
      rw [addRow_kept hp hkept, hcolumn]
      rfl
  | unique hkept hcolumn hnew hunique =>
      have hfirst : ¬indexes.any (·.name == _) = true := fun hany => h.any_iff.mp hany hnew
      rw [addRow_kept hp hkept, hcolumn, hunique]
      simp only [Part.check, ok_bind]
      rw [if_neg hfirst]
      rfl

theorem addRow_governed (hp : p.indexName? = Row.indexName?) (table : String) :
    (Refused p table).Governs (fun indexes item => (addRow p table indexes item).result)
      (Told p) where
  outcome h := addRow_outcome hp h
  refused h := addRow_refused hp h

theorem result_ofItems (p : Policy) (table : String) (items : List Item) :
    (ofItems p table items).result =
      items.foldlM (fun indexes item => (addRow p table indexes item).result) [] := by
  simp only [ofItems, Logged.result_bind, Logged.result_emitAll, Logged.result_foldlM]
  cases items.foldlM (fun indexes item => (addRow p table indexes item).result) [] <;> rfl

theorem Told.length_eq (h : Told p items indexes) :
    (indexes.map (·.columnNames.length)).sum = (keysOf (keptName? p) items).length := by
  have hlength : ∀ i ∈ indexes,
      i.columnNames.length = (keysOf (keptName? p) items).count i.name := by
    intro i hi
    rw [← length_rowsUnder]
    simpa using congrArg List.length (h.columns i hi).symm
  rw [List.map_congr_left hlength, ← sum_count_eraseDups, ← h.names, List.map_map]
  rfl

theorem ofItems_told (hp : p.Known) (table : String) (items : List Item) :
    let result := (ofItems p table items).result
    ((∃ indexes, result = .ok indexes) ↔ Readable p items) ∧
      (∀ indexes, result = .ok indexes → Told p items indexes ∧
        (indexes.map (·.columnNames.length)).sum = (keysOf (keptName? p) items).length) ∧
      ∀ e, result = .error e ↔ ∃ before item after, items = before ++ item :: after ∧
        Readable p before ∧ Refused p table before item e := by
  intro result
  have hgoverned := addRow_governed hp.indexName?_eq table
  have hresult : result = items.foldlM _ [] := result_ofItems p table items
  refine ⟨?_, fun indexes hok => ?_, fun e => ?_⟩
  · rw [hresult, hgoverned.exists_foldlM_eq_ok_iff (told_nil p), accepts_refused_iff]
  · have htold : Told p items indexes := hgoverned.of_foldlM (told_nil p) (hresult.symm.trans hok)
    exact ⟨htold, htold.length_eq⟩
  · rw [hresult, hgoverned.foldlM_eq_error_iff (told_nil p)]
    simp only [Refusal.Stops, accepts_refused_iff]

theorem ofItems_told_mixed :
    let row (nonUnique : Cell) (name column : String) : Item :=
      .ok ⟨[.text "ORDERS", nonUnique, .text name, .integer 1, .text column]⟩
    let items := [row (.text "Yes") "IDX_B" "CUSTOMER_ID", row .null "IDX_A" "ORDER_NO",
      row (.text "unread") "IDX_B" "PLACED_AT", row .null "PRIMARY" "ID"]
    let indexes : List Index :=
      [⟨"IDX_B", false, ["CUSTOMER_ID", "PLACED_AT"]⟩, ⟨"IDX_A", true, ["ORDER_NO"]⟩]
    Policy.Known .conventional ∧ (ofItems .conventional "ORDERS" items).result = .ok indexes ∧
      Readable .conventional items ∧ Told .conventional items indexes := by
  intro row items indexes
  have hok : (ofItems .conventional "ORDERS" items).result = .ok indexes := by decide +kernel
  obtain ⟨hreadable, htold, -⟩ := ofItems_told .default "ORDERS" items
  exact ⟨.default, hok, hreadable.mp ⟨indexes, hok⟩, (htold indexes hok).1⟩

end Index

end DatabaseSchema
