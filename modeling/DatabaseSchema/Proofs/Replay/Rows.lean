import DatabaseSchema.Logged
import DatabaseSchema.Proofs.Catalog
import DatabaseSchema.Source.Fixture

namespace DatabaseSchema

theorem Text.narrow?_toInt64 (n : Int32) : narrow? n.toInt64.toInt = some n := by
  have hlo := n.le_toInt
  have hhi := n.toInt_lt
  rw [Int32.toInt_toInt64, narrow?, if_pos (by omega), Int32.ofInt_toInt]

namespace Row

variable {r : Row} {position : Nat}

theorem text?_of_text {s : String} (h : r.cells[position]? = some (.text s)) :
    r.text? position = .ok (some s) := by
  unfold text? cell
  rw [h]
  rfl

theorem text?_of_null (h : r.cells[position]? = some .null) : r.text? position = .ok none := by
  unfold text? cell
  rw [h]
  rfl

theorem text_of_text {s : String} (h : r.cells[position]? = some (.text s)) :
    r.text position = .ok s := by
  unfold text
  rw [text?_of_text h]
  rfl

theorem int_of_int32 {n : Int32} (h : r.cells[position]? = some (.ofInt32 n)) :
    r.int position = .ok n := by
  unfold int cell
  rw [h]
  simp only [ok_bind, Text.narrow?_toInt64]
  rfl

theorem boolean_of_boolean {b : Bool} (h : r.cells[position]? = some (.boolean b)) :
    r.boolean position = .ok b := by
  unfold boolean cell
  rw [h]
  rfl

end Row

def objectRow (name kind : String) : Row := ⟨[.null, .text name, .text kind, .null]⟩

def keyRow (owner name : String) (sequence : Int32) : Row :=
  ⟨[.text owner, .text name, .ofInt32 sequence, .null]⟩

namespace BuilderCall

def rows : QueryKind → BuilderCall → List Row
  | .tables, table name => [objectRow name "TABLE"]
  | .tables, view name => [objectRow name "VIEW"]
  | .columns, column c => [c.row]
  | .primaryKeys, primaryKey owner name sequence => [keyRow owner name sequence]
  | .indexes, index owner name unique columns => Fixture.indexRows owner name unique columns
  | _, _ => []

end BuilderCall

namespace Fixture

def ofRows (rows : QueryKind → List Row) : Fixture where
  tables := rows .tables
  columns := rows .columns
  primaryKeys := rows .primaryKeys
  indexes := rows .indexes

theorem apply_ofRows (rows : QueryKind → List Row) (call : BuilderCall) :
    call.apply (ofRows rows) = ofRows fun kind => rows kind ++ call.rows kind := by
  cases call <;>
    simp [BuilderCall.apply, BuilderCall.rows, objectRow, keyRow, ofRows, table, view, object,
      column, primaryKey, index, addRow]

theorem build_eq (calls : List BuilderCall) :
    build calls = ofRows fun kind => calls.flatMap (BuilderCall.rows kind) := by
  have hfold : ∀ rows : QueryKind → List Row, calls.foldl BuilderCall.apply (ofRows rows) =
      ofRows fun kind => rows kind ++ calls.flatMap (BuilderCall.rows kind) := by
    induction calls with
    | nil => simp
    | cons call calls ih =>
        intro rows
        rw [List.foldl_cons, apply_ofRows, ih]
        simp [List.append_assoc]
  simpa [build, ofRows] using hfold fun _ => []

end Fixture

theorem filter_flatMap_rows {α : Type} {calls : List BuilderCall} {rows : BuilderCall → List Row}
    {p : Row → Bool} {pick : BuilderCall → Option α} {row : α → Row}
    (h : ∀ call, (rows call).filter p = (pick call).toList.map row) :
    (calls.flatMap rows).filter p = (calls.filterMap pick).map row := by
  induction calls with
  | nil => rfl
  | cons call calls ih =>
      rw [List.flatMap_cons, List.filter_append, h, ih, List.filterMap_cons]
      cases pick call <;> rfl

theorem isOfKind_objectRow (kind name kind' : String) :
    Fixture.isOfKind [kind] (objectRow name kind') = (kind' == kind) := by
  unfold Fixture.isOfKind
  rw [Row.text?_of_text (s := kind') rfl, Bool.eq_iff_iff]
  simp

theorem filter_table_rows (calls : List BuilderCall) :
    (calls.flatMap (BuilderCall.rows .tables)).filter (Fixture.isOfKind ["TABLE"]) =
      (calls.filterMap BuilderCall.table?).map (objectRow · "TABLE") := by
  refine filter_flatMap_rows fun call => ?_
  cases call <;> simp [BuilderCall.rows, BuilderCall.table?, isOfKind_objectRow]

theorem filter_view_rows (calls : List BuilderCall) :
    (calls.flatMap (BuilderCall.rows .tables)).filter (Fixture.isOfKind ["VIEW"]) =
      (calls.filterMap BuilderCall.view?).map (objectRow · "VIEW") := by
  refine filter_flatMap_rows fun call => ?_
  cases call <;> simp [BuilderCall.rows, BuilderCall.view?, isOfKind_objectRow]

namespace Catalog

variable {c : Catalog String} {names : List String}

theorem foldlM_insert {add : Catalog String → Item → Logged (Catalog String)} {row : String → Row}
    (hadd : ∀ c name, (add c (.ok (row name))).result = c.insert name name) (h : c.WellFormed)
    (hdistinct : ((c.entries ++ names).map nameKey).Nodup) :
    ∃ c', ((names.map fun name => .ok (row name)).foldlM add c).result = .ok c' ∧
      c'.entries = c.entries ++ names := by
  induction names generalizing c with
  | nil => exact ⟨c, rfl, by simp⟩
  | cons name names ih =>
      have hnew : ∀ entry ∈ c.entries, nameKey entry ≠ nameKey name := by
        rw [List.map_append, List.nodup_append] at hdistinct
        intro entry hmem
        exact hdistinct.2.2 _ (List.mem_map_of_mem hmem) _ List.mem_cons_self
      obtain ⟨c₁, hi, hwf, he⟩ := h.insert_fresh hnew
      obtain ⟨c', hc', he'⟩ := ih hwf (by simpa [he] using hdistinct)
      refine ⟨c', ?_, by simp [he', he]⟩
      rw [List.map_cons, List.foldlM_cons, Logged.result_bind, hadd, hi, ok_bind, hc']

theorem addTable_objectRow (c : Catalog String) (name : String) :
    (addTable .conventional c (.ok (objectRow name "TABLE"))).result = c.insert name name := by
  have hn : Policy.conventional.tableName (objectRow name "TABLE") = .ok name := Row.text_of_text rfl
  have hs : (objectRow name "TABLE").text? TableRow.schema = .ok none := Row.text?_of_null rfl
  have hk : (objectRow name "TABLE").text? TableRow.kind = .ok (some "TABLE") :=
    Row.text?_of_text rfl
  unfold addTable
  simp only [Logged.result_bind, Logged.result_ofExcept, Logged.result_emit, Subject.row,
    Subject.check, Part.check, hn, hs, hk, ok_bind]
  rfl

theorem addView_objectRow (c : Catalog String) (name : String) :
    (addView .conventional c (.ok (objectRow name "VIEW"))).result = c.insert name name := by
  have hn : Policy.conventional.viewName (objectRow name "VIEW") = .ok name := Row.text_of_text rfl
  unfold addView
  simp only [Logged.result_bind, Logged.result_ofExcept, Logged.result_emit, Subject.row,
    Subject.check, hn, ok_bind]

theorem tableNames_objectRows (h : (names.map nameKey).Nodup) :
    ∃ c, (tableNames .conventional
        (.ok (names.map fun name => .ok (objectRow name "TABLE")))).result = .ok c ∧
      c.entries = names := by
  have hdistinct : (((empty .table).entries ++ names).map nameKey).Nodup := by
    simpa [empty] using h
  obtain ⟨c, hc, he⟩ := foldlM_insert addTable_objectRow (wellFormed_empty .table) hdistinct
  refine ⟨c, ?_, by simpa [empty] using he⟩
  unfold tableNames
  simp only [Logged.result_bind, Logged.result_ofExcept, Logged.result_emit, Subject.items, ok_bind,
    hc]
  rfl

theorem viewNames_objectRows (h : (names.map nameKey).Nodup) :
    ∃ c, (viewNames .conventional
        (.ok (names.map fun name => .ok (objectRow name "VIEW")))).result = .ok c ∧
      c.entries = names := by
  have hdistinct : (((empty .view).entries ++ names).map nameKey).Nodup := by
    simpa [empty] using h
  obtain ⟨c, hc, he⟩ := foldlM_insert addView_objectRow (wellFormed_empty .view) hdistinct
  refine ⟨c, ?_, by simpa [empty] using he⟩
  unfold viewNames
  simp only [Logged.result_bind, Logged.result_ofExcept, Logged.result_emit, Subject.items, ok_bind,
    hc]
  rfl

end Catalog

end DatabaseSchema
