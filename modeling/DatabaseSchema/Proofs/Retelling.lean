import DatabaseSchema.Proofs.Columns.Conversion
import DatabaseSchema.Proofs.ExactIntegers
import DatabaseSchema.Proofs.Indexes.Grouping
import DatabaseSchema.Proofs.Padding

namespace DatabaseSchema

namespace Cell

def SameNumber (c c' : Cell) : Prop := ∃ n, c.TellsNumber n ∧ c'.TellsNumber n

def SameFlag (c c' : Cell) : Prop := ∃ b, c.TellsFlag b ∧ c'.TellsFlag b

end Cell

open Cell

namespace Row

variable {r r' : Row} {Same : Cell → Cell → Prop} {positions : List Nat} {position : Nat}
  {c c' : Cell}

def put (r : Row) (position : Nat) (c : Cell) : Row := ⟨r.cells.set position c⟩

structure Retells (Same : Cell → Cell → Prop) (positions : List Nat) (r r' : Row) : Prop where
  width : r'.cells.length = r.cells.length
  cells : ∀ position c c', r.cells[position]? = some c → r'.cells[position]? = some c' →
    c' = c ∨ (position ∈ positions ∧ Same c c')

namespace Retells

theorem refl (Same : Cell → Cell → Prop) (positions : List Nat) (r : Row) :
    Retells Same positions r r where
  width := rfl
  cells _ _ _ h h' := .inl (Option.some.inj (h'.symm.trans h))

theorem put (h : Retells Same positions r r') (hp : position ∈ positions)
    (hc : r.cells[position]? = some c) (hs : Same c c') :
    Retells Same positions r (r'.put position c') where
  width := by rw [Row.put, List.length_set, h.width]
  cells position₁ c₁ c₁' h₁ h₁' := by
    by_cases heq : position = position₁
    · subst heq
      cases hc.symm.trans h₁
      obtain ⟨hlt, -⟩ := List.getElem?_eq_some_iff.mp hc
      rw [Row.put, List.getElem?_set_self (h.width ▸ hlt)] at h₁'
      cases h₁'
      exact .inr ⟨hp, hs⟩
    · rw [Row.put, List.getElem?_set_ne heq] at h₁'
      exact h.cells position₁ c₁ c₁' h₁ h₁'

theorem cell_cases (h : Retells Same positions r r') (position : Nat) :
    r'.cell position = r.cell position ∨
      position ∈ positions ∧ ∃ c c', r.cells[position]? = some c ∧
        r'.cells[position]? = some c' ∧ Same c c' := by
  unfold cell
  rw [h.width]
  cases hc : r.cells[position]? with
  | none =>
      -- a cell is missing in both, and the message tells the same width
      have hc' : r'.cells[position]? = none := by
        rw [List.getElem?_eq_none_iff] at hc ⊢
        exact h.width ▸ hc
      rw [hc']
      exact .inl rfl
  | some c =>
      obtain ⟨hlt, -⟩ := List.getElem?_eq_some_iff.mp hc
      have hc' := List.getElem?_eq_getElem (h.width.symm ▸ hlt)
      obtain hsame | ⟨hp, hs⟩ := h.cells position c _ hc hc'
      · rw [hc', hsame]
        exact .inl rfl
      · exact .inr ⟨hp, c, _, rfl, hc', hs⟩

theorem cell_eq (h : Retells Same positions r r') (hp : position ∉ positions) :
    r'.cell position = r.cell position :=
  (h.cell_cases position).resolve_right fun hcells => hp hcells.1

theorem text?_eq (h : Retells Same positions r r') (hp : position ∉ positions) :
    r'.text? position = r.text? position := by
  rw [text?, h.cell_eq hp, text?]

theorem text_eq (h : Retells Same positions r r') (hp : position ∉ positions) :
    r'.text position = r.text position := by
  rw [text, h.text?_eq hp, text]

theorem int_eq (h : Retells SameNumber positions r r') (position : Nat) :
    r'.int position = r.int position := by
  obtain hcell | ⟨-, c, c', hc, hc', n, hn, hn'⟩ := h.cell_cases position
  · rw [int, hcell, int]
  · rw [int_of_tells hc hn, int_of_tells hc' hn']

theorem boolean_eq (h : Retells SameFlag positions r r') (position : Nat) :
    r'.boolean position = r.boolean position := by
  obtain hcell | ⟨-, c, c', hc, hc', b, hb, hb'⟩ := h.cell_cases position
  · rw [boolean, hcell, boolean]
  · rw [boolean_of_tells hc hb, boolean_of_tells hc' hb']

end Retells

end Row

theorem Logged.ofExcept_ok_bind {α β : Type} (a : α) (f : α → Logged β) :
    (ofExcept (.ok a) >>= f) = f a := rfl

section Loaders

variable {p : Policy} {table : String} {r r' : Row} {rows rows' : List Row}

abbrev ColumnRow.Retells : Row → Row → Prop :=
  Row.Retells SameNumber [ColumnRow.typeCode, ColumnRow.size, ColumnRow.digits]

abbrev KeyRow.Retells : Row → Row → Prop := Row.Retells SameNumber [KeyRow.sequence]

abbrev IndexRow.Retells : Row → Row → Prop := Row.Retells SameFlag [IndexRow.nonUnique]

theorem Column.ofRow_retold {name : String} (hp : p.Usual) (h : ColumnRow.Retells r r') :
    ofRow p table name r' = ofRow p table name r := by
  have hnullability : ∀ c : Column, c.withNullability r' = c.withNullability r := by
    intro c
    rw [withNullability, h.text?_eq (by decide), withNullability]
  have hautonumbering : ∀ c : Column, c.withAutonumbering r' = c.withAutonumbering r := by
    intro c
    rw [withAutonumbering, h.text?_eq (by decide), withAutonumbering]
  have hfurther : ∀ c, p.furtherStep table c r' = p.furtherStep table c r := by
    intro c
    obtain hf | hf := hp.further table
    · rw [hf]
    · rw [hf, Policy.remarkAsDefault, h.text?_eq (by decide), Policy.remarkAsDefault]
  have htypeName : r'.text? ColumnRow.typeName = r.text? ColumnRow.typeName :=
    h.text?_eq (by decide)
  simp only [ofRow, htypeName, h.int_eq, hp.nullability, hnullability, hp.autonumbering,
    hautonumbering, hp.default, hfurther]

theorem ColumnCatalog.addColumn_retold (hp : p.Usual) (h : ColumnRow.Retells r r')
    (c : ColumnCatalog) : addColumn p c (.ok r') = addColumn p c (.ok r) := by
  have htable : r'.text ColumnRow.table = r.text ColumnRow.table := h.text_eq (by decide)
  have hname : p.columnName r' = p.columnName r := by
    rw [hp.columnName]
    exact h.text_eq (by decide)
  simp only [addColumn, Subject.row, Logged.ofExcept_ok_bind, htable, hname, Column.ofRow_retold hp h]

theorem PrimaryKey.entry_retold (h : KeyRow.Retells r r') :
    entry table (.ok r') = entry table (.ok r) := by
  have hcolumn : r'.text KeyRow.column = r.text KeyRow.column := h.text_eq (by decide)
  simp only [entry, Subject.row, ok_bind, hcolumn, h.int_eq]

theorem Index.addRow_retold (hp : p.Known) (h : IndexRow.Retells r r') (indexes : List Index) :
    addRow p table indexes (.ok r') = addRow p table indexes (.ok r) := by
  have hname : p.indexName? r' = p.indexName? r := by
    rw [hp.indexName?_eq]
    exact h.text?_eq (by decide)
  have hcolumn : r'.text IndexRow.column = r.text IndexRow.column := h.text_eq (by decide)
  simp only [addRow, Subject.row, Logged.ofExcept_ok_bind, hname, hcolumn, h.boolean_eq]

end Loaders

section Answers

variable {β : Type} {R : Row → Row → Prop} {p : Policy} {table : String} {item item' : Item}
  {items items' : List Item}

inductive Item.Retold (R : Row → Row → Prop) : Item → Item → Prop where
  | row {r r' : Row} : R r r' → Retold R (.ok r) (.ok r')
  | failure (message : String) : Retold R (.error message) (.error message)

theorem Item.Retold.apply_eq {f : Item → β} (h : Item.Retold R item item')
    (hf : ∀ r r', R r r' → f (.ok r') = f (.ok r)) : f item' = f item := by
  cases h with
  | row hr => exact hf _ _ hr
  | failure message => rfl

theorem foldlM_retold {f : β → Item → Logged β} (h : List.Forall₂ (Item.Retold R) items items')
    (hf : ∀ b r r', R r r' → f b (.ok r') = f b (.ok r)) (b : β) :
    items'.foldlM f b = items.foldlM f b := by
  induction h generalizing b with
  | nil => rfl
  | cons hitem _ ih => simp only [List.foldlM_cons, hitem.apply_eq (hf b), ih]

theorem mapM_retold {ε : Type} {f : Item → Except ε β}
    (h : List.Forall₂ (Item.Retold R) items items')
    (hf : ∀ r r', R r r' → f (.ok r') = f (.ok r)) : items'.mapM f = items.mapM f := by
  induction h with
  | nil => rfl
  | cons hitem _ ih => simp only [List.mapM_cons, hitem.apply_eq hf, ih]

theorem ColumnCatalog.ofAnswer_retold (hp : p.Usual) (names : Catalog String)
    (h : List.Forall₂ (Item.Retold ColumnRow.Retells) items items') :
    ofAnswer p names (.ok items') = ofAnswer p names (.ok items) := by
  simp only [ofAnswer, Subject.items, Logged.ofExcept_ok_bind,
    foldlM_retold h fun c _ _ hr => addColumn_retold hp hr c]

theorem PrimaryKey.ofAnswer_retold (h : List.Forall₂ (Item.Retold KeyRow.Retells) items items') :
    ofAnswer table (.ok items') = ofAnswer table (.ok items) := by
  simp only [ofAnswer, Subject.items, Logged.ofExcept_ok_bind,
    mapM_retold h fun _ _ hr => entry_retold hr]

theorem Index.ofAnswer_retold (hp : p.Known)
    (h : List.Forall₂ (Item.Retold IndexRow.Retells) items items') :
    ofAnswer p table (.ok items') = ofAnswer p table (.ok items) := by
  simp only [ofAnswer, ofItems, Subject.items, Logged.ofExcept_ok_bind,
    foldlM_retold h fun indexes _ _ hr => addRow_retold hp hr indexes]

end Answers

namespace Fixture

variable {c : Context} {f g : Fixture} {q : Query} {R : Row → Row → Prop} {table : String}

-- The second fixture tells in its columns, keys and indexes what the first one does, row by row,
-- with numbers and flags in any form.
structure Retells (f g : Fixture) : Prop where
  tables : g.tables = f.tables
  columns : List.Forall₂ ColumnRow.Retells f.columns g.columns
  primaryKeys : List.Forall₂ KeyRow.Retells f.primaryKeys g.primaryKeys
  indexes : List.Forall₂ IndexRow.Retells f.indexes g.indexes
  failures : g.failures = f.failures

theorem load_eq {β : Type} {load : Items → β} (h : g.failures = f.failures)
    (hrows : List.Forall₂ R (f.rows q) (g.rows q))
    (hload : ∀ items items', List.Forall₂ (Item.Retold R) items items' →
      load (.ok items') = load (.ok items)) : load (g.items q) = load (f.items q) := by
  have hitems : List.Forall₂ (Item.Retold R) ((f.rows q).map .ok) ((g.rows q).map .ok) := by
    rw [List.forall₂_map_left_iff, List.forall₂_map_right_iff]
    exact hrows.imp fun _ _ => .row
  unfold items
  rw [h]
  split
  next => exact hload _ _ hitems
  next => rfl
  next message _ =>
    exact hload _ _ (List.rel_append hitems (.cons (.failure message) .nil))

theorem isOfTable_retold {Same : Cell → Cell → Prop} {positions : List Nat} {r r' : Row}
    {position : Nat} (h : Row.Retells Same positions r r') (hp : position ∉ positions) :
    isOfTable table position r = true ↔ isOfTable table position r' = true := by
  rw [isOfTable, isOfTable, h.text?_eq hp]

namespace Retells

theorem primaryKey_rows (h : Retells f g) (table : String) :
    List.Forall₂ KeyRow.Retells (f.rows (.primaryKeys c.schema table))
      (g.rows (.primaryKeys c.schema table)) :=
  List.rel_filter (fun _ _ hr => isOfTable_retold hr (by decide)) h.primaryKeys

theorem index_rows (h : Retells f g) (table : String) :
    List.Forall₂ IndexRow.Retells (f.rows (.indexes c.schema table false false))
      (g.rows (.indexes c.schema table false false)) :=
  List.rel_filter (fun _ _ _ => Iff.rfl)
    (List.rel_filter (fun _ _ hr => isOfTable_retold hr (by decide)) h.indexes)

theorem readAlike (h : Retells f g) (hp : c.policy.Known) : ReadAlike f.answers g.answers c := by
  have htables : ∀ schema kinds, g.items (.tables schema kinds) = f.items (.tables schema kinds) :=
    fun schema kinds => items_eq h.failures (by rw [rows, rows, h.tables])
  have hcatalog : Uncached.tableCatalog g.answers c = Uncached.tableCatalog f.answers c := by
    simp only [Uncached.tableCatalog, answers, htables]
  constructor
  case tables => exact hcatalog
  case views => simp only [Uncached.viewCatalog, answers, htables]
  case columns =>
    unfold Uncached.columnCatalog
    rw [hcatalog]
    refine congrArg _ (funext fun names => congrArg Logged.result ?_)
    exact load_eq h.failures h.columns fun _ _ => ColumnCatalog.ofAnswer_retold hp.usual names
  case primaryKey =>
    intro names _ table _
    exact congrArg Logged.result
      (load_eq h.failures (h.primaryKey_rows table) fun _ _ => PrimaryKey.ofAnswer_retold)
  case indexes =>
    intro names _ table _
    exact congrArg Logged.result
      (load_eq h.failures (h.index_rows table) fun _ _ => Index.ofAnswer_retold hp)

end Retells

end Fixture

theorem replies_retold {context : Context} (hp : context.policy.Known) {f g : Fixture}
    (h : Fixture.Retells f g) (requests : List Request) :
    let s := Session.start context
    s.replies g.source requests = s.replies f.source requests ∧
      (s.serveAll f.source requests).Alike (s.serveAll g.source requests) := by
  have hr := Session.Reached.start (.interrupted f.answers fun _ _ => none) context
  exact Session.replies_agree (h.readAlike hp) _ requests hr (.refl _)

theorem replies_retold_forms :
    let column : Row :=
      ⟨[.text "ORDERS", .text "ID", .integer 4, .text "INTEGER", .integer 10, .null, .text "NO",
        .text "YES"]⟩
    let key : Row := ⟨[.text "ORDERS", .text "ID", .integer (-1)]⟩
    let index : Row := ⟨[.text "ORDERS", .boolean true, .text "IDX", .integer 1, .text "ID"]⟩
    let f : Fixture :=
      { tables := [⟨[.null, .text "ORDERS", .text "TABLE"]⟩]
        columns := [column]
        primaryKeys := [key]
        indexes := [index] }
    let g : Fixture :=
      { f with
        columns := [((column.put 2 (.text " 4\t")).put 4 (.text "10")).put 5 (.integer 0)]
        primaryKeys := [key.put 2 (.text "\n-1")]
        indexes := [index.put 1 (.text "Yes ")] }
    let requests := [.snapshot, .table "orders", .ofTable 0 .indexes]
    let s := Session.start { policy := .conventional }
    Policy.Known .conventional ∧ Fixture.Retells f g ∧
      s.replies g.source requests = s.replies f.source requests ∧
      (s.serveAll f.source requests).Alike (s.serveAll g.source requests) := by
  intro column key index f g requests s
  have htext (n : Int32) (before after : List Char) (hbefore : before.all Text.isBlank = true)
      (hafter : after.all Text.isBlank = true) :
      (Cell.text (.ofList (before ++ (toString n.toInt).toList ++ after))).TellsNumber n :=
    .text (Text.spaced_of_all before after hbefore hafter (by simp))
  have hretells : Fixture.Retells f g := {
    tables := rfl
    columns := by
      refine .cons ?_ .nil
      refine (((Row.Retells.refl _ _ column).put (by decide) rfl ?_).put (by decide) rfl ?_).put
        (by decide) rfl ?_
      · exact ⟨4, .integer rfl, htext 4 [' '] ['\t'] (by decide) (by decide)⟩
      · exact ⟨10, .integer rfl, htext 10 [] [] rfl rfl⟩
      · exact ⟨0, .null, .integer rfl⟩
    primaryKeys := by
      refine .cons ((Row.Retells.refl _ _ key).put (by decide) rfl ?_) .nil
      exact ⟨-1, .integer rfl, htext (-1) ['\n'] [] (by decide) rfl⟩
    indexes := by
      have hspaced : Text.Spaced "Yes".toList "Yes ".toList :=
        Text.spaced_of_all [] [' '] rfl (by decide) rfl
      refine .cons ((Row.Retells.refl _ _ index).put (by decide) rfl ?_) .nil
      exact ⟨true, .boolean true, .text hspaced (by decide)⟩
    failures := rfl }
  exact ⟨.default, hretells, replies_retold .default hretells requests⟩

end DatabaseSchema
