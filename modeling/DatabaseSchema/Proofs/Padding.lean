import DatabaseSchema.Proofs.Columns
import DatabaseSchema.Proofs.Lockstep
import DatabaseSchema.Source.Fixture

namespace DatabaseSchema

variable {α β : Type} {P : α → Prop} {a : α} {as bs : List α}

inductive Padded (P : α → Prop) : List α → List α → Prop where
  | nil : Padded P [] []
  | keep {a : α} {as bs : List α} : Padded P as bs → Padded P (a :: as) (a :: bs)
  | extra {a : α} {as bs : List α} : P a → Padded P as bs → Padded P as (a :: bs)

namespace Padded

theorem refl (P : α → Prop) (as : List α) : Padded P as as := by
  induction as with
  | nil => exact .nil
  | cons a as ih => exact ih.keep

theorem insertIdx (ha : P a) (as : List α) (i : Nat) : Padded P as (as.insertIdx i a) := by
  induction as generalizing i with
  | nil =>
      cases i with
      | zero => exact .extra ha .nil
      | succ i => exact .nil
  | cons b as ih =>
      cases i with
      | zero => exact .extra ha (refl P _)
      | succ i => exact (ih i).keep

theorem map {Q : β → Prop} {f : α → β} (h : Padded P as bs) (hf : ∀ a, P a → Q (f a)) :
    Padded Q (as.map f) (bs.map f) := by
  induction h with
  | nil => exact .nil
  | keep _ ih => exact ih.keep
  | extra ha _ ih => exact ih.extra (hf _ ha)

theorem append_right (h : Padded P as bs) (cs : List α) : Padded P (as ++ cs) (bs ++ cs) := by
  induction h with
  | nil => exact refl P cs
  | keep _ ih => exact ih.keep
  | extra ha _ ih => exact ih.extra ha

theorem filter (h : Padded P as bs) (p : α → Bool) : Padded P (as.filter p) (bs.filter p) := by
  induction h with
  | nil => exact .nil
  | @keep a _ _ _ ih =>
      cases hp : p a with
      | true => simpa [hp] using ih.keep
      | false => simpa [hp] using ih
  | @extra a _ _ ha _ ih =>
      cases hp : p a with
      | true => simpa [hp] using ih.extra ha
      | false => simpa [hp] using ih

theorem filter_eq {p : α → Bool} (h : Padded P as bs) (hp : ∀ a, P a → p a = false) :
    bs.filter p = as.filter p := by
  induction h with
  | nil => rfl
  | @keep a _ _ _ ih => simp only [List.filter_cons, ih]
  | @extra a _ _ ha _ ih => simpa [hp a ha] using ih

theorem foldlM_eq {ε : Type} {I : β → Prop} {f : β → α → Except ε β} (h : Padded P as bs)
    (hinv : ∀ b a b', I b → f b a = .ok b' → I b') (hskip : ∀ b a, I b → P a → f b a = .ok b)
    {b : β} (hb : I b) : bs.foldlM f b = as.foldlM f b := by
  induction h generalizing b with
  | nil => rfl
  | @keep a _ _ _ ih =>
      rw [List.foldlM_cons, List.foldlM_cons]
      cases hf : f b a with
      | error e => rfl
      | ok b' => exact ih (hinv b a b' hb hf)
  | @extra a _ _ ha _ ih => rw [List.foldlM_cons, hskip b a hb ha, ok_bind, ih hb]

end Padded

namespace Row

variable {r : Row} {position : Nat} {text : String}

-- A row of the table list that is read and then left out, and whose kind is given and is not one
-- of the kinds of view.
structure LeftOut (p : Policy) (r : Row) : Prop where
  name : ∃ name, p.tableName r = .ok name ∧ (p.isSystemTable name || p.isIgnoredTable name) = true
  schema : ∃ schema, r.text? TableRow.schema = .ok schema
  notView : Fixture.isOfKind p.viewKinds r = false

theorem LeftOut.kind {p : Policy} (h : r.LeftOut p) : ∃ kind, r.text? TableRow.kind = .ok kind := by
  have hview := h.notView
  unfold Fixture.isOfKind at hview
  split at hview
  next kind hkind => exact ⟨some kind, hkind⟩
  next => simp at hview

theorem text?_eq_of_text (h : r.text position = .ok text) : r.text? position = .ok (some text) := by
  obtain ⟨text?, ht, h⟩ := bind_eq_ok.mp h
  cases text? with
  | none => cases h
  | some other =>
      cases h
      exact ht

end Row

namespace Fixture

variable {c : Context} {f g : Fixture}

def Unlisted (f : Fixture) (c : Context) (name : String) : Prop :=
  ∀ names ∈ (Uncached.tableCatalog f.answers c).toOption, names.contains name = false

theorem unlisted_iff {names : Catalog String} {name : String}
    (h : Uncached.tableCatalog f.answers c = .ok names) :
    f.Unlisted c name ↔ names.contains name = false := by
  simp [Unlisted, h, Except.toOption]

structure Pads (c : Context) (f g : Fixture) : Prop where
  tables : Padded (Row.LeftOut c.policy) f.tables g.tables
  columns : Padded (fun r => ∃ name, r.text ColumnRow.table = .ok name ∧ f.Unlisted c name)
    f.columns g.columns
  primaryKeys : Padded (fun r => ∃ name, r.text KeyRow.table = .ok name ∧ f.Unlisted c name)
    f.primaryKeys g.primaryKeys
  indexes : Padded (fun r => ∃ name, r.text IndexRow.table = .ok name ∧ f.Unlisted c name)
    f.indexes g.indexes
  failures : g.failures = f.failures

inductive PaddedItems (P : Row → Prop) : Items → Items → Prop where
  | ok {items items' : List Item} :
      Padded (fun item => ∃ r, item = .ok r ∧ P r) items items' →
      PaddedItems P (.ok items) (.ok items')
  | error (message : String) : PaddedItems P (.error message) (.error message)

theorem paddedItems {P : Row → Prop} (h : g.failures = f.failures) {q : Query}
    (hrows : Padded P (f.rows q) (g.rows q)) : PaddedItems P (f.items q) (g.items q) := by
  have hitems : Padded (fun item : Item => ∃ r, item = .ok r ∧ P r)
      ((f.rows q).map .ok) ((g.rows q).map .ok) := hrows.map fun r hr => ⟨r, rfl, hr⟩
  unfold items
  rw [h]
  split
  next => exact .ok hitems
  next message _ => exact .error message
  next message _ => exact .ok (hitems.append_right _)

theorem items_eq (h : g.failures = f.failures) {q : Query} (hrows : g.rows q = f.rows q) :
    g.items q = f.items q := by
  unfold items
  rw [h, hrows]

end Fixture

open Fixture

theorem Catalog.addTable_leftOut {p : Policy} {r : Row} (h : r.LeftOut p) (c : Catalog String) :
    (addTable p c (.ok r)).result = .ok c := by
  obtain ⟨name, hname, hout⟩ := h.name
  obtain ⟨schema, hschema⟩ := h.schema
  obtain ⟨kind, hkind⟩ := h.kind
  simp only [addTable, Subject.row, Subject.check, Part.check, hname, hschema, hkind, if_pos hout,
    Logged.result_bind, Logged.result_ofExcept, Logged.result_emit, Logged.result_pure, ok_bind]

theorem Catalog.tableNames_padded {p : Policy} {answer answer' : Items}
    (h : PaddedItems (Row.LeftOut p) answer answer') :
    (tableNames p answer').result = (tableNames p answer).result := by
  cases h with
  | error message => rfl
  | ok hitems =>
      simp only [tableNames, Subject.items, Logged.result_bind, Logged.result_ofExcept, ok_bind,
        Logged.result_foldlM]
      rw [hitems.foldlM_eq (I := fun _ => True) (fun _ _ _ _ _ => trivial) ?_ trivial]
      rintro c _ - ⟨r, rfl, hr⟩
      exact addTable_leftOut hr c

namespace ColumnCatalog

variable {p : Policy} {names : Catalog String}

theorem addColumn_unlisted {r : Row} {name : String} {catalog : ColumnCatalog}
    (hwf : names.WellFormed) (hkeys : catalog.tables.map (·.1) = names.entries.map nameKey)
    (hname : r.text ColumnRow.table = .ok name) (hout : names.contains name = false) :
    (addColumn p catalog (.ok r)).result = .ok catalog := by
  have hnone : catalog.columns? name = none := by
    rw [← Option.not_isSome_iff_eq_none, columns?_isSome, hkeys]
    intro hmem
    obtain ⟨entry, hentry, hkey⟩ := List.mem_map.mp hmem
    rw [hwf.contains_iff.mpr ⟨entry, hentry, hkey⟩] at hout
    cases hout
  simp only [addColumn, Subject.row, Subject.check, hname, hnone, Logged.result_bind,
    Logged.result_ofExcept, Logged.result_pure, ok_bind]

theorem ofAnswer_padded {answer answer' : Items} (hwf : names.WellFormed)
    (h : PaddedItems (fun r => ∃ name, r.text ColumnRow.table = .ok name ∧
      names.contains name = false) answer answer') :
    (ofAnswer p names answer').result = (ofAnswer p names answer).result := by
  cases h with
  | error message => rfl
  | ok hitems =>
      simp only [ofAnswer, Subject.items, Logged.result_bind, Logged.result_ofExcept, ok_bind,
        Logged.result_foldlM]
      -- what is carried along: every table in the catalog, and no other, has its entry
      rw [hitems.foldlM_eq
        (I := fun catalog => catalog.tables.map (·.1) = names.entries.map nameKey) ?_ ?_ ?_]
      · exact fun _ _ _ hkeys hadd => (keys_addColumn hadd).trans hkeys
      · rintro catalog _ hkeys ⟨r, rfl, name, hname, hout⟩
        exact addColumn_unlisted hwf hkeys hname hout
      · exact (unflagged_ofTables names).keys

end ColumnCatalog

namespace Fixture

variable {c : Context} {f g : Fixture}

theorem isOfTable_unlisted {names : Catalog String} {table name : String} {position : Nat} {r : Row}
    (hwf : names.WellFormed) (ht : table ∈ names.entries) (hname : r.text position = .ok name)
    (hout : names.contains name = false) : isOfTable table position r = false := by
  simp only [isOfTable, Row.text?_eq_of_text hname]
  refine Bool.eq_false_iff.mpr fun hsame => ?_
  rw [hwf.contains_iff.mpr ⟨table, ht, (sameName_iff.mp hsame).symm⟩] at hout
  cases hout

namespace Pads

theorem tableCatalog_eq (h : Pads c f g) :
    Uncached.tableCatalog g.answers c = Uncached.tableCatalog f.answers c :=
  Catalog.tableNames_padded (paddedItems h.failures (h.tables.filter _))

theorem viewCatalog_eq (h : Pads c f g) :
    Uncached.viewCatalog g.answers c = Uncached.viewCatalog f.answers c := by
  have hrows : g.rows (.tables c.schema c.policy.viewKinds) =
      f.rows (.tables c.schema c.policy.viewKinds) := h.tables.filter_eq fun r hr => hr.notView
  simp only [Uncached.viewCatalog, answers, items_eq h.failures hrows]

theorem columnCatalog_eq (h : Pads c f g) :
    Uncached.columnCatalog g.answers c = Uncached.columnCatalog f.answers c := by
  unfold Uncached.columnCatalog
  rw [h.tableCatalog_eq]
  cases hnames : Uncached.tableCatalog f.answers c with
  | error e => rfl
  | ok names =>
      have hpadded := h.columns
      simp only [unlisted_iff hnames] at hpadded
      exact ColumnCatalog.ofAnswer_padded (Catalog.tableNames_wellFormed hnames)
        (paddedItems h.failures hpadded)

theorem readAlike (h : Pads c f g) : ReadAlike f.answers g.answers c where
  tables := h.tableCatalog_eq
  columns := h.columnCatalog_eq
  views := h.viewCatalog_eq
  primaryKey names hnames table ht := by
    have hwf := Catalog.tableNames_wellFormed hnames
    have hrows : g.rows (.primaryKeys c.schema table) = f.rows (.primaryKeys c.schema table) := by
      refine h.primaryKeys.filter_eq ?_
      rintro r ⟨name, hname, hout⟩
      exact isOfTable_unlisted hwf ht hname ((unlisted_iff hnames).mp hout)
    simp only [answers, items_eq h.failures hrows]
  indexes names hnames table ht := by
    have hwf := Catalog.tableNames_wellFormed hnames
    have hrows : g.rows (.indexes c.schema table false false) =
        f.rows (.indexes c.schema table false false) := by
      refine congrArg _ (h.indexes.filter_eq ?_)
      rintro r ⟨name, hname, hout⟩
      exact isOfTable_unlisted hwf ht hname ((unlisted_iff hnames).mp hout)
    simp only [answers, items_eq h.failures hrows]

end Pads

end Fixture

theorem replies_padded (context : Context) {f g : Fixture} (h : Fixture.Pads context f g)
    (requests : List Request) :
    let s := Session.start context
    s.replies g.source requests = s.replies f.source requests ∧
      (s.serveAll f.source requests).Alike (s.serveAll g.source requests) := by
  have hr := Session.Reached.start (.interrupted f.answers fun _ _ => none) context
  exact Session.replies_agree h.readAlike _ requests hr (.refl _)

theorem replies_padded_orders :
    let context : Context :=
      { policy := { Policy.conventional with isIgnoredTable := (· == "Audit") } }
    let f := Fixture.build ordersCalls
    let g : Fixture :=
      { f with
        tables := f.tables.insertIdx 1 ⟨[.null, .text "Audit", .text "TABLE", .null]⟩
        columns := f.columns.insertIdx 1 ⟨[.text "audit", .null, .text "no number"]⟩
        primaryKeys := f.primaryKeys.insertIdx 0 ⟨[.text "Elsewhere"]⟩
        indexes := f.indexes.insertIdx 2 ⟨[.integer 7, .null]⟩ }
    let requests := [.snapshot, .table "Audit", .table "orders", .ofTable 0 .columns]
    let s := Session.start context
    Fixture.Pads context f g ∧ s.replies g.source requests = s.replies f.source requests ∧
      (s.serveAll f.source requests).Alike (s.serveAll g.source requests) := by
  intro context f g requests s
  have hunlisted : ∀ name ∈ ["audit", "Elsewhere", "7"], f.Unlisted context name := by
    unfold Fixture.Unlisted
    decide +kernel
  have hpads : Fixture.Pads context f g := {
    tables := .insertIdx ⟨⟨"Audit", rfl, by decide⟩, ⟨none, rfl⟩, by decide⟩ _ 1
    columns := .insertIdx ⟨"audit", rfl, hunlisted _ (by simp)⟩ _ 1
    primaryKeys := .insertIdx ⟨"Elsewhere", rfl, hunlisted _ (by simp)⟩ _ 0
    indexes := .insertIdx ⟨"7", rfl, hunlisted _ (by simp)⟩ _ 2
    failures := rfl }
  exact ⟨hpads, replies_padded context hpads requests⟩

end DatabaseSchema
