import DatabaseSchema.Proofs.Rendering.Lines
import DatabaseSchema.Snapshot

namespace DatabaseSchema

open Text

variable {t t' : TableSnapshot} {s s' : SchemaSnapshot} {l l' : Line}

structure TableSnapshot.ShownAs (t t' : TableSnapshot) : Prop where
  name : t.name = t'.name
  columns : List.Forall₂ Column.ShownAs t.columns t'.columns
  primaryKey : t.primaryKey = t'.primaryKey
  indexes : t.indexes = t'.indexes

structure SchemaSnapshot.ShownAs (s s' : SchemaSnapshot) : Prop where
  tables : List.Forall₂ TableSnapshot.ShownAs s.tables s'.tables
  views : s.views = s'.views

structure TableSnapshot.IsPlain (t : TableSnapshot) : Prop where
  name : IsWord t.name
  columns : ∀ c ∈ t.columns, IsWord c.name ∧ '\n' ∉ c.defaultValue.toList
  primaryKey : ∀ name ∈ t.primaryKey, IsWord name
  indexes : ∀ i ∈ t.indexes, i.IsPlain

structure SchemaSnapshot.IsPlain (s : SchemaSnapshot) : Prop where
  tables : ∀ t ∈ s.tables, t.IsPlain
  views : ∀ name ∈ s.views, IsWord name

instance : DecidablePred TableSnapshot.IsPlain := fun t =>
  decidable_of_iff (IsWord t.name ∧
    (∀ c ∈ t.columns, IsWord c.name ∧ '\n' ∉ c.defaultValue.toList) ∧
    (∀ name ∈ t.primaryKey, IsWord name) ∧ ∀ i ∈ t.indexes, i.IsPlain)
    ⟨fun h => ⟨h.1, h.2.1, h.2.2.1, h.2.2.2⟩,
      fun h => ⟨h.name, h.columns, h.primaryKey, h.indexes⟩⟩

instance : DecidablePred SchemaSnapshot.IsPlain := fun s =>
  decidable_of_iff ((∀ t ∈ s.tables, t.IsPlain) ∧ ∀ name ∈ s.views, IsWord name)
    ⟨fun h => ⟨h.1, h.2⟩, fun h => ⟨h.tables, h.views⟩⟩

theorem TableSnapshot.ShownAs.text_eq (h : t.ShownAs t') : t.text = t'.text := by
  have hcolumns : t.columns.map (fun c => "  " ++ c.display ++ "\n") =
      t'.columns.map (fun c => "  " ++ c.display ++ "\n") := by
    rw [← List.forall₂_eq_eq_eq]
    exact List.rel_map (fun c d hcd => by rw [hcd.display_eq]) h.columns
  rw [text, text, hcolumns, h.name, h.primaryKey, h.indexes]

theorem SchemaSnapshot.ShownAs.text_eq (h : s.ShownAs s') : s.text = s'.text := by
  have htables : s.tables.map TableSnapshot.text = s'.tables.map TableSnapshot.text := by
    rw [← List.forall₂_eq_eq_eq]
    exact List.rel_map (fun _ _ ht => ht.text_eq) h.tables
  have hempty : s.tables.isEmpty = s'.tables.isEmpty := by
    rw [← List.isEmpty_map, htables, List.isEmpty_map]
  rw [text, text, htables, hempty, h.views]

namespace TableSnapshot

def keyLines (t : TableSnapshot) : List Line :=
  if t.primaryKey.isEmpty then [] else [.primaryKey t.primaryKey]

def details (t : TableSnapshot) : List Line :=
  t.columns.map .column ++ t.keyLines ++ t.indexes.map .index

def lines (t : TableSnapshot) : List Line := .table t.name :: t.details

theorem toList_text (t : TableSnapshot) : t.text.toList = Line.ended t.lines := by
  have hcolumns : (String.join (t.columns.map fun c => "  " ++ c.display ++ "\n")).toList =
      Line.ended (t.columns.map .column) := by
    simp [String.toList_join, Line.ended, List.flatMap_map]
  have hindexes : (String.join (t.indexes.map fun i => "  INDEX " ++ i.display ++ "\n")).toList =
      Line.ended (t.indexes.map .index) := by
    simp [String.toList_join, Line.ended, List.flatMap_map]
  have hkey : (if t.primaryKey.isEmpty = true then "" else
      "  PRIMARY KEY (" ++ ", ".intercalate t.primaryKey ++ ")\n").toList =
        Line.ended t.keyLines := by
    unfold keyLines
    cases t.primaryKey.isEmpty <;> simp [Line.ended]
  have hname : ("TABLE " ++ t.name ++ "\n").toList = Line.ended [.table t.name] := by
    simp [Line.ended]
  rw [text, String.toList_append, String.toList_append, String.toList_append, hname, hcolumns, hkey,
    hindexes]
  show _ = Line.ended ([.table t.name] ++ t.details)
  simp only [details, Line.ended_append, List.append_assoc]

theorem IsPlain.lines (h : t.IsPlain) : ∀ l ∈ t.lines, l.IsPlain := by
  have hkey : ∀ l ∈ t.keyLines, l.IsPlain := by
    unfold keyLines
    split
    · nofun
    · simpa using .primaryKey h.primaryKey
  simp only [TableSnapshot.lines, details, List.forall_mem_cons, List.forall_mem_append,
    List.forall_mem_map]
  exact ⟨.table h.name, ⟨fun c hc => .column (h.columns c hc).1 (h.columns c hc).2, hkey⟩,
    fun i hi => .index (h.indexes i hi)⟩

end TableSnapshot

namespace SchemaSnapshot

def tableLines (tables : List TableSnapshot) : List Line :=
  [Line.blank].intercalate (tables.map TableSnapshot.lines)

def viewLines (s : SchemaSnapshot) : List Line :=
  if s.views.isEmpty then [] else (if s.tables.isEmpty then [] else [.blank]) ++ s.views.map .view

def lines (s : SchemaSnapshot) : List Line := tableLines s.tables ++ s.viewLines

theorem tableLines_cons_cons (t t' : TableSnapshot) (tables : List TableSnapshot) :
    tableLines (t :: t' :: tables) = t.lines ++ .blank :: tableLines (t' :: tables) := by
  rw [tableLines, List.map_cons, List.map_cons, List.intercalate_cons_cons, List.append_assoc]
  rfl

theorem toList_tables (tables : List TableSnapshot) :
    ("\n".intercalate (tables.map TableSnapshot.text)).toList = Line.ended (tableLines tables) := by
  induction tables with
  | nil => rfl
  | cons t tables ih =>
      cases tables with
      | nil => simpa [tableLines] using t.toList_text
      | cons t' tables =>
          simp only [String.toList_intercalate, List.map_cons] at ih
          simp only [String.toList_intercalate, List.map_cons, List.intercalate_cons_cons, ih,
            tableLines_cons_cons, Line.ended_append, t.toList_text]
          exact List.append_assoc ..

theorem toList_views (s : SchemaSnapshot) :
    (if s.views.isEmpty = true then "" else
      (if s.tables.isEmpty = true then "" else "\n") ++ String.join (s.views.map viewLine)).toList =
        Line.ended s.viewLines := by
  have hviews : (String.join (s.views.map viewLine)).toList = Line.ended (s.views.map .view) := by
    simp [String.toList_join, Line.ended, List.flatMap_map, viewLine]
  unfold viewLines
  cases s.views.isEmpty with
  | true => rfl
  | false =>
      cases s.tables.isEmpty
      case true => simpa using hviews
      case false =>
        simp only [Bool.false_eq_true, if_false, String.toList_append, hviews, Line.ended_append]
        rfl

theorem toList_text (s : SchemaSnapshot) : s.text.toList = Line.ended s.lines := by
  rw [text, String.toList_append, toList_tables, toList_views, lines, Line.ended_append]

theorem isPlain_tableLines {tables : List TableSnapshot} (h : ∀ t ∈ tables, t.IsPlain) :
    ∀ l ∈ tableLines tables, l.IsPlain := by
  induction tables with
  | nil => nofun
  | cons t tables ih =>
      obtain ⟨ht, htables⟩ := List.forall_mem_cons.mp h
      cases tables with
      | nil => simpa [tableLines] using ht.lines
      | cons t' tables =>
          rw [tableLines_cons_cons]
          exact List.forall_mem_append.mpr
            ⟨ht.lines, List.forall_mem_cons.mpr ⟨.blank, ih htables⟩⟩

theorem IsPlain.lines (h : s.IsPlain) : ∀ l ∈ s.lines, l.IsPlain := by
  refine List.forall_mem_append.mpr ⟨isPlain_tableLines h.tables, ?_⟩
  have hviews : ∀ l ∈ s.views.map Line.view, l.IsPlain :=
    List.forall_mem_map.mpr fun name hname => .view (h.views name hname)
  unfold viewLines
  split
  · nofun
  · refine List.forall_mem_append.mpr ⟨?_, hviews⟩
    split
    · nofun
    · simpa using .blank

end SchemaSnapshot

structure ReadBack where
  block : TableSnapshot
  rest : SchemaSnapshot

namespace ReadBack

variable {r r' : ReadBack}

def noTable : TableSnapshot := ⟨"", [], [], []⟩

def nothing : ReadBack := ⟨noTable, ⟨[], []⟩⟩

def line : Line → ReadBack → ReadBack
  | .blank, r => r
  | .table name, r => ⟨noTable, ⟨{ r.block with name } :: r.rest.tables, r.rest.views⟩⟩
  | .column c, r => { r with block.columns := c :: r.block.columns }
  | .primaryKey names, r => { r with block.primaryKey := names }
  | .index i, r => { r with block.indexes := i :: r.block.indexes }
  | .view name, r => { r with rest.views := name :: r.rest.views }

def lines (ls : List Line) (r : ReadBack) : ReadBack := ls.foldr line r

theorem lines_append (ls ls' : List Line) (r : ReadBack) :
    lines (ls ++ ls') r = lines ls (lines ls' r) :=
  List.foldr_append

theorem lines_columns (cs : List Column) (r : ReadBack) :
    lines (cs.map .column) r = { r with block.columns := cs ++ r.block.columns } := by
  induction cs with
  | nil => rfl
  | cons c cs ih => exact congrArg (line (.column c)) ih

theorem lines_indexes (is : List Index) (r : ReadBack) :
    lines (is.map .index) r = { r with block.indexes := is ++ r.block.indexes } := by
  induction is with
  | nil => rfl
  | cons i is ih => exact congrArg (line (.index i)) ih

theorem lines_views (names : List String) (r : ReadBack) :
    lines (names.map .view) r = { r with rest.views := names ++ r.rest.views } := by
  induction names with
  | nil => rfl
  | cons name names ih => exact congrArg (line (.view name)) ih

theorem lines_table (t : TableSnapshot) (s : SchemaSnapshot) :
    lines t.lines ⟨noTable, s⟩ = ⟨noTable, ⟨t :: s.tables, s.views⟩⟩ := by
  have hkey : ∀ indexes, lines t.keyLines ⟨{ noTable with indexes }, s⟩ =
      ⟨{ noTable with indexes, primaryKey := t.primaryKey }, s⟩ := by
    intro indexes
    unfold TableSnapshot.keyLines
    split
    -- the key that is not written is the one that a block starts out with
    case isTrue hempty => rw [List.isEmpty_iff.mp hempty]; rfl
    case isFalse => rfl
  have hdetails : lines t.details ⟨noTable, s⟩ = ⟨{ t with name := "" }, s⟩ := by
    rw [TableSnapshot.details, lines_append, lines_append, lines_indexes, lines_columns]
    simp only [noTable, List.append_nil] at hkey ⊢
    rw [hkey, List.append_nil]
  exact congrArg (line (.table t.name)) hdetails

theorem lines_tables (tables : List TableSnapshot) (views : List String) :
    lines (SchemaSnapshot.tableLines tables) ⟨noTable, ⟨[], views⟩⟩ =
      ⟨noTable, ⟨tables, views⟩⟩ := by
  induction tables with
  | nil => rfl
  | cons t tables ih =>
      cases tables with
      | nil =>
          rw [show SchemaSnapshot.tableLines [t] = t.lines by simp [SchemaSnapshot.tableLines]]
          exact lines_table t ⟨[], views⟩
      | cons t' tables =>
          rw [SchemaSnapshot.tableLines_cons_cons, lines_append]
          refine Eq.trans (congrArg (lines t.lines) ih) ?_
          exact lines_table t ⟨t' :: tables, views⟩

theorem lines_schema (s : SchemaSnapshot) : lines s.lines nothing = ⟨noTable, s⟩ := by
  have hviews : lines s.viewLines nothing = ⟨noTable, ⟨[], s.views⟩⟩ := by
    unfold SchemaSnapshot.viewLines
    split
    case isTrue hempty => rw [List.isEmpty_iff.mp hempty]; rfl
    case isFalse =>
      rw [lines_append, lines_views, show s.views ++ nothing.rest.views = s.views from
        List.append_nil _]
      split <;> rfl
  rw [SchemaSnapshot.lines, lines_append, hviews, lines_tables]

structure ShownAs (r r' : ReadBack) : Prop where
  block : r.block.ShownAs r'.block
  rest : r.rest.ShownAs r'.rest

theorem shownAs_nothing : nothing.ShownAs nothing :=
  ⟨⟨rfl, .nil, rfl, rfl⟩, ⟨.nil, rfl⟩⟩

theorem ShownAs.line (hl : l.Same l') (h : r.ShownAs r') :
    (line l r).ShownAs (line l' r') := by
  obtain ⟨⟨hname, hcolumns, hkey, hindexes⟩, htables, hviews⟩ := h
  cases hl with
  | blank => exact ⟨⟨hname, hcolumns, hkey, hindexes⟩, htables, hviews⟩
  | table name =>
      exact ⟨shownAs_nothing.block, .cons ⟨rfl, hcolumns, hkey, hindexes⟩ htables, hviews⟩
  | column hc => exact ⟨⟨hname, .cons hc hcolumns, hkey, hindexes⟩, htables, hviews⟩
  | primaryKey names => exact ⟨⟨hname, hcolumns, rfl, hindexes⟩, htables, hviews⟩
  | index i => exact ⟨⟨hname, hcolumns, hkey, congrArg (i :: ·) hindexes⟩, htables, hviews⟩
  | view name =>
      exact ⟨⟨hname, hcolumns, hkey, hindexes⟩, htables, congrArg (name :: ·) hviews⟩

theorem ShownAs.lines {ls ls' : List Line} (hls : List.Forall₂ Line.Same ls ls')
    (h : r.ShownAs r') : (lines ls r).ShownAs (lines ls' r') := by
  induction hls with
  | nil => exact h
  | cons hl _ ih => exact ih.line hl

end ReadBack

theorem SchemaSnapshot.text_eq_iff (hs : s.IsPlain) (hs' : s'.IsPlain) :
    s.text = s'.text ↔ s.ShownAs s' := by
  constructor
  · intro h
    have hended : Line.ended s.lines = Line.ended s'.lines := by
      rw [← toList_text, ← toList_text, h]
    have hread := ReadBack.shownAs_nothing.lines (Line.same_of_ended hs.lines hs'.lines hended)
    rw [ReadBack.lines_schema, ReadBack.lines_schema] at hread
    exact hread.rest
  · exact ShownAs.text_eq

theorem SchemaSnapshot.text_eq_iff_index :
    let c : Column := ⟨"index", .date, 4, 1, true, false, false, -1, "' pk default '"⟩
    let t : TableSnapshot := ⟨"table", [c], [⟨"unique", true, ["index", "index"]⟩], ["index"]⟩
    let s : SchemaSnapshot := ⟨[t, t], ["view"]⟩
    let s' : SchemaSnapshot := ⟨[{ t with columns := [{ c with width := 8 }] }, t], ["view"]⟩
    let s'' : SchemaSnapshot := ⟨[t, { t with indexes := [⟨"unique", true, ["index"]⟩] }], ["view"]⟩
    s.IsPlain ∧ s'.IsPlain ∧ s''.IsPlain ∧ s.text = s'.text ∧ s ≠ s' ∧ s.text ≠ s''.text := by
  intro c t s s' s''
  have hs : s.IsPlain := by decide +kernel
  have hs' : s'.IsPlain := by decide +kernel
  have hs'' : s''.IsPlain := by decide +kernel
  have hwidth : c.ShownAs { c with width := 8 } := ⟨rfl, rfl, rfl, rfl, rfl, rfl, nofun, nofun⟩
  have hsame : c.ShownAs c := ⟨rfl, rfl, rfl, rfl, rfl, rfl, nofun, nofun⟩
  refine ⟨hs, hs', hs'', (text_eq_iff hs hs').mpr ?_, by decide, fun h => ?_⟩
  · exact ⟨.cons ⟨rfl, .cons hwidth .nil, rfl, rfl⟩ (.cons ⟨rfl, .cons hsame .nil, rfl, rfl⟩ .nil),
      rfl⟩
  · obtain ⟨hfirst, hrest⟩ := List.forall₂_cons.mp ((text_eq_iff hs hs'').mp h).tables
    obtain ⟨hsecond, -⟩ := List.forall₂_cons.mp hrest
    exact absurd hsecond.indexes (by decide)

end DatabaseSchema
