import DatabaseSchema.Proofs.Rendering.Clauses

namespace DatabaseSchema

open Text

variable {c : Column} {i : Index} {names : List String} {l l' : Line}

inductive Line where
  | blank
  | table (name : String)
  | column (c : Column)
  | primaryKey (names : List String)
  | index (i : Index)
  | view (name : String)

namespace Line

def text : Line → String
  | blank => ""
  | table name => "TABLE " ++ name
  | column c => "  " ++ c.display
  | primaryKey names => "  PRIMARY KEY (" ++ ", ".intercalate names ++ ")"
  | index i => "  INDEX " ++ i.display
  | view name => "VIEW " ++ name

@[simp] theorem text_blank : blank.text = "" := rfl

@[simp] theorem text_table (name : String) : (table name).text = "TABLE " ++ name := rfl

@[simp] theorem text_column (c : Column) : (column c).text = "  " ++ c.display := rfl

@[simp] theorem text_primaryKey (names : List String) :
    (primaryKey names).text = "  PRIMARY KEY (" ++ ", ".intercalate names ++ ")" := rfl

@[simp] theorem text_index (i : Index) : (index i).text = "  INDEX " ++ i.display := rfl

@[simp] theorem text_view (name : String) : (view name).text = "VIEW " ++ name := rfl

inductive IsPlain : Line → Prop where
  | blank : IsPlain blank
  | table {name : String} : IsWord name → IsPlain (table name)
  | column {c : Column} : IsWord c.name → '\n' ∉ c.defaultValue.toList → IsPlain (column c)
  | primaryKey {names : List String} : (∀ name ∈ names, IsWord name) → IsPlain (primaryKey names)
  | index {i : Index} : i.IsPlain → IsPlain (index i)
  | view {name : String} : IsWord name → IsPlain (view name)

inductive Same : Line → Line → Prop where
  | blank : Same blank blank
  | table (name : String) : Same (table name) (table name)
  | column {c d : Column} : c.ShownAs d → Same (column c) (column d)
  | primaryKey (names : List String) : Same (primaryKey names) (primaryKey names)
  | index (i : Index) : Same (index i) (index i)
  | view (name : String) : Same (view name) (view name)

theorem IsPlain.newline_not_mem (h : l.IsPlain) : '\n' ∉ l.text.toList := by
  have hbreak : isBreak '\n' = true := by decide
  cases h with
  | blank => exact List.not_mem_nil
  | table hname => simp [hname.not_mem hbreak]
  | column hname hdefault => simp [Column.newline_not_mem_display hname hdefault]
  | primaryKey hnames =>
      have hcommas := not_mem_commas (c := '\n') (by decide) hbreak hnames
      simp only [text_primaryKey, String.toList_append, List.mem_append, hcommas]
      simp
  | index hi => simp [Index.newline_not_mem_display hi]
  | view hname => simp [hname.not_mem hbreak]

def start : Line → List Char
  | blank => []
  | table _ => ['T', 'A']
  | view _ => ['V', 'I']
  | column _ | primaryKey _ | index _ => [' ', ' ']

theorem take_text (l : Line) : l.text.toList.take 2 = l.start := by
  have htwo : ∀ {a b : Char} {first rest : String}, first.toList.take 2 = [a, b] →
      (first ++ rest).toList.take 2 = [a, b] := by
    intro a b first rest h
    have hlength : min 2 first.toList.length = 2 := by
      rw [← List.length_take, h]
      rfl
    rw [String.toList_append, List.take_append_of_le_length (by omega), h]
  cases l with
  | blank => rfl
  | primaryKey names => exact htwo (htwo rfl)
  | _ => exact htwo rfl

theorem start_eq (h : l.text = l'.text) : l.start = l'.start := by
  rw [← take_text, ← take_text, h]

theorem column_ne_primaryKey (hc : IsWord c.name) : (column c).text ≠ (primaryKey names).text := by
  intro h
  have hlist : c.name.toList ++ ' ' :: (c.dataType.name.toList ++ c.typeText) =
      "PRIMARY".toList ++ ' ' :: ("KEY".toList ++
        ' ' :: '(' :: ((", ".intercalate names).toList ++ [')'])) := by
    have hlist : ("  " ++ c.display).toList =
        ("  PRIMARY KEY (" ++ ", ".intercalate names ++ ")").toList := congrArg String.toList h
    simp only [String.toList_append, c.toList_display] at hlist
    simpa using hlist
  -- the column may go by that name, but no type does by the word that follows
  obtain ⟨-, hlist⟩ := append_cons_inj (hc.not_mem (by decide)) (by decide) hlist
  have hkey : ∀ x ∈ "KEY".toList, isBreak x = false := by simp; decide
  obtain ⟨htype, -⟩ := append_inj_of_breaks (DataType.name_whole c.dataType) hkey c.typeText_breaks
    (by rintro _ ⟨⟩; decide) hlist
  revert htype
  cases c.dataType <;> decide

theorem column_ne_index (hc : IsWord c.name) (hi : i.IsPlain) :
    (column c).text ≠ (index i).text := by
  intro h
  have hlist : ("  " ++ c.display).toList = ("  INDEX " ++ i.display).toList :=
    congrArg String.toList h
  simp only [String.toList_append] at hlist
  refine Column.display_ne_index hc hi.name (String.toList_inj.mp ?_)
  simpa using hlist

theorem primaryKey_ne_index : (primaryKey names).text ≠ (index i).text := by
  intro h
  have hlist : ("  PRIMARY KEY (" ++ ", ".intercalate names ++ ")").toList =
      ("  INDEX " ++ i.display).toList := congrArg String.toList h
  simp at hlist

theorem same_of_text (h : l.IsPlain) (h' : l'.IsPlain) (heq : l.text = l'.text) : l.Same l' := by
  have hstart := start_eq heq
  cases h with
  | blank =>
      cases h' with
      | blank => exact .blank
      | _ => simp [start] at hstart
  | table =>
      cases h' with
      | table =>
          obtain rfl := (String.append_right_inj _).mp heq
          exact .table _
      | _ => simp [start] at hstart
  | view =>
      cases h' with
      | view =>
          obtain rfl := (String.append_right_inj _).mp heq
          exact .view _
      | _ => simp [start] at hstart
  | column hc =>
      cases h' with
      | column hd =>
          exact .column (Column.shownAs_of_display hc hd ((String.append_right_inj _).mp heq))
      | primaryKey => exact absurd heq (column_ne_primaryKey hc)
      | index hi => exact absurd heq (column_ne_index hc hi)
      | _ => simp [start] at hstart
  | primaryKey hnames =>
      cases h' with
      | column hd => exact absurd heq.symm (column_ne_primaryKey hd)
      | primaryKey hnames' =>
          have hcommas := (String.append_right_inj _).mp ((String.append_left_inj _).mp heq)
          obtain rfl := commas_inj hnames hnames' (congrArg String.toList hcommas)
          exact .primaryKey _
      | index => exact absurd heq primaryKey_ne_index
      | _ => simp [start] at hstart
  | index hi =>
      cases h' with
      | column hd => exact absurd heq.symm (column_ne_index hd hi)
      | primaryKey => exact absurd heq.symm primaryKey_ne_index
      | index hj =>
          obtain rfl := Index.eq_of_display hi hj ((String.append_right_inj _).mp heq)
          exact .index _
      | _ => simp [start] at hstart

variable {ls ls' : List Line}

def ended (ls : List Line) : List Char := ls.flatMap fun l => l.text.toList ++ ['\n']

theorem ended_append (ls ls' : List Line) : ended (ls ++ ls') = ended ls ++ ended ls' :=
  List.flatMap_append

theorem same_of_ended (h : ∀ l ∈ ls, l.IsPlain) (h' : ∀ l ∈ ls', l.IsPlain)
    (heq : ended ls = ended ls') : List.Forall₂ Same ls ls' := by
  induction ls generalizing ls' with
  | nil =>
      cases ls' with
      | nil => exact .nil
      | cons l' ls' => simp [ended] at heq
  | cons l ls ih =>
      cases ls' with
      | nil => simp [ended] at heq
      | cons l' ls' =>
          obtain ⟨hl, hls⟩ := List.forall_mem_cons.mp h
          obtain ⟨hl', hls'⟩ := List.forall_mem_cons.mp h'
          simp only [ended, List.flatMap_cons, List.append_assoc, List.singleton_append] at heq
          obtain ⟨htext, hrest⟩ := append_cons_inj hl.newline_not_mem hl'.newline_not_mem heq
          exact .cons (same_of_text hl hl' (String.toList_inj.mp htext)) (ih hls hls' hrest)

end Line

end DatabaseSchema
