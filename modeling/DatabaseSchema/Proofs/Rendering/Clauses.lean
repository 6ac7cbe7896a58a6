import DatabaseSchema.Proofs.Json.Scalars
import DatabaseSchema.Proofs.Text.Words
import DatabaseSchema.Snapshot
import Mathlib

namespace DatabaseSchema

open Text

variable {b b' : Bool} {x : Char} {starts starts' : List Char} {text text' rest rest' : List Char}
  {c d : Column} {i j : Index}

namespace Text

theorem isWord_toString (n : Int) : IsWord (toString n) := by
  have hdigits : ∀ m, ∀ c ∈ Nat.toDigits 10 m, isBreak c = false :=
    fun m c hc => isBreak_of_isDigit (Json.isDigit_toDigits m c hc)
  have hne : ∀ m, Nat.toDigits 10 m ≠ [] := fun m => Nat.toDigits_ne_nil
  cases n with
  | ofNat m =>
      refine ⟨fun hempty => hne m ?_, ?_⟩
      · rw [← Json.toList_toString_ofNat, hempty]
        rfl
      · rw [Json.toList_toString_ofNat]
        exact hdigits m
  | negSucc m =>
      refine ⟨fun hempty => ?_, ?_⟩
      · have hlist := Json.toList_toString_negSucc m
        rw [hempty] at hlist
        cases hlist
      · rw [Json.toList_toString_negSucc]
        exact List.forall_mem_cons.mpr ⟨by decide, hdigits (m + 1)⟩

def shownIf (present : Bool) (text : List Char) : List Char := if present then text else []

def Clauses (starts : List Char) (text : List Char) : Prop :=
  text = [] ∨ ∃ x ∈ starts, ∃ rest, text = ' ' :: x :: rest

theorem Clauses.shownIf (h : Clauses starts rest) :
    Clauses (x :: starts) (shownIf b (' ' :: x :: text) ++ rest) := by
  cases b with
  | true => exact .inr ⟨x, List.mem_cons_self, text ++ rest, rfl⟩
  | false =>
      obtain hnil | ⟨y, hy, more, hrest⟩ := h
      · exact .inl hnil
      · exact .inr ⟨y, List.mem_cons_of_mem x hy, more, hrest⟩

theorem Clauses.breaks (h : Clauses starts text) : ∀ x ∈ text.head?, isBreak x = true := by
  obtain rfl | ⟨x, -, rest, rfl⟩ := h
  · nofun
  · rintro _ ⟨⟩
    decide

theorem Clauses.eq_nil (h : Clauses starts text) (h' : Clauses starts' text)
    (hdisjoint : ∀ x ∈ starts, x ∉ starts') : text = [] := by
  obtain hnil | ⟨x, hx, rest, rfl⟩ := h
  · exact hnil
  · obtain hnil | ⟨y, hy, rest', heq⟩ := h'
    · exact hnil
    · cases heq
      exact absurd hy (hdisjoint x hx)

theorem shownIf_append_inj (hrest : Clauses starts rest) (hrest' : Clauses starts rest')
    (hx : x ∉ starts)
    (h : shownIf b (' ' :: x :: text) ++ rest = shownIf b' (' ' :: x :: text') ++ rest') :
    b = b' ∧ (b = true → text ++ rest = text' ++ rest') ∧ (b = false → rest = rest') := by
  have hother : ∀ {text rest : List Char}, Clauses starts (' ' :: x :: text ++ rest) → False := by
    rintro text rest (hnil | ⟨y, hy, more, heq⟩)
    · cases hnil
    · cases heq
      exact hx hy
  cases b <;> cases b'
  case false.false => exact ⟨rfl, nofun, fun _ => h⟩
  case false.true =>
    rw [show rest = ' ' :: x :: text' ++ rest' from h] at hrest
    exact absurd hrest hother
  case true.false =>
    rw [← show ' ' :: x :: text ++ rest = rest' from h] at hrest'
    exact absurd hrest' hother
  case true.true =>
    have htail := (List.cons.inj (List.cons.inj h).2).2
    exact ⟨rfl, fun _ => htail, nofun⟩

theorem mem_shownIf : x ∈ shownIf b text ↔ b = true ∧ x ∈ text := by
  cases b <;> simp [shownIf]

theorem toList_shownIf (b : Bool) (s : String) :
    (if b = true then s else "").toList = shownIf b s.toList := by
  cases b <;> rfl

end Text

theorem DataType.name_whole (t : DataType) : ∀ x ∈ t.name.toList, isBreak x = false := by
  have hall : t.name.toList.all (!isBreak ·) = true := by cases t <;> decide
  intro x hx
  simpa using List.all_eq_true.mp hall x hx

theorem DataType.name_injective {t u : DataType} (h : t.name = u.name) : t = u :=
  Option.some.inj ((DataType.ofName?_name t).symm.trans (h ▸ DataType.ofName?_name u))

structure Column.ShownAs (c d : Column) : Prop where
  name : c.name = d.name
  dataType : c.dataType = d.dataType
  primaryKey : c.primaryKey = d.primaryKey
  nullable : c.nullable = d.nullable
  autonumbered : c.autonumbered = d.autonumbered
  defaultValue : c.defaultValue = d.defaultValue
  width : c.dataType.hasWidth = true → c.width = d.width ∧ c.scale = d.scale
  autonumberStart : c.autonumbered = true → c.autonumberStart = d.autonumberStart

namespace Column

def defaultText (c : Column) : List Char :=
  shownIf (!c.defaultValue.isEmpty)
    (' ' :: 'D' :: ("EFAULT '".toList ++ (c.defaultValue.toList ++ ['\''])))

def numberText (c : Column) : List Char :=
  shownIf c.autonumbered (' ' :: 'A' ::
    ("UTONUMBER(".toList ++ ((toString c.autonumberStart.toInt).toList ++ [')']))) ++ c.defaultText

def nullText (c : Column) : List Char :=
  shownIf (!c.nullable) (' ' :: 'N' :: "OT NULL".toList) ++ c.numberText

def keyText (c : Column) : List Char :=
  shownIf c.primaryKey (' ' :: 'P' :: "K".toList) ++ c.nullText

def widthText (c : Column) : List Char :=
  (toString c.width.toInt).toList ++ ',' :: ((toString c.scale.toInt).toList ++ [')'])

def typeText (c : Column) : List Char :=
  shownIf c.dataType.hasWidth ('(' :: c.widthText) ++ c.keyText

theorem toList_display (c : Column) :
    c.display.toList = c.name.toList ++ ' ' :: (c.dataType.name.toList ++ c.typeText) := by
  have hnull : (if c.nullable = true then "" else " NOT NULL").toList =
      shownIf (!c.nullable) (' ' :: 'N' :: "OT NULL".toList) := by
    cases c.nullable <;> rfl
  have hdefault : (if c.defaultValue.isEmpty = true then ""
      else " DEFAULT '" ++ c.defaultValue ++ "'").toList = c.defaultText := by
    unfold defaultText
    cases c.defaultValue.isEmpty <;> simp [shownIf]
  simp only [display, String.toList_append, toList_shownIf, hnull, hdefault]
  simp [typeText, widthText, keyText, nullText, numberText]

theorem clauses_defaultText (c : Column) : Clauses ['D'] c.defaultText := by
  rw [← List.append_nil c.defaultText]
  exact Clauses.shownIf (.inl rfl)

theorem clauses_numberText (c : Column) : Clauses ['A', 'D'] c.numberText :=
  c.clauses_defaultText.shownIf

theorem clauses_nullText (c : Column) : Clauses ['N', 'A', 'D'] c.nullText :=
  c.clauses_numberText.shownIf

theorem clauses_keyText (c : Column) : Clauses ['P', 'N', 'A', 'D'] c.keyText :=
  c.clauses_nullText.shownIf

theorem typeText_breaks (c : Column) : ∀ x ∈ c.typeText.head?, isBreak x = true := by
  unfold typeText
  cases c.dataType.hasWidth with
  | true =>
      rintro _ ⟨⟩
      decide
  | false => exact c.clauses_keyText.breaks

theorem int32_eq_of_words {m n : Int32} {y : Char} (hy : isBreak y = true)
    (h : (toString m.toInt).toList ++ y :: text = (toString n.toInt).toList ++ y :: text') :
    m = n ∧ text = text' := by
  obtain ⟨hnumber, hrest⟩ := append_cons_inj ((isWord_toString _).not_mem hy)
    ((isWord_toString _).not_mem hy) h
  exact ⟨Int32.toInt_inj.mp (Int.repr_injective (String.toList_inj.mp hnumber)), hrest⟩

theorem defaultValue_eq (h : c.defaultText = d.defaultText) : c.defaultValue = d.defaultValue := by
  have hnil : Clauses [] [] := .inl rfl
  rw [← List.append_nil c.defaultText, ← List.append_nil d.defaultText] at h
  obtain ⟨hempty, htext, -⟩ := shownIf_append_inj hnil hnil nofun h
  cases hc : c.defaultValue.isEmpty with
  | true =>
      have hd : d.defaultValue.isEmpty = true := by simpa [hc] using hempty
      rw [String.isEmpty_iff.mp hc, String.isEmpty_iff.mp hd]
  | false =>
      have htext' := htext (by rw [hc]; rfl)
      simp only [List.append_nil] at htext'
      exact String.toList_inj.mp (List.append_cancel_right (List.append_cancel_left htext'))

theorem numbers_eq (h : c.numberText = d.numberText) : c.autonumbered = d.autonumbered ∧
    (c.autonumbered = true → c.autonumberStart = d.autonumberStart) ∧
      c.defaultText = d.defaultText := by
  obtain ⟨hflag, hnumbered, hplain⟩ :=
    shownIf_append_inj c.clauses_defaultText d.clauses_defaultText (by decide) h
  cases hc : c.autonumbered with
  | false => exact ⟨hc.symm.trans hflag, nofun, hplain hc⟩
  | true =>
      have hnumber := hnumbered hc
      simp only [List.append_assoc, List.singleton_append] at hnumber
      obtain ⟨hstart, hrest⟩ := int32_eq_of_words (by decide) (List.append_cancel_left hnumber)
      exact ⟨hc.symm.trans hflag, fun _ => hstart, hrest⟩

theorem flags_eq (h : c.keyText = d.keyText) :
    c.primaryKey = d.primaryKey ∧ c.nullable = d.nullable ∧ c.numberText = d.numberText := by
  have hrest : ∀ {b : Bool} {text rest rest' : List Char},
      (b = true → text ++ rest = text ++ rest') ∧ (b = false → rest = rest') → rest = rest' := by
    rintro (_ | _) text rest rest' ⟨hpresent, habsent⟩
    · exact habsent rfl
    · exact List.append_cancel_left (hpresent rfl)
  obtain ⟨hkey, hkey'⟩ := shownIf_append_inj c.clauses_nullText d.clauses_nullText (by decide) h
  obtain ⟨hnull, hnull'⟩ :=
    shownIf_append_inj c.clauses_numberText d.clauses_numberText (by decide) (hrest hkey')
  exact ⟨hkey, by simpa using hnull, hrest hnull'⟩

theorem widths_eq (htype : c.dataType = d.dataType) (h : c.typeText = d.typeText) :
    (c.dataType.hasWidth = true → c.width = d.width ∧ c.scale = d.scale) ∧
      c.keyText = d.keyText := by
  unfold typeText at h
  rw [← htype] at h
  cases hc : c.dataType.hasWidth with
  | false =>
      rw [hc] at h
      exact ⟨nofun, h⟩
  | true =>
      rw [hc] at h
      have hnumbers : c.widthText ++ c.keyText = d.widthText ++ d.keyText := (List.cons.inj h).2
      simp only [widthText, List.append_assoc, List.cons_append] at hnumbers
      obtain ⟨hwidth, hrest⟩ := int32_eq_of_words (by decide) hnumbers
      obtain ⟨hscale, hrest⟩ := int32_eq_of_words (by decide) hrest
      exact ⟨fun _ => ⟨hwidth, hscale⟩, hrest⟩

theorem shownAs_of_display (hc : IsWord c.name) (hd : IsWord d.name) (h : c.display = d.display) :
    c.ShownAs d := by
  have hlist := congrArg String.toList h
  rw [toList_display, toList_display] at hlist
  obtain ⟨hname, hlist⟩ := append_cons_inj (hc.not_mem (by decide)) (hd.not_mem (by decide)) hlist
  obtain ⟨htype, hlist⟩ := append_inj_of_breaks (DataType.name_whole c.dataType)
    (DataType.name_whole d.dataType) c.typeText_breaks d.typeText_breaks hlist
  have htype : c.dataType = d.dataType := DataType.name_injective (String.toList_inj.mp htype)
  obtain ⟨hwidth, hkey⟩ := widths_eq htype hlist
  obtain ⟨hprimaryKey, hnullable, hnumbers⟩ := flags_eq hkey
  obtain ⟨hautonumbered, hstart, hdefault⟩ := numbers_eq hnumbers
  exact ⟨String.toList_inj.mp hname, htype, hprimaryKey, hnullable, hautonumbered,
    defaultValue_eq hdefault, hwidth, hstart⟩

theorem ShownAs.display_eq (h : c.ShownAs d) : c.display = d.display := by
  have hwidth : (if c.dataType.hasWidth = true then
      "(" ++ toString c.width.toInt ++ "," ++ toString c.scale.toInt ++ ")" else "") =
      if d.dataType.hasWidth = true then
        "(" ++ toString d.width.toInt ++ "," ++ toString d.scale.toInt ++ ")" else "" := by
    rw [← h.dataType]
    refine if_ctx_congr Iff.rfl (fun hw => ?_) fun _ => rfl
    rw [(h.width hw).1, (h.width hw).2]
  have hnumber : (if c.autonumbered = true then
      " AUTONUMBER(" ++ toString c.autonumberStart.toInt ++ ")" else "") =
      if d.autonumbered = true then
        " AUTONUMBER(" ++ toString d.autonumberStart.toInt ++ ")" else "" := by
    rw [← h.autonumbered]
    refine if_ctx_congr Iff.rfl (fun hnumbered => ?_) fun _ => rfl
    rw [h.autonumberStart hnumbered]
  rw [display, display, hwidth, hnumber, h.name, h.dataType, h.primaryKey, h.nullable,
    h.defaultValue]

theorem newline_not_mem_display (hname : IsWord c.name) (h : '\n' ∉ c.defaultValue.toList) :
    '\n' ∉ c.display.toList := by
  have hname' : '\n' ∉ c.name.toList := hname.not_mem (by decide)
  have htype : '\n' ∉ c.dataType.name.toList := fun hmem =>
    absurd (DataType.name_whole c.dataType _ hmem) (by decide)
  have hnumber : ∀ n : Int, '\n' ∉ n.repr.toList := fun n => (isWord_toString n).not_mem (by decide)
  rw [toList_display]
  simp [typeText, widthText, keyText, nullText, numberText, defaultText, mem_shownIf, hname', htype,
    hnumber, h]

end Column

namespace Index

def listText (i : Index) : List Char :=
  ' ' :: '(' :: ((", ".intercalate i.columnNames).toList ++ [')'])

def uniqueText (i : Index) : List Char :=
  shownIf i.unique (' ' :: 'U' :: "NIQUE".toList) ++ i.listText

theorem toList_display (i : Index) : i.display.toList = i.name.toList ++ i.uniqueText := by
  simp only [display, String.toList_append, toList_shownIf]
  simp [uniqueText, listText]

theorem clauses_listText (i : Index) : Clauses ['('] i.listText :=
  .inr ⟨'(', List.mem_singleton_self _, _, rfl⟩

theorem clauses_uniqueText (i : Index) : Clauses ['U', '('] i.uniqueText :=
  i.clauses_listText.shownIf

theorem uniqueText_ne_nil (i : Index) : i.uniqueText ≠ [] :=
  List.append_ne_nil_of_right_ne_nil _ (List.cons_ne_nil _ _)

structure IsPlain (i : Index) : Prop where
  name : IsWord i.name
  columnNames : ∀ name ∈ i.columnNames, IsWord name

instance : DecidablePred IsPlain := fun i =>
  decidable_of_iff (IsWord i.name ∧ ∀ name ∈ i.columnNames, IsWord name)
    ⟨fun h => ⟨h.1, h.2⟩, fun h => ⟨h.name, h.columnNames⟩⟩

theorem eq_of_display (hi : i.IsPlain) (hj : j.IsPlain) (h : i.display = j.display) : i = j := by
  have hlist := congrArg String.toList h
  rw [toList_display, toList_display] at hlist
  obtain ⟨hname, hlist⟩ := append_inj_of_breaks hi.name.whole hj.name.whole
    i.clauses_uniqueText.breaks j.clauses_uniqueText.breaks hlist
  obtain ⟨hunique, hpresent, habsent⟩ :=
    shownIf_append_inj i.clauses_listText j.clauses_listText (by decide) hlist
  have hnames : i.listText = j.listText := by
    cases hu : i.unique with
    | true => exact List.append_cancel_left (hpresent hu)
    | false => exact habsent hu
  have hnames' := List.append_cancel_right (List.cons.inj (List.cons.inj hnames).2).2
  obtain ⟨name, unique, columnNames⟩ := i
  obtain ⟨name', unique', columnNames'⟩ := j
  obtain rfl : name = name' := String.toList_inj.mp hname
  obtain rfl : unique = unique' := hunique
  obtain rfl : columnNames = columnNames' := commas_inj hi.columnNames hj.columnNames hnames'
  rfl

theorem newline_not_mem_display (hi : i.IsPlain) : '\n' ∉ i.display.toList := by
  have hname : '\n' ∉ i.name.toList := hi.name.not_mem (by decide)
  have hnames : '\n' ∉ (", ".intercalate i.columnNames).toList :=
    not_mem_commas (by decide) (by decide) hi.columnNames
  rw [toList_display]
  simp only [uniqueText, listText, List.mem_append, List.mem_cons, mem_shownIf, hname, hnames]
  simp

end Index

theorem Column.display_ne_index (hc : IsWord c.name) (hi : IsWord i.name) :
    c.display ≠ "INDEX " ++ i.display := by
  intro h
  have hlist : c.name.toList ++ ' ' :: (c.dataType.name.toList ++ c.typeText) =
      "INDEX".toList ++ ' ' :: (i.name.toList ++ i.uniqueText) := by
    rw [← c.toList_display, ← i.toList_display, h]
    simp
  obtain ⟨-, hlist⟩ := append_cons_inj (hc.not_mem (by decide)) (by decide) hlist
  obtain ⟨-, hrest⟩ := append_inj_of_breaks (DataType.name_whole c.dataType) hi.whole
    c.typeText_breaks i.clauses_uniqueText.breaks hlist
  -- the index may go by the name of a type, and then the clauses tell them apart
  unfold typeText at hrest
  have hunique := i.clauses_uniqueText
  cases hwidth : c.dataType.hasWidth with
  | true =>
      rw [hwidth] at hrest
      rw [← hrest] at hunique
      obtain hnil | ⟨_, _, _, heq⟩ := hunique
      · cases hnil
      · cases heq
  | false =>
      rw [hwidth] at hrest
      rw [← show c.keyText = i.uniqueText from hrest] at hunique
      refine i.uniqueText_ne_nil ?_
      rw [← show c.keyText = i.uniqueText from hrest]
      exact c.clauses_keyText.eq_nil hunique (by simp)

end DatabaseSchema
