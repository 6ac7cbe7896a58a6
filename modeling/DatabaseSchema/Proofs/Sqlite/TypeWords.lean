import DatabaseSchema.Policy
import DatabaseSchema.Proofs.Sqlite.DeclaredTypes
import DatabaseSchema.Proofs.Text.Containment

namespace DatabaseSchema.Sqlite.DeclaredType

open Text

variable {name : String}

def typedWords : List String :=
  ["INT", "BOOL", "CLOB", "CHAR", "TEXT", "BLOB", "BINARY", "DOUB", "FLOA", "REAL", "DEC",
    "NUMERIC"]

structure Timed (name : String) : Prop where
  untyped : ∀ word ∈ typedWords, ¬IsPart word name
  timed : IsPart "DATETIME" name ∨ IsPart "TIMESTAMP" name ∨
    (IsPart "TIME" name ∧ ¬IsPart "DATE" name)

theorem Timed.isPart_time (h : Timed name) : IsPart "TIME" name := by
  obtain htime | htime | ⟨htime, -⟩ := h.timed
  · exact IsPart.trans (by decide) htime
  · exact IsPart.trans (by decide) htime
  · exact htime

theorem not_timed_of_word {word : String} (hword : word ∈ typedWords) (h : IsPart word name) :
    ¬Timed name :=
  fun ht => ht.untyped word hword h

theorem ne_empty_of_isPart {word : String} (hword : word ≠ "") (h : IsPart word name) :
    name ≠ "" := by
  rintro rfl
  exact hword (String.toList_eq_nil_iff.mp (List.infix_nil.mp h))

theorem not_isPart_int {word : String} (hword : IsPart "INT" word) (h : ¬IsPart "INT" name) :
    ¬IsPart word name :=
  fun hname => h (hword.trans hname)

theorem dataType?_bigInteger (h : IsPart "BIGINT" name) :
    TypeCode.dataType? (codeOf name) = some .bigInteger := by
  have hne : name ≠ "" := ne_empty_of_isPart (by decide) h
  have hcode : codeOf name = -5 := by simp [codeOf, contains_iff, hne, h]
  rw [hcode]
  rfl

theorem dataType?_integer (h : IsPart "INT" name) (hbig : ¬IsPart "BIGINT" name) :
    TypeCode.dataType? (codeOf name) = some .integer := by
  have hne : name ≠ "" := ne_empty_of_isPart (by decide) h
  simp only [codeOf, contains_iff, String.isEmpty_iff, hne, h, hbig, if_true, if_false]
  split
  next => rfl
  next => split <;> rfl

-- The code of a name without integers: those of times stand for no data type, and of the others
-- none stands for integers.
inductive OtherCode (name : String) : Int32 → Prop where
  | known {code : Int32} {type : DataType} : ¬Timed name → TypeCode.dataType? code = some type →
      type ≠ .integer → type ≠ .bigInteger → OtherCode name code
  | time {code : Int32} : Timed name → TypeCode.dataType? code = none → OtherCode name code

theorem otherCode_of_word {word : String} {code : Int32} {type : DataType}
    (hword : word ∈ typedWords) (hcode : TypeCode.dataType? code = some type)
    (hinteger : type ≠ .integer) (hbigInteger : type ≠ .bigInteger) (h : IsPart word name) :
    OtherCode name code :=
  .known (not_timed_of_word hword h) hcode hinteger hbigInteger

theorem otherCode_codeOf (hint : ¬IsPart "INT" name) : OtherCode name (codeOf name) := by
  have hbig : ¬IsPart "BIGINT" name := not_isPart_int (by decide) hint
  have htiny : ¬IsPart "TINYINT" name := not_isPart_int (by decide) hint
  have hsmall : ¬IsPart "SMALLINT" name := not_isPart_int (by decide) hint
  simp only [codeOf, contains_iff, hbig, htiny, hsmall, hint, if_false, Bool.or_eq_true,
    String.isEmpty_iff, beq_iff_eq]
  -- rule by rule, as the name is looked through
  refine iteInduction (fun h => .known (fun ht => ?_) rfl (by decide) (by decide)) fun _ => ?_
  · exact absurd (h ▸ ht.isPart_time) (by decide)
  refine iteInduction (fun h => ?_) fun hbool => ?_
  · obtain h | h := h
    · exact otherCode_of_word (by decide) rfl (by decide) (by decide) h
    · exact .known (fun ht => absurd (h ▸ ht.isPart_time) (by decide)) rfl (by decide) (by decide)
  refine iteInduction (otherCode_of_word (by decide) rfl (by decide) (by decide)) fun hclob => ?_
  refine iteInduction (fun h => ?_) fun hchar => ?_
  · refine iteInduction (fun _ => ?_) fun _ => ?_
    · exact otherCode_of_word (by decide) rfl (by decide) (by decide) h
    · exact otherCode_of_word (by decide) rfl (by decide) (by decide) h
  refine iteInduction (otherCode_of_word (by decide) rfl (by decide) (by decide)) fun htext => ?_
  refine iteInduction (otherCode_of_word (by decide) rfl (by decide) (by decide)) fun hblob => ?_
  refine iteInduction (otherCode_of_word (by decide) rfl (by decide) (by decide)) fun hbinary => ?_
  refine iteInduction (otherCode_of_word (by decide) rfl (by decide) (by decide)) fun hdoub => ?_
  refine iteInduction (otherCode_of_word (by decide) rfl (by decide) (by decide)) fun hfloa => ?_
  refine iteInduction (otherCode_of_word (by decide) rfl (by decide) (by decide)) fun hreal => ?_
  refine iteInduction (otherCode_of_word (by decide) rfl (by decide) (by decide)) fun hdec => ?_
  refine iteInduction (otherCode_of_word (by decide) rfl (by decide) (by decide)) fun hnumeric => ?_
  have huntyped : ∀ word ∈ typedWords, ¬IsPart word name := by
    simp only [typedWords, List.forall_mem_cons]
    exact ⟨hint, fun h => hbool (.inl h), hclob, hchar, htext, hblob, hbinary, hdoub, hfloa, hreal,
      hdec, hnumeric, by simp⟩
  refine iteInduction (fun h => .time ⟨huntyped, h.imp_right .inl⟩ rfl) fun hstamp => ?_
  refine iteInduction (fun h => .known (fun ht => ?_) rfl (by decide) (by decide)) fun hdate => ?_
  · obtain htime | htime | ⟨-, hdate⟩ := ht.timed
    · exact hstamp (.inl htime)
    · exact hstamp (.inr htime)
    · exact hdate h
  refine iteInduction (fun h => .time ⟨huntyped, .inr (.inr ⟨h, hdate⟩)⟩ rfl) fun h => ?_
  exact .known (fun ht => h ht.isPart_time) rfl (by decide) (by decide)

def baseName (declared : String) : String :=
  trim (upper (String.ofList (declared.toList.takeWhile (· != '('))))

theorem not_mem_upper_takeWhile (cs : List Char) :
    '(' ∉ (cs.takeWhile (· != '(')).flatMap upperChar := by
  have hcaseless : Caseless '(' := caseless_of_isCaseless (by decide +kernel)
  intro hmem
  obtain ⟨c, hc, hupper⟩ := List.mem_flatMap.mp hmem
  obtain rfl := hcaseless.eq_of_mem c hupper
  simpa using List.mem_takeWhile_imp hc

theorem dropWhile_bracket (cs : List Char) :
    cs.dropWhile (· != '(') = [] ∨ ∃ rest, cs.dropWhile (· != '(') = '(' :: rest := by
  have hhead := List.head?_dropWhile_not (· != '(') cs
  cases hrest : cs.dropWhile (· != '(') with
  | nil => exact .inl rfl
  | cons c rest =>
      rw [hrest] at hhead
      obtain rfl : c = '(' := by simpa using hhead
      exact .inr ⟨rest, rfl⟩

theorem classify_baseName (declared : String) :
    ∃ width scale,
      classify declared = ⟨codeOf (baseName declared), baseName declared, width, scale⟩ := by
  have hname : baseName declared = String.ofList (trimChars
      ((declared.toList.takeWhile (· != '(')).flatMap upperChar)) := by
    simp [baseName, trim, upper]
  have hfree := not_mem_upper_takeWhile declared.toList
  have hcut := List.takeWhile_append_dropWhile (p := (· != '(')) (l := declared.toList)
  rw [hname, classify_eq]
  obtain hrest | ⟨rest, hrest⟩ := dropWhile_bracket declared.toList
  · have hall : declared.toList.takeWhile (· != '(') = declared.toList := by
      rwa [hrest, List.append_nil] at hcut
    rw [hall] at hfree ⊢
    exact ⟨0, 0, ofUpper_name hfree⟩
  · have hopening : upperChar '(' = ['('] := by decide
    have hupper : declared.toList.flatMap upperChar =
        (declared.toList.takeWhile (· != '(')).flatMap upperChar ++
          '(' :: rest.flatMap upperChar := by
      conv_lhs => rw [← hcut, hrest, List.flatMap_append, List.flatMap_cons, hopening,
        List.singleton_append]
    rw [hupper]
    exact ⟨_, _, ofUpper_bracket hfree _⟩

theorem dataType_classify (declared : String) :
    let t : DeclaredType := classify declared
    let name := baseName declared
    let outcome := TypeCode.dataType t.typeCode t.typeName t.width
    ((∃ e, outcome = .error e) ↔ Timed name) ∧
      (∀ e, outcome = .error e → e = .unknownType name t.typeCode t.width) ∧
      (outcome = .ok .bigInteger ↔ IsPart "BIGINT" name) ∧
      (outcome = .ok .integer ↔ IsPart "INT" name ∧ ¬IsPart "BIGINT" name) ∧
      ((∀ word ∈ typedWords ++ ["DATE", "TIME"], ¬IsPart word name) →
        ∃ type, outcome = .ok type) := by
  obtain ⟨width, scale, heq⟩ := classify_baseName declared
  simp only [heq]
  generalize baseName declared = name
  have hknown {type : DataType} (h : TypeCode.dataType? (codeOf name) = some type) :
      TypeCode.dataType (codeOf name) name width = .ok type := by
    rw [TypeCode.dataType, h]
  by_cases hint : IsPart "INT" name
  · have ht : ¬Timed name := not_timed_of_word (by decide) hint
    by_cases hbig : IsPart "BIGINT" name
    · simp [hknown (dataType?_bigInteger hbig), ht, hbig]
    · simp [hknown (dataType?_integer hint hbig), ht, hint, hbig]
  · have hbig : ¬IsPart "BIGINT" name := not_isPart_int (by decide) hint
    cases otherCode_codeOf hint with
    | known ht hsome hinteger hbigInteger =>
        simp [hknown hsome, ht, hint, hbig, hinteger, hbigInteger]
    | time ht hnone =>
        have hunknown : TypeCode.dataType (codeOf name) name width =
            .error (.unknownType name (codeOf name) width) := by
          rw [TypeCode.dataType, hnone]
        rw [hunknown]
        refine ⟨⟨fun _ => ht, fun _ => ⟨_, rfl⟩⟩, ?_, by simp [hbig], by simp [hint], fun h => ?_⟩
        · rintro e ⟨⟩
          rfl
        · exact absurd ht.isPart_time (h "TIME" (by decide))

end DatabaseSchema.Sqlite.DeclaredType
