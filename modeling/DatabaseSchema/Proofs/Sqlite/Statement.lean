import DatabaseSchema.Proofs.Text.Containment
import DatabaseSchema.Sqlite.Database

namespace DatabaseSchema.Sqlite

open Text

abbrev autoincrementWord : String := "AUTOINCREMENT"

theorem autoincrementWord_ne : autoincrementWord ≠ "" := by decide

def marks : List Char := [' ', '"', '(', ')', ',']

theorem separates_of_mem_marks {c : Char} (hc : c ∈ marks) : Separates autoincrementWord c := by
  have hall : marks.all (fun c => decide (Separates autoincrementWord c)) = true := by decide
  exact of_decide_eq_true (List.all_eq_true.mp hall c hc)

theorem separates_of_mem_comma : ∀ c ∈ [',', ' '], Separates autoincrementWord c := by
  have hmarks : [',', ' '] ⊆ marks := by simp [marks]
  exact fun c hc => separates_of_mem_marks (hmarks hc)

theorem mentions_mark {c : Char} (hc : c ∈ marks) (ys : List Char) :
    mentions autoincrementWord (c :: ys) = mentions autoincrementWord ys :=
  mentions_cons autoincrementWord_ne (separates_of_mem_marks hc) ys

theorem mentions_mark_between {c : Char} (hc : c ∈ marks) (xs ys : List Char) :
    mentions autoincrementWord (xs ++ c :: ys) =
      (mentions autoincrementWord xs || mentions autoincrementWord ys) :=
  mentions_append_cons (separates_of_mem_marks hc) xs ys

theorem mentions_after {start : List Char} {c : Char}
    (hstart : mentions autoincrementWord start = false) (hc : c ∈ marks) (ys : List Char) :
    mentions autoincrementWord (start ++ c :: ys) = mentions autoincrementWord ys := by
  rw [mentions_mark_between hc, hstart, Bool.false_or]

theorem mentions_after_text {text : String} {start : List Char}
    (htext : text.toList = start ++ [' '])
    (hstart : mentions autoincrementWord start = false) (ys : List Char) :
    mentions autoincrementWord (text.toList ++ ys) = mentions autoincrementWord ys := by
  rw [htext, List.append_assoc, List.singleton_append]
  exact mentions_after hstart (by decide) ys

def doubled (c : Char) : List Char := if c = '"' then ['"', '"'] else [c]

theorem quote_mem_marks : '"' ∈ marks := by decide

theorem mentions_doubled (xs cs : List Char) :
    mentions autoincrementWord (xs ++ cs.flatMap doubled) =
      mentions autoincrementWord (xs ++ cs) := by
  -- what was passed goes along, since the word may begin in it
  induction cs generalizing xs with
  | nil => rfl
  | cons c cs ih =>
      rw [List.flatMap_cons]
      by_cases hc : c = '"'
      · subst hc
        have hrest : mentions autoincrementWord (cs.flatMap doubled) = _ := ih []
        rw [doubled, if_pos rfl, mentions_mark_between quote_mem_marks xs cs]
        show mentions autoincrementWord (xs ++ '"' :: ('"' :: cs.flatMap doubled)) = _
        rw [mentions_mark_between quote_mem_marks, mentions_mark quote_mem_marks, hrest]
        rfl
      · have hmove := ih (xs ++ [c])
        rw [List.append_assoc, List.append_assoc] at hmove
        rw [doubled, if_neg hc]
        exact hmove

theorem mentions_quoteName (name : String) :
    mentions autoincrementWord (quoteName name).toList =
      mentions autoincrementWord name.toList := by
  have hquoted : (quoteName name).toList = '"' :: (name.toList.flatMap doubled ++ ['"']) := by
    simp [quoteName]
    rfl
  have hname := mentions_doubled [] name.toList
  rw [List.nil_append, List.nil_append] at hname
  rw [hquoted, mentions_mark quote_mem_marks, mentions_mark_between quote_mem_marks, hname,
    mentions_nil autoincrementWord_ne, Bool.or_false]

theorem mentions_nameList (names : List String) :
    mentions autoincrementWord (nameList names).toList =
      names.any (mentions autoincrementWord ·.toList) := by
  have hlist : (nameList names).toList =
      '(' :: ([',', ' '].intercalate (names.map fun name => (quoteName name).toList) ++ [')']) := by
    simp [nameList, String.toList_intercalate, Function.comp_def]
  rw [hlist, mentions_mark (by decide), mentions_mark_between (by decide),
    mentions_nil autoincrementWord_ne, Bool.or_false,
    mentions_intercalate autoincrementWord_ne separates_of_mem_comma, List.any_map]
  simp only [Function.comp_def, mentions_quoteName]

def CheckDefinition.texts (c : CheckDefinition) : List String := c.name.toList ++ [c.condition]

def UniqueDefinition.texts (u : UniqueDefinition) : List String := u.name.toList ++ u.columns

theorem mentions_named (name : Option String) (constraint : String) :
    mentions autoincrementWord (named name constraint).toList =
      (name.toList.any (mentions autoincrementWord ·.toList) ||
        mentions autoincrementWord constraint.toList) := by
  cases name with
  | none => simp [named]
  | some n =>
      have hword : mentions autoincrementWord "CONSTRAINT".toList = false := by decide
      have hnamed : (named (some n) constraint).toList = "CONSTRAINT ".toList ++
          ((quoteName n).toList ++ ' ' :: constraint.toList) := by
        simp [named]
      rw [hnamed, mentions_after_text rfl hword, mentions_mark_between (by decide),
        mentions_quoteName]
      simp

theorem CheckDefinition.mentions_sql (c : CheckDefinition) :
    mentions autoincrementWord c.sql.toList =
      c.texts.any (mentions autoincrementWord ·.toList) := by
  have hword : mentions autoincrementWord "CHECK".toList = false := by decide
  have hcheck : ("CHECK (" ++ c.condition ++ ")").toList =
      "CHECK ".toList ++ '(' :: (c.condition.toList ++ ')' :: []) := by
    simp
  rw [sql, mentions_named, hcheck, mentions_after_text rfl hword, mentions_mark (by decide),
    mentions_mark_between (by decide), mentions_nil autoincrementWord_ne, texts, List.any_append]
  simp

theorem UniqueDefinition.mentions_sql (u : UniqueDefinition) :
    mentions autoincrementWord u.sql.toList =
      u.texts.any (mentions autoincrementWord ·.toList) := by
  have hword : mentions autoincrementWord "UNIQUE".toList = false := by decide
  rw [sql, mentions_named, String.toList_append, mentions_after_text rfl hword, mentions_nameList,
    texts, List.any_append]

theorem mentions_append_checks (xs : List Char) (checks : List CheckDefinition) :
    mentions autoincrementWord (xs ++ (String.join (checks.map (" " ++ ·.sql))).toList) =
      (mentions autoincrementWord xs ||
        (checks.flatMap (·.texts)).any (mentions autoincrementWord ·.toList)) := by
  -- what stands before goes along, since the word may begin in it
  induction checks generalizing xs with
  | nil => simp
  | cons c checks ih =>
      have hjoin : (String.join ((c :: checks).map (" " ++ ·.sql))).toList =
          ' ' :: (c.sql.toList ++ (String.join (checks.map (" " ++ ·.sql))).toList) := by
        simp
      rw [hjoin, mentions_mark_between (by decide), ih, c.mentions_sql, List.flatMap_cons,
        List.any_append]

def ColumnDefinition.texts (c : ColumnDefinition) : List String :=
  c.name :: (c.type.toList ++ c.default.toList ++ c.checks.flatMap (·.texts))

def TableDefinition.keyTexts (t : TableDefinition) : List String :=
  (t.primaryKey.map (t.keyName.toList ++ ·)).getD []

def TableDefinition.texts (t : TableDefinition) : List String :=
  t.name :: (t.columns.flatMap (·.texts) ++ t.keyTexts ++ t.uniques.flatMap (·.texts)
    ++ t.checks.flatMap (·.texts))

theorem mentions_append_clause (xs : List Char) (present : Bool) (text : String) :
    mentions autoincrementWord (xs ++ (clause present text).toList) =
      (mentions autoincrementWord xs || (present && mentions autoincrementWord text.toList)) := by
  cases present with
  | false => simp [clause]
  | true =>
      have hclause : (clause true text).toList = ' ' :: text.toList := by simp [clause]
      rw [hclause, mentions_mark_between (by decide), Bool.true_and]

theorem mentions_append_text {start : String} {c : Char} (hhead : start.toList.head? = some c)
    (hc : c ∈ marks) (hstart : ∀ ys, mentions autoincrementWord (start.toList ++ ys) =
      mentions autoincrementWord ys) (xs : List Char) (text? : Option String) :
    mentions autoincrementWord (xs ++ ((text?.map (start ++ ·)).getD "").toList) =
      (mentions autoincrementWord xs || text?.toList.any (mentions autoincrementWord ·.toList)) := by
  cases text? with
  | none => simp
  | some text =>
      have hhead' : ∀ d ∈ (start.toList ++ text.toList).head?, Separates autoincrementWord d := by
        rw [List.head?_append, hhead]
        rintro _ ⟨⟩
        exact separates_of_mem_marks hc
      rw [Option.map_some, Option.getD_some, String.toList_append,
        mentions_append_of_head autoincrementWord_ne hhead', hstart]
      simp

theorem mentions_type (xs : List Char) (type? : Option String) :
    mentions autoincrementWord (xs ++ ((type?.map (" " ++ ·)).getD "").toList) =
      (mentions autoincrementWord xs || type?.toList.any (mentions autoincrementWord ·.toList)) :=
  mentions_append_text (c := ' ') rfl (by decide)
    (mentions_after_text rfl (mentions_nil autoincrementWord_ne)) xs type?

theorem mentions_default (xs : List Char) (default? : Option String) :
    mentions autoincrementWord (xs ++ ((default?.map (" DEFAULT " ++ ·)).getD "").toList) =
      (mentions autoincrementWord xs ||
        default?.toList.any (mentions autoincrementWord ·.toList)) := by
  have hstart : mentions autoincrementWord " DEFAULT".toList = false := by decide
  exact mentions_append_text (c := ' ') rfl (by decide) (mentions_after_text rfl hstart) xs default?

theorem ColumnDefinition.mentions_sql (c : ColumnDefinition) :
    mentions autoincrementWord c.sql.toList =
      (c.autoincrement || c.texts.any (mentions autoincrementWord ·.toList)) := by
  have hnotNull : mentions autoincrementWord "NOT NULL".toList = false := by decide
  have hkey : mentions autoincrementWord "PRIMARY KEY".toList = false := by decide
  have hunique : mentions autoincrementWord "UNIQUE".toList = false := by decide
  have hself : mentions autoincrementWord "AUTOINCREMENT".toList = true := by decide
  simp only [ColumnDefinition.sql, String.toList_append, mentions_append_clause, mentions_type,
    mentions_default, mentions_append_checks, mentions_quoteName, hnotNull, hkey, hunique, hself,
    Bool.and_false, Bool.and_true, Bool.or_false]
  rw [ColumnDefinition.texts, List.any_cons, List.any_append, List.any_append]
  ac_rfl

def TableDefinition.parts (t : TableDefinition) : List String :=
  t.columns.map (·.sql)
    ++ (t.primaryKey.map fun names => named t.keyName ("PRIMARY KEY " ++ nameList names)).toList
    ++ t.uniques.map (·.sql)
    ++ t.checks.map (·.sql)

theorem any_columns (columns : List ColumnDefinition) :
    (columns.any fun c => c.autoincrement || c.texts.any (mentions autoincrementWord ·.toList)) =
      (columns.any (·.autoincrement) ||
        (columns.flatMap (·.texts)).any (mentions autoincrementWord ·.toList)) := by
  rw [List.any_flatMap]
  induction columns with
  | nil => rfl
  | cons c columns ih =>
      simp only [List.any_cons, ih]
      ac_rfl

theorem TableDefinition.mentions_key (t : TableDefinition) :
    (t.primaryKey.map fun names => named t.keyName ("PRIMARY KEY " ++ nameList names)).toList.any
      (mentions autoincrementWord ·.toList) =
        t.keyTexts.any (mentions autoincrementWord ·.toList) := by
  have hword : mentions autoincrementWord "PRIMARY KEY".toList = false := by decide
  rw [keyTexts]
  cases t.primaryKey with
  | none => rfl
  | some names =>
      rw [Option.map_some, Option.toList_some, List.any_cons, List.any_nil, Bool.or_false,
        mentions_named, String.toList_append, mentions_after_text rfl hword, mentions_nameList,
        Option.map_some, Option.getD_some, List.any_append]

theorem TableDefinition.mentions_parts (t : TableDefinition) :
    t.parts.any (mentions autoincrementWord ·.toList) =
      (t.isAutoincrement ||
        (t.columns.flatMap (·.texts) ++ t.keyTexts ++ t.uniques.flatMap (·.texts)
          ++ t.checks.flatMap (·.texts)).any (mentions autoincrementWord ·.toList)) := by
  simp only [parts, List.any_append, t.mentions_key, List.any_map, Function.comp_def,
    ColumnDefinition.mentions_sql, UniqueDefinition.mentions_sql, CheckDefinition.mentions_sql,
    any_columns, List.any_flatMap, isAutoincrement, Bool.or_assoc]

theorem TableDefinition.sql_toList (t : TableDefinition) :
    t.sql.toList = "CREATE TABLE ".toList ++ ((quoteName t.name).toList ++
      ' ' :: '(' :: ([',', ' '].intercalate (t.parts.map String.toList) ++
        ')' :: (clause t.withoutRowid "WITHOUT ROWID").toList)) := by
  have hsql : t.sql = "CREATE TABLE " ++ quoteName t.name ++ " (" ++ ", ".intercalate t.parts ++ ")"
      ++ clause t.withoutRowid "WITHOUT ROWID" := rfl
  rw [hsql]
  simp [String.toList_intercalate]

theorem TableDefinition.mentions_sql (t : TableDefinition) :
    mentions autoincrementWord t.sql.toList =
      (t.isAutoincrement || t.texts.any (mentions autoincrementWord ·.toList)) := by
  have hcreate : mentions autoincrementWord "CREATE TABLE".toList = false := by decide
  have hrowid : mentions autoincrementWord (clause t.withoutRowid "WITHOUT ROWID").toList =
      false := by
    cases t.withoutRowid <;> decide
  have hparts : mentions autoincrementWord ([',', ' '].intercalate (t.parts.map String.toList)) =
      t.parts.any (mentions autoincrementWord ·.toList) := by
    rw [mentions_intercalate autoincrementWord_ne separates_of_mem_comma, List.any_map]
    rfl
  rw [t.sql_toList, mentions_after_text rfl hcreate, mentions_mark_between (by decide),
    mentions_mark (by decide), mentions_mark_between (by decide), mentions_quoteName, hrowid,
    Bool.or_false, hparts, t.mentions_parts, texts, List.any_cons]
  ac_rfl

end DatabaseSchema.Sqlite
