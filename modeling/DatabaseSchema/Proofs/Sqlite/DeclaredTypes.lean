import DatabaseSchema.Proofs.Text.Decimal
import DatabaseSchema.Proofs.Text.Spaced
import DatabaseSchema.Sqlite.Pragma

namespace DatabaseSchema.Sqlite.DeclaredType

open Text

variable {name text args digits : List Char} {width scale : Int32}

theorem classify_eq (declared : String) :
    classify declared = ofUpper (trimChars (declared.toList.flatMap upperChar)) := by
  simp [classify, trim, upper, trimChars_flatMap_upperChar]

theorem ofUpper_name (h : '(' ∉ name) :
    ofUpper (trimChars name) =
      ⟨codeOf (String.ofList (trimChars name)), String.ofList (trimChars name), 0, 0⟩ := by
  have hname : '(' ∉ trimChars name := fun hmem => h (trimChars_subset name hmem)
  rw [ofUpper, splitFirst?_of_not_mem hname]

theorem ofUpper_bracket (h : '(' ∉ name) (rest : List Char) :
    ofUpper (trimChars (name ++ '(' :: rest)) =
      ⟨codeOf (String.ofList (trimChars name)), String.ofList (trimChars name),
        ((arguments rest).map number)[0]?.getD 0, ((arguments rest).map number)[1]?.getD 0⟩ := by
  have hname : '(' ∉ name.dropWhile isBlank :=
    fun hmem => h ((List.dropWhile_sublist isBlank).subset hmem)
  have harguments : arguments (trimEndChars rest) = arguments rest := by
    simp only [arguments, trimEndChars_trimEndChars]
  rw [trimChars_append_cons (by decide), ofUpper, splitFirst?_append_cons hname]
  simp only [trimChars_dropWhile, harguments]

structure Argument (value : Int32) (text : List Char) : Prop where
  number : DeclaredType.number text = value
  upper : text.flatMap upperChar = text
  comma : ',' ∉ text
  closing : ')' ∉ text

end DatabaseSchema.Sqlite.DeclaredType
