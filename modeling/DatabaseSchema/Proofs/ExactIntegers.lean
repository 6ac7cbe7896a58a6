import DatabaseSchema.Logged
import DatabaseSchema.Proofs.Json.Scalars
import DatabaseSchema.Proofs.Text.Decimal
import DatabaseSchema.Proofs.Text.Spaced

namespace DatabaseSchema

namespace Text

variable {cs word : List Char}

theorem digits_toDigits (n : Nat) : Digits (Nat.toDigits 10 n) n := by
  have h := Digits.intro Nat.toDigits_ne_nil (Json.isDigit_toDigits n)
  rwa [Nat.ofDigitChars_ten_toDigits] at h

theorem decimal_toString (n : Int) : Decimal (toString n).toList n := by
  cases n with
  | ofNat n =>
      rw [Json.toList_toString_ofNat]
      exact .unsigned (digits_toDigits n)
  | negSucc n =>
      rw [Json.toList_toString_negSucc]
      exact .minus (digits_toDigits (n + 1))

theorem Decimal.trimChars_eq {n : Int} (h : Decimal word n) (hs : Spaced word cs) :
    trimChars cs = word := by
  have hblank : ∀ c ∈ word, isBlank c = false := by
    intro c hc
    have hbreak := h.isBreak_eq_false c hc
    simp only [isBreak, Bool.or_eq_false_iff] at hbreak
    exact hbreak.1.1.1
  rw [hs.trimChars_eq, trimChars_eq_self hblank]

end Text

namespace Cell

variable {c : Cell} {n : Int32}

inductive ReadsAs : Cell → Int32 → Prop where
  | null : ReadsAs .null 0
  | integer {m : Int64} {n : Int32} : m.toInt = n.toInt → ReadsAs (.integer m) n
  | boolean (b : Bool) : ReadsAs (.boolean b) (if b then 1 else 0)
  | text {s : String} {word : List Char} {n : Int32} :
      Text.Spaced word s.toList → Text.Decimal word n.toInt → ReadsAs (.text s) n

def Fits (n : Int) : Prop := -2147483648 ≤ n ∧ n ≤ 2147483647

inductive TooWide : Cell → Prop where
  | integer {m : Int64} : ¬Fits m.toInt → TooWide (.integer m)
  | text {s : String} {word : List Char} {n : Int} :
      Text.Spaced word s.toList → Text.Decimal word n → ¬Fits n → TooWide (.text s)

def int? : Cell → Option Int32
  | .null => some 0
  | .integer n => Text.narrow? n.toInt
  | .boolean b => some (if b then 1 else 0)
  | .text s => Text.int32? (Text.trimChars s.toList)

theorem readsAs_text_iff {s : String} :
    (text s).ReadsAs n ↔ Text.Decimal (Text.trimChars s.toList) n.toInt := by
  constructor
  · rintro (_ | _ | _ | ⟨hspaced, hdecimal⟩)
    rwa [hdecimal.trimChars_eq hspaced]
  · exact .text (Text.spaced_trimChars s.toList)

theorem int?_eq_some_iff : c.int? = some n ↔ c.ReadsAs n := by
  cases c with
  | null =>
      rw [int?, Option.some_inj]
      constructor
      · rintro rfl
        exact .null
      · rintro ⟨⟩
        rfl
  | integer m =>
      rw [int?, Text.narrow?_eq_some_iff]
      constructor
      · exact fun h => .integer h.symm
      · rintro (_ | h)
        exact h.symm
  | boolean b =>
      rw [int?, Option.some_inj]
      constructor
      · rintro rfl
        exact .boolean b
      · rintro ⟨⟩
        rfl
  | text s => rw [int?, Text.int32?_eq_some_iff, readsAs_text_iff]

theorem int?_eq_none_iff : c.int? = none ↔ ∀ n, ¬c.ReadsAs n := by
  simp only [Option.eq_none_iff_forall_ne_some, ne_eq, int?_eq_some_iff]

theorem fits_toInt (n : Int32) : Fits n.toInt := by
  have hlo := n.le_toInt
  have hhi := n.toInt_lt
  unfold Fits
  omega

theorem TooWide.not_readsAs (h : c.TooWide) (n : Int32) : ¬c.ReadsAs n := by
  intro hreads
  cases h with
  | integer hwide =>
      obtain _ | hm := hreads
      exact hwide (hm ▸ fits_toInt n)
  | @text s word k hspaced hdecimal hwide =>
      have hn := readsAs_text_iff.mp hreads
      rw [hdecimal.trimChars_eq hspaced] at hn
      -- a text is the decimal form of one integer only
      have hsame : k = n.toInt := Option.some.inj
        ((Text.integer?_eq_some_iff.mpr hdecimal).symm.trans (Text.integer?_eq_some_iff.mpr hn))
      exact hwide (hsame ▸ fits_toInt n)

end Cell

namespace Row

variable {r : Row} {position : Nat} {c : Cell} {n : Int32} {e : CellError}

theorem int_of_missing (h : r.cells.length ≤ position) :
    r.int position = .error (.missing position r.cells.length) := by
  have hnone : r.cells[position]? = none := List.getElem?_eq_none h
  simp only [int, cell, hnone, error_bind]

theorem int_of_cell (h : r.cells[position]? = some c) :
    r.int position = c.int?.elim (.error (.incompatible position c .integer)) .ok := by
  simp only [int, cell, h, ok_bind]
  cases c with
  | null => rfl
  | integer m => cases hm : Text.narrow? m.toInt <;> simp only [Cell.int?, hm] <;> rfl
  | boolean b => rfl
  | text s =>
      cases hs : Text.int32? (Text.trimChars s.toList) <;> simp only [Cell.int?, hs] <;> rfl

theorem int_eq_ok_iff :
    r.int position = .ok n ↔ ∃ c, r.cells[position]? = some c ∧ c.ReadsAs n := by
  cases h : r.cells[position]? with
  | none => simp [int_of_missing (List.getElem?_eq_none_iff.mp h)]
  | some c =>
      simp only [Option.some.injEq, exists_eq_left', ← Cell.int?_eq_some_iff, int_of_cell h]
      cases c.int? <;> simp

theorem int_eq_error_iff :
    r.int position = .error e ↔
      (r.cells.length ≤ position ∧ e = .missing position r.cells.length) ∨
        ∃ c, r.cells[position]? = some c ∧ (∀ n, ¬c.ReadsAs n) ∧
          e = .incompatible position c .integer := by
  cases h : r.cells[position]? with
  | none =>
      have hlength := List.getElem?_eq_none_iff.mp h
      simp [int_of_missing hlength, hlength, eq_comm]
  | some c =>
      have hinside : ¬r.cells.length ≤ position := by
        rw [← List.getElem?_eq_none_iff, h]
        nofun
      simp only [Option.some.injEq, exists_eq_left', ← Cell.int?_eq_none_iff, int_of_cell h, hinside,
        false_and, false_or]
      cases c.int? <;> simp [eq_comm]

theorem int_exact (r : Row) (position : Nat) :
    (∀ n, r.int position = .ok n ↔ ∃ c, r.cells[position]? = some c ∧ c.ReadsAs n) ∧
      (∀ e, r.int position = .error e ↔
        (r.cells.length ≤ position ∧ e = .missing position r.cells.length) ∨
          ∃ c, r.cells[position]? = some c ∧ (∀ n, ¬c.ReadsAs n) ∧
            e = .incompatible position c .integer) ∧
      (∀ c, (CellError.incompatible position c .integer).message =
        "cannot read " ++ c.kind ++ " value '" ++ c.display ++ "' at position " ++
          toString position ++ " as " ++ "integer") ∧
      (∀ c, r.cells[position]? = some c → c.TooWide →
        r.int position = .error (.incompatible position c .integer)) ∧
      (∀ n : Int32, r.cells[position]? = some (.text (toString n.toInt)) →
        r.int position = .ok n) ∧
      ∀ s n, r.cells[position]? = some (.text s) →
        (r.int position = .ok n ↔
          Text.digitByDigit? (Text.trimChars s.toList) = some n) := by
  refine ⟨fun n => int_eq_ok_iff, fun e => int_eq_error_iff, fun c => rfl, fun c hc hwide => ?_,
    fun n hc => ?_, fun s n hc => ?_⟩
  · exact int_eq_error_iff.mpr (.inr ⟨c, hc, hwide.not_readsAs, rfl⟩)
  · have hspaced : Text.Spaced (toString n.toInt).toList (toString n.toInt).toList :=
      Text.spaced_of_all [] [] rfl rfl (by simp)
    exact int_eq_ok_iff.mpr ⟨_, hc, .text hspaced (Text.decimal_toString n.toInt)⟩
  · rw [Text.digitByDigit?_eq, Text.int32?_eq_some_iff, ← Cell.readsAs_text_iff, int_eq_ok_iff, hc]
    simp

example :
    let r : Row := ⟨[.text " -002147483648", .text "2147483648", .text "+-1", .integer 4294967296]⟩
    r.int 0 = .ok (-2147483648) ∧ (r.int 1).toOption = none ∧ (r.int 2).toOption = none ∧
      r.int 3 = .error (.incompatible 3 (.integer 4294967296) .integer) ∧
      r.int 4 = .error (.missing 4 4) := by
  decide +kernel

end Row

def truthWords : Bool → List String
  | true => ["true", "1", "y", "yes"]
  | false => ["false", "0", "n", "no", ""]

theorem truth?_of_spaced {s : String} {word : List Char} {b : Bool}
    (hs : Text.Spaced word s.toList) (hword : String.ofList (word.map Char.toLower) ∈ truthWords b) :
    truth? s = some b := by
  have hblank : ∀ c ∈ word, Text.isBlank c = false := by
    have hwords : ∀ w ∈ truthWords b, w.toList.all (!Text.isBlank ·) = true := by
      cases b <;> decide
    intro c hc
    have hall := List.all_eq_true.mp (hwords _ hword) c.toLower (by simpa using ⟨c, hc, rfl⟩)
    simpa [Text.isBlank_toLower] using hall
  rw [truth?, hs.trimChars_eq, Text.trimChars_eq_self hblank]
  cases b with
  | true =>
      simp only [truthWords, List.mem_cons, List.not_mem_nil, or_false] at hword
      rcases hword with h | h | h | h <;> rw [h] <;> rfl
  | false =>
      simp only [truthWords, List.mem_cons, List.not_mem_nil, or_false] at hword
      rcases hword with h | h | h | h | h <;> rw [h] <;> rfl

namespace Cell

inductive TellsNumber : Cell → Int32 → Prop where
  | integer {n : Int32} {m : Int64} : m.toInt = n.toInt → TellsNumber (.integer m) n
  | text {n : Int32} {s : String} :
      Text.Spaced (toString n.toInt).toList s.toList → TellsNumber (.text s) n
  | null : TellsNumber .null 0

inductive TellsFlag : Cell → Bool → Prop where
  | boolean (b : Bool) : TellsFlag (.boolean b) b
  | integer (b : Bool) : TellsFlag (.integer (if b then 1 else 0)) b
  | text {b : Bool} {s : String} {word : List Char} :
      Text.Spaced word s.toList → String.ofList (word.map Char.toLower) ∈ truthWords b →
      TellsFlag (.text s) b

theorem TellsNumber.readsAs {c : Cell} {n : Int32} (h : c.TellsNumber n) : c.ReadsAs n := by
  cases h with
  | integer hm => exact .integer hm
  | text hs => exact .text hs (Text.decimal_toString n.toInt)
  | null => exact .null

end Cell

namespace Row

variable {r : Row} {position : Nat} {c : Cell}

theorem int_of_tells {n : Int32} (h : r.cells[position]? = some c) (hc : c.TellsNumber n) :
    r.int position = .ok n :=
  int_eq_ok_iff.mpr ⟨c, h, hc.readsAs⟩

theorem boolean_of_tells {b : Bool} (h : r.cells[position]? = some c) (hc : c.TellsFlag b) :
    r.boolean position = .ok b := by
  cases hc with
  | boolean b =>
      simp only [boolean, cell, h, ok_bind]
      rfl
  | integer b =>
      simp only [boolean, cell, h, ok_bind]
      cases b <;> rfl
  | text hs hword =>
      simp only [boolean, cell, h, ok_bind, truth?_of_spaced hs hword]
      rfl

end Row

end DatabaseSchema
