import DatabaseSchema.Proofs.Text.Words
import DatabaseSchema.Text

namespace DatabaseSchema.Text

section

variable {cs : List Char} {c : Char} {n : Int}

inductive Digits : List Char → Nat → Prop where
  | intro {cs : List Char} : cs ≠ [] → (∀ c ∈ cs, c.isDigit = true) →
      Digits cs (Nat.ofDigitChars 10 cs 0)

inductive Decimal : List Char → Int → Prop where
  | unsigned {cs : List Char} {n : Nat} : Digits cs n → Decimal cs n
  | plus {cs : List Char} {n : Nat} : Digits cs n → Decimal ('+' :: cs) n
  | minus {cs : List Char} {n : Nat} : Digits cs n → Decimal ('-' :: cs) (-n)

theorem natural?_eq_some_iff {n : Nat} : natural? cs = some n ↔ Digits cs n := by
  have hvalue : naturalOf cs = Nat.ofDigitChars 10 cs 0 := rfl
  unfold natural?
  constructor
  · intro h
    obtain ⟨hdigits, hn⟩ := Option.ite_none_right_eq_some.mp h
    simp only [Bool.and_eq_true, Bool.not_eq_true', List.isEmpty_eq_false_iff, List.all_eq_true]
      at hdigits
    rw [← Option.some.inj hn, hvalue]
    exact .intro hdigits.1 hdigits.2
  · rintro ⟨hne, hall⟩
    rw [if_pos (by simpa using ⟨hne, hall⟩), hvalue]

theorem integer?_eq_some_iff : integer? cs = some n ↔ Decimal cs n := by
  constructor
  · intro h
    unfold integer? at h
    split at h
    all_goals
      obtain ⟨m, hm, rfl⟩ := Option.map_eq_some_iff.mp h
      rw [natural?_eq_some_iff] at hm
    · exact .plus hm
    · exact .minus hm
    · exact .unsigned hm
  · intro h
    cases h with
    | @unsigned _ n hdigits =>
        have hsign : ∀ c ∈ cs.head?, c ≠ '+' ∧ c ≠ '-' := by
          obtain ⟨-, hall⟩ := hdigits
          rintro c hc
          constructor <;> rintro rfl <;> cases hall _ (List.mem_of_mem_head? hc)
        unfold integer?
        split
        next => exact absurd rfl (hsign _ rfl).1
        next => exact absurd rfl (hsign _ rfl).2
        next => rw [natural?_eq_some_iff.mpr hdigits]; rfl
    | plus hdigits => rw [integer?, natural?_eq_some_iff.mpr hdigits]; rfl
    | minus hdigits => rw [integer?, natural?_eq_some_iff.mpr hdigits]; rfl

theorem narrow?_eq_some_iff {m : Int32} : narrow? n = some m ↔ m.toInt = n := by
  unfold narrow?
  constructor
  · intro h
    obtain ⟨⟨hlo, hhi⟩, hm⟩ := Option.ite_none_right_eq_some.mp h
    rw [← Option.some.inj hm]
    exact Int32.toInt_ofInt_of_le hlo hhi
  · rintro rfl
    have hlo := m.le_toInt
    have hhi := m.toInt_lt
    rw [if_pos (by omega), Int32.ofInt_toInt]

theorem int32?_eq_some_iff {m : Int32} : int32? cs = some m ↔ Decimal cs m.toInt := by
  simp only [int32?, Option.bind_eq_bind, Option.bind_eq_some_iff, integer?_eq_some_iff,
    narrow?_eq_some_iff]
  constructor
  · rintro ⟨n, hn, rfl⟩
    exact hn
  · exact fun h => ⟨m.toInt, h, rfl⟩

theorem Decimal.mem (h : Decimal cs n) (hc : c ∈ cs) :
    c.isDigit = true ∨ c = '+' ∨ c = '-' := by
  cases h with
  | unsigned hdigits =>
      obtain ⟨-, hall⟩ := hdigits
      exact .inl (hall c hc)
  | plus hdigits | minus hdigits =>
      obtain ⟨-, hall⟩ := hdigits
      rcases List.mem_cons.mp hc with rfl | hc
      · decide
      · exact .inl (hall c hc)

theorem Decimal.isBreak_eq_false (h : Decimal cs n) : ∀ c ∈ cs, isBreak c = false := by
  intro c hc
  rcases h.mem hc with hdigit | rfl | rfl
  · exact isBreak_of_isDigit hdigit
  · decide
  · decide

end

variable {cs : List Char} {c : Char} {sign : Int} {m n : Int32} {k : Nat}

-- One more digit. A negative number grows downwards, as the range reaches further down than up.
def addDigit? (sign : Int) (n : Int32) (c : Char) : Option Int32 := do
  let tens ← narrow? (10 * n.toInt)
  if c.isDigit then narrow? (tens.toInt + sign * digitValue c) else none

def addDigits? (sign : Int) (cs : List Char) : Option Int32 :=
  if cs.isEmpty then none else cs.foldlM (addDigit? sign) 0

def digitByDigit? : List Char → Option Int32
  | '+' :: cs => addDigits? 1 cs
  | '-' :: cs => addDigits? (-1) cs
  | cs => addDigits? 1 cs

theorem le_ofDigitChars (cs : List Char) (k : Nat) : k ≤ Nat.ofDigitChars 10 cs k := by
  induction cs generalizing k with
  | nil => exact Nat.le_refl k
  | cons c cs ih =>
      rw [Nat.ofDigitChars_cons]
      have := ih (10 * k + (c.toNat - '0'.toNat))
      omega

theorem exists_int32_of_le (hsign : sign = 1 ∨ sign = -1) {l : Nat} (hle : k ≤ l)
    (hn : n.toInt = sign * l) : ∃ m : Int32, m.toInt = sign * k := by
  have hlo := n.le_toInt
  have hhi := n.toInt_lt
  refine ⟨Int32.ofInt (sign * k), Int32.toInt_ofInt_of_le ?_ ?_⟩
  all_goals
    obtain rfl | rfl := hsign
    · omega
    · omega

theorem addDigit?_eq_some_iff (hsign : sign = 1 ∨ sign = -1) (hm : m.toInt = sign * k) :
    addDigit? sign m c = some n ↔
      c.isDigit = true ∧ n.toInt = sign * (10 * k + digitValue c : Nat) := by
  have htens : 10 * m.toInt = sign * (10 * k : Nat) := by
    rw [hm, Int.natCast_mul, Int.mul_left_comm]
    rfl
  have hsum : sign * (10 * k : Nat) + sign * (digitValue c : Int) =
      sign * (10 * k + digitValue c : Nat) := by
    rw [Int.natCast_add, Int.mul_add]
  unfold addDigit?
  simp only [Option.bind_eq_bind, Option.bind_eq_some_iff, narrow?_eq_some_iff,
    Option.ite_none_right_eq_some]
  constructor
  · rintro ⟨tens, ht, hdigit, hn⟩
    exact ⟨hdigit, by rw [hn, ht, htens, hsum]⟩
  · rintro ⟨hdigit, hn⟩
    obtain ⟨tens, ht⟩ := exists_int32_of_le hsign (Nat.le_add_right (10 * k) (digitValue c)) hn
    exact ⟨tens, ht.trans htens.symm, hdigit, by rw [hn, ht, hsum]⟩

theorem foldlM_addDigit?_eq_some_iff (hsign : sign = 1 ∨ sign = -1) (hm : m.toInt = sign * k) :
    cs.foldlM (addDigit? sign) m = some n ↔
      (∀ c ∈ cs, c.isDigit = true) ∧ n.toInt = sign * Nat.ofDigitChars 10 cs k := by
  induction cs generalizing m k with
  | nil =>
      rw [List.foldlM_nil, Nat.ofDigitChars_nil, ← hm, Option.pure_def, Option.some_inj,
        Int32.toInt_inj, eq_comm]
      exact (and_iff_right nofun).symm
  | cons c cs ih =>
      rw [List.foldlM_cons, Option.bind_eq_bind, Option.bind_eq_some_iff, Nat.ofDigitChars_cons,
        List.forall_mem_cons, and_assoc]
      constructor
      · rintro ⟨m', hstep, hrest⟩
        obtain ⟨hdigit, hm'⟩ := (addDigit?_eq_some_iff hsign hm).mp hstep
        exact ⟨hdigit, (ih hm').mp hrest⟩
      · rintro ⟨hdigit, hall, hn⟩
        -- the number read so far is no further from zero than the whole one
        obtain ⟨m', hm'⟩ := exists_int32_of_le hsign (le_ofDigitChars cs _) hn
        exact ⟨m', (addDigit?_eq_some_iff hsign hm).mpr ⟨hdigit, hm'⟩, (ih hm').mpr ⟨hall, hn⟩⟩

theorem addDigits?_eq (hsign : sign = 1 ∨ sign = -1) {f : Nat → Int} (hf : ∀ k, f k = sign * k)
    (cs : List Char) : addDigits? sign cs = ((natural? cs).map f).bind narrow? := by
  ext n
  have hzero : (0 : Int32).toInt = sign * (0 : Nat) := by simp
  simp only [addDigits?, Option.bind_eq_some_iff, Option.map_eq_some_iff, natural?_eq_some_iff,
    narrow?_eq_some_iff, Option.ite_none_left_eq_some, foldlM_addDigit?_eq_some_iff hsign hzero,
    List.isEmpty_iff]
  constructor
  · rintro ⟨hne, hall, hn⟩
    exact ⟨_, ⟨_, .intro hne hall, rfl⟩, hn.trans (hf _).symm⟩
  · rintro ⟨_, ⟨k, ⟨hne, hall⟩, rfl⟩, hn⟩
    exact ⟨hne, hall, hn.trans (hf _)⟩

theorem digitByDigit?_eq (cs : List Char) : digitByDigit? cs = int32? cs := by
  have hplus : ∀ k : Nat, Int.ofNat k = 1 * k := fun k => (Int.one_mul k).symm
  have hminus : ∀ k : Nat, -Int.ofNat k = -1 * k := fun k => Int.neg_eq_neg_one_mul k
  unfold digitByDigit? int32?
  split
  next rest => rw [integer?, Option.bind_eq_bind, addDigits?_eq (.inl rfl) hplus]
  next rest => rw [integer?, Option.bind_eq_bind, addDigits?_eq (.inr rfl) hminus]
  next hnoPlus hnoMinus =>
    rw [integer?, Option.bind_eq_bind, addDigits?_eq (.inl rfl) hplus]
    · exact hnoPlus
    · exact hnoMinus

end DatabaseSchema.Text
