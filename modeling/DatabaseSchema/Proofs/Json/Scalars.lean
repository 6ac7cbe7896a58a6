import DatabaseSchema.Json
import DatabaseSchema.Json.Parser
import DatabaseSchema.Proofs.Text.Words

namespace DatabaseSchema.Json

section

variable {digits rest : List Char} {n : Nat}

def Ends (rest : List Char) : Prop :=
  ∀ c ∈ rest.head?, c.isDigit = false ∧ c ≠ '.' ∧ c ≠ 'e' ∧ c ≠ 'E'

theorem spanDigits_append (hd : ∀ c ∈ digits, c.isDigit = true) (hr : Ends rest) :
    spanDigits (digits ++ rest) = (digits, rest) := by
  have hstop : ∀ c ∈ rest.head?, c.isDigit = false := fun c hc => (hr c hc).1
  rw [spanDigits, List.span_eq_takeWhile_dropWhile, Text.takeWhile_append_of_head hd hstop,
    Text.dropWhile_append_of_head hd hstop]

theorem naturalOf_toDigits (n : Nat) : naturalOf (Nat.toDigits 10 n) = n :=
  Nat.ofDigitChars_ten_toDigits

theorem isDigit_toDigits (n : Nat) : ∀ c ∈ Nat.toDigits 10 n, c.isDigit = true :=
  fun _ hc => Nat.isDigit_of_mem_toDigits (by decide) (by decide) hc

theorem toDigits_eq_cons (n : Nat) : ∃ c cs, Nat.toDigits 10 n = c :: cs ∧ c.isDigit = true := by
  obtain ⟨c, cs, hdigits⟩ := List.exists_cons_of_ne_nil (Nat.toDigits_ne_nil (n := n) (b := 10))
  refine ⟨c, cs, hdigits, isDigit_toDigits n c ?_⟩
  rw [hdigits]
  exact List.mem_cons_self

theorem toList_toString_ofNat (n : Nat) : (toString (Int.ofNat n)).toList = Nat.toDigits 10 n :=
  Nat.toList_repr

theorem toList_toString_negSucc (n : Nat) :
    (toString (Int.negSucc n)).toList = '-' :: Nat.toDigits 10 (n + 1) := by
  show ("-" ++ Nat.repr (n + 1)).toList = _
  rw [String.toList_append, Nat.toList_repr]
  rfl

theorem head_toDigits (hn : 0 < n) : ∃ c cs, Nat.toDigits 10 n = c :: cs ∧ c ≠ '0' := by
  induction n using Nat.strongRecOn with
  | ind n ih =>
      by_cases hlt : n < 10
      · refine ⟨n.digitChar, [], Nat.toDigits_of_lt_base hlt, ?_⟩
        have hall : ∀ m < 10, 0 < m → m.digitChar ≠ '0' := by decide
        exact hall n hlt hn
      · obtain ⟨c, cs, hdigits, hc⟩ := ih (n / 10) (by omega) (by omega)
        refine ⟨c, cs ++ [(n % 10).digitChar], ?_, hc⟩
        rw [Nat.toDigits_of_base_le (by decide) (by omega), hdigits, List.cons_append]

theorem wholePart?_toDigits (hr : Ends rest) :
    wholePart? (Nat.toDigits 10 n ++ rest) = some (Nat.toDigits 10 n, rest) := by
  rw [wholePart?, spanDigits_append (isDigit_toDigits n) hr]
  cases Nat.eq_zero_or_pos n with
  | inl hzero =>
      rw [hzero, Nat.toDigits_zero]
      rfl
  | inr hpos =>
      obtain ⟨c, cs, hdigits, hc⟩ := head_toDigits hpos
      rw [hdigits]
      split <;> simp_all

theorem fractionPart?_ends (hr : Ends rest) : fractionPart? rest = some ([], rest) := by
  unfold fractionPart?
  split
  next => exact absurd rfl (hr _ rfl).2.1
  next => rfl

theorem exponentPart?_ends (hr : Ends rest) : exponentPart? rest = some (none, rest) := by
  unfold exponentPart?
  split
  next => exact absurd rfl (hr _ rfl).2.2.1
  next => exact absurd rfl (hr _ rfl).2.2.2
  next => rfl

theorem numeral?_neg_toDigits (n : Nat) (hr : Ends rest) :
    ∃ literal, numeral? ('-' :: Nat.toDigits 10 n ++ rest) =
      some (⟨true, Nat.toDigits 10 n, [], none, literal⟩, rest) := by
  simp only [numeral?, List.cons_append, wholePart?_toDigits hr, fractionPart?_ends hr,
    exponentPart?_ends hr, Option.bind_eq_bind, Option.bind_some]
  exact ⟨_, rfl⟩

theorem numeral?_toDigits (n : Nat) (hr : Ends rest) :
    ∃ literal, numeral? (Nat.toDigits 10 n ++ rest) =
      some (⟨false, Nat.toDigits 10 n, [], none, literal⟩, rest) := by
  have hwhole := wholePart?_toDigits (n := n) hr
  obtain ⟨c, cs, hdigits, hdigit⟩ := toDigits_eq_cons n
  have hc : c ≠ '-' := by
    rintro rfl
    cases hdigit
  rw [hdigits, List.cons_append] at hwhole ⊢
  refine ⟨String.ofList ((c :: (cs ++ rest)).take ((c :: (cs ++ rest)).length - rest.length)), ?_⟩
  unfold numeral?
  split
  next negative unsigned heq =>
    split at heq
    next heq' => exact absurd (List.cons.inj heq').1 hc
    next =>
      cases heq
      simp only [hwhole, fractionPart?_ends hr, exponentPart?_ends hr,
        Option.bind_eq_bind, Option.bind_some]

def Fits (n : Int) : Prop :=
  -9223372036854775808 ≤ n ∧ n < 18446744073709551616

theorem value_eq_integer {m : Numeral} {n : Int} (hn : Fits n)
    (hwhole : m.whole = Nat.toDigits 10 n.natAbs) (hnegative : m.negative = true ↔ n < 0)
    (hfraction : m.fraction = []) (hexponent : m.exponent = none) : m.value = .integer n := by
  have hsigned : (if m.negative then -(n.natAbs : Int) else n.natAbs) = n := by
    split
    next h =>
      have := hnegative.mp h
      omega
    next h =>
      have := mt hnegative.mpr h
      omega
  have hzero : (m.negative && ((n.natAbs : Int) == 0)) = false := by
    cases hm : m.negative with
    | false => rfl
    | true =>
        have := hnegative.mp hm
        simp only [Bool.true_and, beq_eq_false_iff_ne]
        omega
  simp only [Numeral.value, hwhole, naturalOf_toDigits, hsigned, hfraction, hexponent, hzero]
  simp [hn.1, hn.2]

theorem numeral?_toString {n : Int} (hn : Fits n) (hr : Ends rest) :
    ∃ m, numeral? ((toString n).toList ++ rest) = some (m, rest) ∧ m.value = .integer n := by
  cases n with
  | ofNat n =>
      obtain ⟨literal, h⟩ := numeral?_toDigits n hr
      rw [toList_toString_ofNat]
      exact ⟨_, h, value_eq_integer hn rfl (by simp) rfl rfl⟩
  | negSucc n =>
      obtain ⟨literal, h⟩ := numeral?_neg_toDigits (n + 1) hr
      rw [toList_toString_negSucc]
      exact ⟨_, h, value_eq_integer hn rfl (by simp) rfl rfl⟩

end

variable {cs rest : List Char} {c : Char}

theorem hexValue?_hexDigit {n : Nat} (hn : n < 16) : hexValue? (hexDigit n) = some n := by
  have hall : ∀ n < 16, hexValue? (hexDigit n) = some n := by decide
  exact hall n hn

theorem escapedUnit?_control (hc : c.toNat < 0x20) :
    escapedUnit? '0' '0' (hexDigit (c.toNat / 16)) (hexDigit (c.toNat % 16)) = some c.toNat := by
  have hzero : hexValue? '0' = some 0 := rfl
  simp only [escapedUnit?, hzero, hexValue?_hexDigit (show c.toNat / 16 < 16 by omega),
    hexValue?_hexDigit (Nat.mod_lt c.toNat (by decide : 0 < 16)), Option.bind_eq_bind,
    Option.bind_some]
  congr 1
  omega

theorem quotedUnits?_short {e c : Char} (he : e ≠ 'u') (h : shortEscape? e = some c)
    (rest : List Char) :
    quotedUnits? ('\\' :: e :: rest) =
      quotedUnits? rest >>= fun (units, rest) => some (c.toNat :: units, rest) := by
  rw [quotedUnits?.eq_def]
  split
  next heq => cases heq
  next heq => cases heq
  next heq =>
    injection heq with _ heq
    injection heq with heq _
    exact absurd heq he
  next heq =>
    cases heq
    rw [h]
    rfl
  next hshort heq =>
    cases heq
    exact absurd rfl (hshort e rest rfl)

theorem quotedUnits?_plain (hquote : c ≠ '"') (hslash : c ≠ '\\') (hc : ¬c.toNat < 0x20)
    (rest : List Char) :
    quotedUnits? (c :: rest) =
      quotedUnits? rest >>= fun (units, rest) => some (c.toNat :: units, rest) := by
  rw [quotedUnits?.eq_def]
  split
  next heq => cases heq
  next heq => exact absurd (List.cons.inj heq).1 hquote
  next heq => exact absurd (List.cons.inj heq).1 hslash
  next heq => exact absurd (List.cons.inj heq).1 hslash
  next heq =>
    cases heq
    rw [if_neg (by simp [hc, hslash])]

theorem quotedUnits?_escapedChar (c : Char) (rest : List Char) :
    quotedUnits? (escapedChar c ++ rest) =
      quotedUnits? rest >>= fun (units, rest) => some (c.toNat :: units, rest) := by
  unfold escapedChar
  split
  -- the last case is that of the characters that have no short escape
  case h_8 hquote hslash _ _ _ _ _ =>
    split
    next hc =>
      simp only [List.cons_append, List.nil_append]
      rw [quotedUnits?, escapedUnit?_control hc]
      rfl
    next hc => exact quotedUnits?_plain hquote hslash hc rest
  all_goals exact quotedUnits?_short (by decide) rfl rest

theorem quotedUnits?_escaped (cs rest : List Char) :
    quotedUnits? (cs.flatMap escapedChar ++ '"' :: rest) = some (cs.map Char.toNat, rest) := by
  induction cs with
  | nil => rw [List.flatMap_nil, List.nil_append, quotedUnits?, List.map_nil]
  | cons c cs ih =>
      rw [List.flatMap_cons, List.append_assoc, quotedUnits?_escapedChar, ih]
      rfl

theorem not_surrogate (c : Char) : ¬(0xd800 ≤ c.toNat ∧ c.toNat < 0xe000) := by
  have hvalid : c.toNat < 0xd800 ∨ 0xdfff < c.toNat ∧ c.toNat < 0x110000 := c.valid
  omega

theorem textOfUnits?_toNat (cs : List Char) : textOfUnits? (cs.map Char.toNat) = some cs := by
  induction cs with
  | nil => rfl
  | cons c cs ih =>
      have hc := not_surrogate c
      cases cs with
      | nil => rw [List.map_cons, List.map_nil, textOfUnits?, if_neg hc, Char.ofNat_toNat]
      | cons d cs =>
          rw [List.map_cons] at ih
          rw [List.map_cons, List.map_cons, textOfUnits?, if_neg (by omega), if_neg hc, ih,
            Char.ofNat_toNat]
          rfl

theorem quotedText?_escaped (s : String) (rest : List Char) :
    quotedText? (s.toList.flatMap escapedChar ++ '"' :: rest) = some (some s, rest) := by
  simp only [quotedText?, quotedUnits?_escaped, textOfUnits?_toNat, Option.bind_eq_bind,
    Option.bind_some, Option.map_some, String.ofList_toList]

end DatabaseSchema.Json
