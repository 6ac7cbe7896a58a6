import DatabaseSchema.Proofs.Expansion
import DatabaseSchema.Proofs.Text.Containment

namespace DatabaseSchema.Expansion

variable {e : Environment} {cs rest : List Char} {c : Char}

structure Unreferenced (cs : List Char) : Prop where
  bare : ∀ c, isNameChar c = true → ¬['$', c] <:+: cs
  braced : ∀ c, c ≠ '\x7d' → ¬['$', '\x7b', c] <:+: cs

def isUnreferenced (cs : List Char) : Bool :=
  cs.all fun c =>
    (!isNameChar c || !Text.containsPart ['$', c] cs) &&
      (c == '\x7d' || !Text.containsPart ['$', '\x7b', c] cs)

theorem unreferenced_of_isUnreferenced (h : isUnreferenced cs = true) : Unreferenced cs := by
  have hall : ∀ c ∈ cs, (isNameChar c = true → ¬['$', c] <:+: cs) ∧
      (c ≠ '\x7d' → ¬['$', '\x7b', c] <:+: cs) := by
    intro c hc
    have hchar := List.all_eq_true.mp h c hc
    simp only [Bool.and_eq_true, Bool.or_eq_true, Bool.not_eq_true', ← Bool.not_eq_true,
      Text.containsPart_iff, beq_iff_eq] at hchar
    exact ⟨fun hname => hchar.1.resolve_left (not_not.mpr hname), hchar.2.resolve_left⟩
  constructor
  · exact fun c hc hpart => (hall c (hpart.subset (by simp))).1 hc hpart
  · exact fun c hc hpart => (hall c (hpart.subset (by simp))).2 hc hpart

-- The text without the empty braces after dollar signs, and without a brace that ends the text
-- after one.
def withoutBraces : List Char → List Char
  | '$' :: '\x7b' :: '\x7d' :: cs => '$' :: withoutBraces cs
  | ['$', '\x7b'] => ['$']
  | c :: cs => c :: withoutBraces cs
  | [] => []

theorem Unreferenced.of_suffix (h : Unreferenced cs) (hrest : rest <:+ cs) : Unreferenced rest where
  bare c hc hpart := h.bare c hc (hpart.trans hrest.isInfix)
  braced c hc hpart := h.braced c hc (hpart.trans hrest.isInfix)

theorem Unreferenced.tail (h : Unreferenced (c :: cs)) : Unreferenced cs :=
  h.of_suffix (List.suffix_cons c cs)

theorem Unreferenced.after_dollar (h : Unreferenced ('$' :: cs)) :
    (∀ c ∈ cs.head?, isNameChar c = false) ∧
      (cs.head? = some '\x7b' → cs = ['\x7b'] ∨ ∃ rest, cs = '\x7b' :: '\x7d' :: rest) := by
  cases cs with
  | nil => simp
  | cons c cs =>
      constructor
      · rintro _ ⟨⟩
        rw [← Bool.not_eq_true]
        exact fun hc => h.bare c hc ⟨[], cs, rfl⟩
      · rintro ⟨⟩
        cases cs with
        | nil => exact .inl rfl
        | cons d cs =>
            by_cases hd : d = '\x7d'
            · exact .inr ⟨cs, by rw [hd]⟩
            · exact absurd ⟨[], cs, rfl⟩ (h.braced d hd)

theorem pieces_unreferenced (h : Unreferenced cs) :
    pieces cs = (withoutBraces cs).map .plain := by
  induction cs using withoutBraces.induct with
  | case1 cs ih =>
      rw [pieces_dollar, withoutBraces, List.map_cons,
        ← ih (h.of_suffix ⟨['$', '\x7b', '\x7d'], rfl⟩)]
      rfl
  | case2 =>
      rw [pieces_dollar, withoutBraces]
      simp [splitName, pieceOf, pieces]
  | case3 c cs hempty hcut ih =>
      rw [withoutBraces, List.map_cons, ← ih h.tail]
      · by_cases hc : c = '$'
        · subst hc
          obtain ⟨hname, hbrace⟩ := h.after_dollar
          -- the two ways to go on with a brace are the cases before
          have hhead : ([] ++ cs).head? ≠ some '\x7b' := by
            intro hhead
            obtain rfl | ⟨rest, rfl⟩ := hbrace hhead
            · exact hcut rfl rfl
            · exact hempty rest rfl rfl
          have hsplit : splitName cs = ([], cs) := splitName_bare (by simp) hname hhead
          rw [pieces_dollar, hsplit]
          rfl
        · exact pieces_plain hc
      · exact hempty
      · exact hcut
  | case4 => simp [pieces, withoutBraces]

theorem length_withoutBraces_le (cs : List Char) : (withoutBraces cs).length ≤ cs.length := by
  induction cs using withoutBraces.induct with
  | case1 cs ih =>
      simp only [withoutBraces, List.length_cons]
      omega
  | case2 => simp [withoutBraces]
  | case3 c cs hempty hcut ih =>
      rw [withoutBraces]
      · simpa using ih
      · exact hempty
      · exact hcut
  | case4 => simp [withoutBraces]

theorem withoutBraces_eq_iff (h : Unreferenced cs) :
    withoutBraces cs = cs ↔ ¬['$', '\x7b'] <:+: cs := by
  induction cs using withoutBraces.induct with
  | case1 cs ih =>
      have hpart : ['$', '\x7b'] <:+: '$' :: '\x7b' :: '\x7d' :: cs := ⟨[], '\x7d' :: cs, rfl⟩
      refine iff_of_false (fun heq => ?_) (not_not.mpr hpart)
      have hle := length_withoutBraces_le cs
      have hlength := congrArg List.length heq
      simp only [withoutBraces, List.length_cons] at hlength
      omega
  | case2 => exact iff_of_false (by simp [withoutBraces]) (not_not.mpr List.infix_rfl)
  | case3 c cs hempty hcut ih =>
      have hstart : ¬['$', '\x7b'] <+: c :: cs := by
        rintro ⟨rest, hrest⟩
        obtain ⟨rfl, rfl⟩ := List.cons.inj hrest
        obtain hend | ⟨rest, hclosed⟩ := h.after_dollar.2 rfl
        · exact hcut rfl hend
        · exact hempty rest rfl hclosed
      rw [withoutBraces, List.cons.injEq, ih h.tail, List.infix_cons_iff]
      · simp [hstart]
      · exact hempty
      · exact hcut
  | case4 => simp [withoutBraces]

theorem expand_of_unreferenced (e : Environment) {s : String} (h : Unreferenced s.toList) :
    e.expand s = .ok (String.ofList (withoutBraces s.toList)) := by
  have hvalues := values_plain (e := e) (withoutBraces s.toList) []
  rw [List.append_nil] at hvalues
  rw [Environment.expand, pieces_unreferenced h, hvalues]
  simp only [values, Except.map, List.append_nil]

theorem expand_unreferenced (e : Environment) (s : String) (h : Unreferenced s.toList) :
    e.expand s = .ok (String.ofList (withoutBraces s.toList)) ∧
      (e.expand s = .ok s ↔ ¬['$', '\x7b'] <:+: s.toList) := by
  have hexpand := expand_of_unreferenced e h
  refine ⟨hexpand, ?_⟩
  rw [hexpand, Except.ok.injEq, ← withoutBraces_eq_iff h, ← String.toList_inj, String.toList_ofList]

theorem expand_unreferenced_mixed :
    let e : Environment := { entries := [("x", "1")] }
    let kept := "x$ $$-$.\x7bx\x7d$"
    let cut := "$$\x7b\x7dx\x7b\x7d$\x7b"
    (Unreferenced kept.toList ∧ e.expand kept = .ok kept) ∧
      Unreferenced cut.toList ∧ e.expand cut = .ok "$$x\x7b\x7d$" := by
  intro e kept cut
  have hkept : Unreferenced kept.toList := unreferenced_of_isUnreferenced (by decide +kernel)
  have hcut : Unreferenced cut.toList := unreferenced_of_isUnreferenced (by decide +kernel)
  refine ⟨⟨hkept, (expand_unreferenced e kept hkept).2.mpr (by decide +kernel)⟩, hcut, ?_⟩
  exact (expand_unreferenced e cut hcut).1.trans (by decide +kernel)

theorem expand_emptyBraces :
    let e : Environment := {}
    (Unreferenced "$\x7b\x7d".toList ∧ e.expand "$\x7b\x7d" = .ok "$" ∧
        e.expand "$\x7b\x7d" ≠ .ok "$\x7b\x7d") ∧
      Unreferenced "$\x7b".toList ∧ e.expand "$\x7b" = .ok "$" ∧
        e.expand "$\x7b" ≠ .ok "$\x7b" := by
  intro e
  have hclosed : Unreferenced "$\x7b\x7d".toList :=
    unreferenced_of_isUnreferenced (by decide +kernel)
  have hcut : Unreferenced "$\x7b".toList := unreferenced_of_isUnreferenced (by decide +kernel)
  rw [expand_of_unreferenced e hclosed, expand_of_unreferenced e hcut]
  exact ⟨⟨hclosed, by decide +kernel⟩, hcut, by decide +kernel⟩

end DatabaseSchema.Expansion
