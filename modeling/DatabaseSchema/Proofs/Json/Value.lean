import DatabaseSchema.Proofs.Json.Scalars

namespace DatabaseSchema.Json

variable {c : Char} {cs blanks rest : List Char} {fuel level : Nat} {l : Layout} {j : Json}

inductive Plain : Json → Prop where
  | null : Plain .null
  | bool (b : Bool) : Plain (.bool b)
  | integer {n : Int} : Fits n → Plain (.integer n)
  | text (s : String) : Plain (.text s)
  | list {items : List Json} : (∀ j ∈ items, Plain j) → Plain (.list items)
  | object {members : List (String × Json)} : (∀ m ∈ members, Plain m.2) → Plain (.object members)

def Blank (cs : List Char) : Prop :=
  ∀ c ∈ cs, isSpace c = true

structure Layout.Spaced (l : Layout) : Prop where
  newline : ∀ level, Blank (l.newline level).toList
  colon : ∃ before after, l.colon.toList = before ++ ':' :: after ∧ Blank before ∧ Blank after

theorem spaced_compact : Layout.compact.Spaced where
  newline _ := by simp [Layout.compact, Blank]
  colon := ⟨[], [], rfl, by simp [Blank], by simp [Blank]⟩

theorem spaced_indented : Layout.indented.Spaced where
  newline level := by
    intro c hc
    have htext : (Layout.indented.newline level).toList =
        '\n' :: List.replicate (2 * level) ' ' := by
      simp [Layout.indented, indentation]
    rw [htext] at hc
    rcases List.mem_cons.mp hc with rfl | hc
    · rfl
    · rw [List.eq_of_mem_replicate hc]
      rfl
  colon := ⟨[], [' '], rfl, by simp [Blank], by simp [Blank, isSpace]⟩

theorem skipSpace_append (hb : Blank blanks) (rest : List Char) :
    skipSpace (blanks ++ rest) = skipSpace rest :=
  List.dropWhile_append_of_pos hb

theorem skipSpace_cons (hc : isSpace c = false) (cs : List Char) : skipSpace (c :: cs) = c :: cs := by
  rw [skipSpace, List.dropWhile_cons, hc]
  rfl

theorem ends_append (hb : Blank blanks) (hr : Ends rest) : Ends (blanks ++ rest) := by
  cases blanks with
  | nil => exact hr
  | cons b blanks =>
      rintro c ⟨⟩
      have hspace := hb b List.mem_cons_self
      simp only [isSpace, Bool.or_eq_true, beq_iff_eq] at hspace
      rcases hspace with ((rfl | rfl) | rfl) | rfl <;> decide

theorem ends_bracket (rest : List Char) : Ends (']' :: rest) := by
  rintro c ⟨⟩
  decide

theorem ends_brace (rest : List Char) : Ends ('\x7d' :: rest) := by
  rintro c ⟨⟩
  decide

theorem ends_comma (rest : List Char) : Ends (',' :: rest) := by
  rintro c ⟨⟩
  decide

def Begins (cs : List Char) : Prop :=
  ∃ c rest, cs = c :: rest ∧ isSpace c = false ∧ c ≠ ']' ∧ c ≠ '\x7d'

theorem Begins.append (h : Begins cs) (rest : List Char) : Begins (cs ++ rest) := by
  obtain ⟨c, cs, rfl, hc⟩ := h
  exact ⟨c, cs ++ rest, rfl, hc⟩

theorem Begins.skipSpace (h : Begins cs) (hb : Blank blanks) :
    skipSpace (blanks ++ cs) = cs := by
  obtain ⟨c, cs, rfl, hc, -⟩ := h
  rw [skipSpace_append hb, skipSpace_cons hc]

theorem begins_quoteChars (s : String) : Begins (quoteChars s) :=
  ⟨'"', _, rfl, by decide⟩

theorem Layout.Spaced.skip_colon (hl : l.Spaced) :
    ∃ after, Blank after ∧
      ∀ rest, skipSpace (l.colon.toList ++ rest) = ':' :: (after ++ rest) := by
  obtain ⟨before, after, hcolon, hbefore, hafter⟩ := hl.colon
  refine ⟨after, hafter, fun rest => ?_⟩
  rw [hcolon, List.append_assoc, skipSpace_append hbefore, List.cons_append, skipSpace_cons rfl]

theorem value?_quote (fuel : Nat) (rest : List Char) :
    value? (fuel + 1) ('"' :: rest) =
      quotedText? rest >>= fun (s, rest) => some ((s.map Json.text).getD .broken, rest) :=
  rfl

theorem value?_bracket (fuel : Nat) (rest : List Char) :
    value? (fuel + 1) ('[' :: rest) =
      match skipSpace rest with
      | ']' :: rest => some (.list [], rest)
      | rest => items? fuel rest >>= fun (items, rest) => some (.list items, rest) :=
  rfl

theorem value?_brace (fuel : Nat) (rest : List Char) :
    value? (fuel + 1) ('\x7b' :: rest) =
      match skipSpace rest with
      | '\x7d' :: rest => some (.object [], rest)
      | rest => members? fuel rest >>= fun (members, rest) => some (objectOf members, rest) :=
  rfl

theorem items?_succ (fuel : Nat) (cs : List Char) :
    items? (fuel + 1) cs = value? fuel cs >>= fun (j, rest) =>
      match skipSpace rest with
      | ',' :: rest => items? fuel (skipSpace rest) >>= fun (items, rest) => some (j :: items, rest)
      | ']' :: rest => some ([j], rest)
      | _ => none :=
  rfl

theorem members?_quote (fuel : Nat) (rest : List Char) :
    members? (fuel + 1) ('"' :: rest) = quotedText? rest >>= fun (name, rest) =>
      match skipSpace rest with
      | ':' :: rest => value? fuel (skipSpace rest) >>= fun (j, rest) =>
          match skipSpace rest with
          | ',' :: rest =>
              members? fuel (skipSpace rest) >>= fun (members, rest) =>
                some ((name, j) :: members, rest)
          | '\x7d' :: rest => some ([(name, j)], rest)
          | _ => none
      | _ => none :=
  rfl

theorem value?_number (hc : c = '-' ∨ c.isDigit = true) :
    value? (fuel + 1) (c :: cs) = numeral? (c :: cs) >>= fun (n, rest) => some (n.value, rest) := by
  rw [value?.eq_def]
  dsimp only
  split <;> simp_all

theorem value?_text (s : String) (rest : List Char) :
    value? (fuel + 1) (quoteChars s ++ rest) = some (.text s, rest) := by
  have htext := quotedText?_escaped s rest
  simp only [quoteChars, List.cons_append, List.append_assoc, List.nil_append]
  rw [value?_quote, htext]
  rfl

theorem value?_list {next : List Char} (hnext : Begins next) (hskip : skipSpace rest = next) :
    value? (fuel + 1) ('[' :: rest) =
      items? fuel next >>= fun (items, rest) => some (.list items, rest) := by
  obtain ⟨c, cs, rfl, -, hc, -⟩ := hnext
  rw [value?_bracket, hskip]
  split
  next h => exact absurd (List.cons.inj h).1 hc
  next => rfl

theorem value?_object {next : List Char} (hnext : Begins next) (hskip : skipSpace rest = next) :
    value? (fuel + 1) ('\x7b' :: rest) =
      members? fuel next >>= fun (members, rest) => some (objectOf members, rest) := by
  obtain ⟨c, cs, rfl, -, -, hc⟩ := hnext
  rw [value?_brace, hskip]
  split
  next h => exact absurd (List.cons.inj h).1 hc
  next => rfl

theorem items?_last {more : List Char} (hvalue : value? fuel cs = some (j, more))
    (hskip : skipSpace more = ']' :: rest) : items? (fuel + 1) cs = some ([j], rest) := by
  rw [items?_succ, hvalue, Option.bind_eq_bind, Option.bind_some]
  simp only [hskip]

theorem items?_more {more next : List Char} (hvalue : value? fuel cs = some (j, ',' :: more))
    (hskip : skipSpace more = next) :
    items? (fuel + 1) cs = items? fuel next >>= fun (items, rest) => some (j :: items, rest) := by
  have hcomma := skipSpace_cons (c := ',') rfl more
  rw [items?_succ, hvalue, Option.bind_eq_bind, Option.bind_some]
  simp only [hcomma, hskip]

section

variable {name : String} {colon value : List Char}

theorem members?_last {more : List Char} (hcolon : skipSpace colon = ':' :: value)
    (hvalue : value? fuel (skipSpace value) = some (j, more))
    (hskip : skipSpace more = '\x7d' :: rest) :
    members? (fuel + 1) (quoteChars name ++ colon) = some ([(some name, j)], rest) := by
  have htext := quotedText?_escaped name colon
  simp only [quoteChars, List.cons_append, List.append_assoc, List.nil_append]
  rw [members?_quote, htext]
  simp only [Option.bind_eq_bind, Option.bind_some, hcolon, hvalue, hskip]

theorem members?_more {more next : List Char} (hcolon : skipSpace colon = ':' :: value)
    (hvalue : value? fuel (skipSpace value) = some (j, ',' :: more))
    (hskip : skipSpace more = next) :
    members? (fuel + 1) (quoteChars name ++ colon) =
      members? fuel next >>= fun (members, rest) => some ((some name, j) :: members, rest) := by
  have htext := quotedText?_escaped name colon
  have hcomma := skipSpace_cons (c := ',') rfl more
  simp only [quoteChars, List.cons_append, List.append_assoc, List.nil_append]
  rw [members?_quote, htext]
  simp only [Option.bind_eq_bind, Option.bind_some, hcolon, hvalue, hcomma, hskip]

end

theorem objectOf_eq (members : List (String × Json)) :
    objectOf (members.map fun m => (some m.1, m.2)) = .object members := by
  have hmapM : (members.map fun m => (some m.1, m.2)).mapM (fun m => m.1.map (·, m.2)) =
      some members := by
    induction members with
    | nil => rfl
    | cons m members ih =>
        rw [List.map_cons, List.mapM_cons, ih]
        rfl
  rw [objectOf, hmapM]

theorem begins_toString (n : Int) :
    ∃ c rest, (toString n).toList = c :: rest ∧ (c = '-' ∨ c.isDigit = true) := by
  cases n with
  | ofNat n =>
      obtain ⟨c, cs, hdigits, hdigit⟩ := toDigits_eq_cons n
      exact ⟨c, cs, (toList_toString_ofNat n).trans hdigits, .inr hdigit⟩
  | negSucc n => exact ⟨'-', _, toList_toString_negSucc n, .inl rfl⟩

theorem begins_of_number (hc : c = '-' ∨ c.isDigit = true) (cs : List Char) : Begins (c :: cs) := by
  have hne : ∀ d, d ≠ '-' → d.isDigit = false → c ≠ d := by
    rintro d hd hd' rfl
    rcases hc with hc | hc
    · exact hd hc
    · rw [hc] at hd'
      cases hd'
  refine ⟨c, cs, rfl, ?_, hne _ (by decide) rfl, hne _ (by decide) rfl⟩
  simp only [isSpace, Bool.or_eq_false_iff, beq_eq_false_iff_ne]
  exact ⟨⟨⟨hne _ (by decide) rfl, hne _ (by decide) rfl⟩, hne _ (by decide) rfl⟩,
    hne _ (by decide) rfl⟩

section

variable (l : Layout) (level : Nat)

theorem write_null : write l level .null = "null" := rfl

theorem write_bool (b : Bool) : write l level (.bool b) = if b then "true" else "false" := rfl

theorem write_list_nil : write l level (.list []) = "[]" := rfl

theorem write_object_nil : write l level (.object []) = "\x7b\x7d" := rfl

theorem toList_write_list (j : Json) (items : List Json) :
    (write l level (.list (j :: items))).toList =
      '[' :: ((l.newline (level + 1)).toList ++ ((write l (level + 1) j).toList ++
        ((writeItems l (level + 1) items).toList ++ ((l.newline level).toList ++ [']'])))) := by
  simp [write]

theorem toList_writeItems (j : Json) (items : List Json) :
    (writeItems l level (j :: items)).toList =
      ',' :: ((l.newline level).toList ++ ((write l level j).toList ++
        (writeItems l level items).toList)) := by
  simp [writeItems]

theorem toList_write_object (m : String × Json) (members : List (String × Json)) :
    (write l level (.object (m :: members))).toList =
      '\x7b' :: ((l.newline (level + 1)).toList ++ (quoteChars m.1 ++ (l.colon.toList ++
        ((write l (level + 1) m.2).toList ++ ((writeMembers l (level + 1) members).toList ++
          ((l.newline level).toList ++ ['\x7d'])))))) := by
  simp [write, quote]

theorem toList_writeMembers (m : String × Json) (members : List (String × Json)) :
    (writeMembers l level (m :: members)).toList =
      ',' :: ((l.newline level).toList ++ (quoteChars m.1 ++ (l.colon.toList ++
        ((write l level m.2).toList ++ (writeMembers l level members).toList)))) := by
  simp [writeMembers, quote]

theorem begins_write (h : Plain j) : Begins (write l level j).toList := by
  cases h with
  | null => exact ⟨'n', ['u', 'l', 'l'], by rw [write_null]; rfl, by decide⟩
  | bool b =>
      cases b with
      | true => exact ⟨'t', ['r', 'u', 'e'], by rw [write_bool]; rfl, by decide⟩
      | false => exact ⟨'f', ['a', 'l', 's', 'e'], by rw [write_bool]; rfl, by decide⟩
  | @integer n _ =>
      obtain ⟨c, cs, htext, hc⟩ := begins_toString n
      show Begins (toString n).toList
      rw [htext]
      exact begins_of_number hc cs
  | text s =>
      refine ⟨'"', s.toList.flatMap escapedChar ++ ['"'], ?_, by decide⟩
      simp [write, quote, quoteChars]
  | @list items _ =>
      cases items with
      | nil => exact ⟨'[', [']'], by rw [write_list_nil]; rfl, by decide⟩
      | cons j items => exact ⟨'[', _, toList_write_list l level j items, by decide⟩
  | @object members _ =>
      cases members with
      | nil => exact ⟨'\x7b', ['\x7d'], by rw [write_object_nil]; rfl, by decide⟩
      | cons m members => exact ⟨'\x7b', _, toList_write_object l level m members, by decide⟩

end

def Reads (l : Layout) (j : Json) : Prop :=
  ∀ level fuel rest, (write l level j).length ≤ fuel → Ends rest →
    value? (fuel + 1) ((write l level j).toList ++ rest) = some (j, rest)

section

variable (hl : l.Spaced) (hb : Blank blanks)

include hl hb

theorem items?_write (level fuel : Nat) (rest : List Char) {items : List Json}
    (hplain : ∀ i ∈ j :: items, Plain i)
    (hreads : ∀ i ∈ j :: items, Reads l i)
    (hfuel : (write l level j).length + (writeItems l level items).length + 1 < fuel) :
    items? fuel ((write l level j).toList ++ ((writeItems l level items).toList ++
      (blanks ++ ']' :: rest))) = some (j :: items, rest) := by
  induction items generalizing j fuel with
  | nil =>
      obtain ⟨fuel, rfl⟩ : ∃ f, fuel = f + 2 := ⟨fuel - 2, by omega⟩
      have hj := hreads j List.mem_cons_self level fuel (blanks ++ ']' :: rest) (by omega)
        (ends_append hb (ends_bracket rest))
      rw [writeItems, String.toList_empty, List.nil_append]
      refine items?_last hj ?_
      rw [skipSpace_append hb, skipSpace_cons rfl]
  | cons i items ih =>
      obtain ⟨fuel, rfl⟩ : ∃ f, fuel = f + 2 := ⟨fuel - 2, by omega⟩
      have hlength := congrArg List.length (toList_writeItems l level i items)
      simp only [List.length_cons, List.length_append, String.length_toList] at hlength
      have hj := hreads j List.mem_cons_self level fuel (',' :: ((l.newline level).toList ++
        ((write l level i).toList ++ ((writeItems l level items).toList ++
          (blanks ++ ']' :: rest))))) (by omega) (ends_comma _)
      have hskip := ((begins_write l level (hplain i (by simp))).append
        ((writeItems l level items).toList ++ (blanks ++ ']' :: rest))).skipSpace (hl.newline level)
      have hitems := ih (fuel + 1) (fun i hi => hplain i (List.mem_cons_of_mem j hi))
        (fun i hi => hreads i (List.mem_cons_of_mem j hi)) (by omega)
      rw [toList_writeItems]
      simp only [List.cons_append, List.append_assoc]
      rw [items?_more hj hskip, hitems]
      rfl

theorem members?_write (level fuel : Nat) (rest : List Char) {m : String × Json}
    {members : List (String × Json)} (hplain : ∀ i ∈ m :: members, Plain i.2)
    (hreads : ∀ i ∈ m :: members, Reads l i.2)
    (hfuel : (write l level m.2).length + (writeMembers l level members).length + 1 < fuel) :
    members? fuel (quoteChars m.1 ++ (l.colon.toList ++ ((write l level m.2).toList ++
      ((writeMembers l level members).toList ++ (blanks ++ '\x7d' :: rest))))) =
        some ((m :: members).map fun m => (some m.1, m.2), rest) := by
  obtain ⟨after, hafter, hcolon⟩ := hl.skip_colon
  induction members generalizing m fuel with
  | nil =>
      obtain ⟨fuel, rfl⟩ : ∃ f, fuel = f + 2 := ⟨fuel - 2, by omega⟩
      have hvalue := hreads m List.mem_cons_self level fuel (blanks ++ '\x7d' :: rest) (by omega)
        (ends_append hb (ends_brace rest))
      have hstart := ((begins_write l level (hplain m List.mem_cons_self)).append
        (blanks ++ '\x7d' :: rest)).skipSpace hafter
      rw [writeMembers, String.toList_empty, List.nil_append]
      refine members?_last (hcolon _) (hstart ▸ hvalue) ?_
      rw [skipSpace_append hb, skipSpace_cons rfl]
  | cons i members ih =>
      obtain ⟨fuel, rfl⟩ : ∃ f, fuel = f + 2 := ⟨fuel - 2, by omega⟩
      have hlength := congrArg List.length (toList_writeMembers l level i members)
      simp only [List.length_cons, List.length_append, String.length_toList] at hlength
      have hmembers := ih (fuel + 1) (fun i hi => hplain i (List.mem_cons_of_mem m hi))
        (fun i hi => hreads i (List.mem_cons_of_mem m hi)) (by omega)
      have hvalue := hreads m List.mem_cons_self level fuel (',' :: ((l.newline level).toList ++
        (quoteChars i.1 ++ (l.colon.toList ++ ((write l level i.2).toList ++
          ((writeMembers l level members).toList ++ (blanks ++ '\x7d' :: rest)))))))
        (by omega) (ends_comma _)
      have hstart := ((begins_write l level (hplain m List.mem_cons_self)).append (',' ::
        ((l.newline level).toList ++ (quoteChars i.1 ++ (l.colon.toList ++
          ((write l level i.2).toList ++ ((writeMembers l level members).toList ++
            (blanks ++ '\x7d' :: rest)))))))).skipSpace hafter
      have hskip := ((begins_quoteChars i.1).append (l.colon.toList ++
        ((write l level i.2).toList ++ ((writeMembers l level members).toList ++
          (blanks ++ '\x7d' :: rest))))).skipSpace (hl.newline level)
      rw [toList_writeMembers]
      simp only [List.cons_append, List.append_assoc]
      rw [members?_more (hcolon _) (hstart ▸ hvalue) hskip, hmembers]
      rfl

end

theorem toList_write_text (l : Layout) (level : Nat) (s : String) :
    (write l level (.text s)).toList = quoteChars s :=
  String.toList_ofList

theorem reads_null : Reads l .null := by
  intro level fuel rest hfuel hr
  rw [write_null]
  rfl

theorem reads_bool (b : Bool) : Reads l (.bool b) := by
  intro level fuel rest hfuel hr
  rw [write_bool]
  cases b with
  | true => rfl
  | false => rfl

theorem reads_integer {n : Int} (hn : Fits n) : Reads l (.integer n) := by
  intro level fuel rest hfuel hr
  obtain ⟨m, hm, hvalue⟩ := numeral?_toString hn hr
  obtain ⟨c, cs, htext, hc⟩ := begins_toString n
  show value? (fuel + 1) ((toString n).toList ++ rest) = _
  rw [htext, List.cons_append] at hm ⊢
  rw [value?_number hc, hm, Option.bind_eq_bind, Option.bind_some]
  simp only [hvalue]

theorem reads_text (s : String) : Reads l (.text s) := by
  intro level fuel rest hfuel hr
  rw [toList_write_text, value?_text]

-- Each list and each object uses up one unit of fuel before its items are read.
theorem reads_list (hl : l.Spaced) {items : List Json} (hplain : ∀ j ∈ items, Plain j)
    (hreads : ∀ j ∈ items, Reads l j) : Reads l (.list items) := by
  intro level fuel rest hfuel hr
  cases items with
  | nil =>
      rw [write_list_nil]
      show value? (fuel + 1) ('[' :: ']' :: rest) = _
      rw [value?_bracket, skipSpace_cons rfl]
      rfl
  | cons j items =>
      have hlength := congrArg List.length (toList_write_list l level j items)
      simp only [List.length_cons, List.length_append, String.length_toList,
        List.length_nil] at hlength
      have hitems := items?_write hl (hl.newline level) (level + 1) fuel rest hplain hreads
        (by omega)
      have hbegins := (begins_write l (level + 1) (hplain j List.mem_cons_self)).append
        ((writeItems l (level + 1) items).toList ++ ((l.newline level).toList ++ ']' :: rest))
      rw [toList_write_list]
      simp only [List.cons_append, List.append_assoc, List.nil_append]
      rw [value?_list hbegins (hbegins.skipSpace (hl.newline (level + 1))), hitems]
      rfl

theorem reads_object (hl : l.Spaced) {members : List (String × Json)}
    (hplain : ∀ m ∈ members, Plain m.2) (hreads : ∀ m ∈ members, Reads l m.2) :
    Reads l (.object members) := by
  intro level fuel rest hfuel hr
  cases members with
  | nil =>
      rw [write_object_nil]
      show value? (fuel + 1) ('\x7b' :: '\x7d' :: rest) = _
      rw [value?_brace, skipSpace_cons rfl]
      rfl
  | cons m members =>
      have hlength := congrArg List.length (toList_write_object l level m members)
      simp only [List.length_cons, List.length_append, String.length_toList,
        List.length_nil] at hlength
      have hmembers := members?_write hl (hl.newline level) (level + 1) fuel rest hplain hreads
        (by omega)
      have hbegins := (begins_quoteChars m.1).append (l.colon.toList ++
        ((write l (level + 1) m.2).toList ++ ((writeMembers l (level + 1) members).toList ++
          ((l.newline level).toList ++ '\x7d' :: rest))))
      rw [toList_write_object]
      simp only [List.cons_append, List.append_assoc, List.nil_append]
      rw [value?_object hbegins (hbegins.skipSpace (hl.newline (level + 1))), hmembers,
        Option.bind_eq_bind, Option.bind_some]
      simp only [objectOf_eq]

theorem reads_of_plain (hl : l.Spaced) (h : Plain j) : Reads l j := by
  induction h with
  | null => exact reads_null
  | bool b => exact reads_bool b
  | integer hn => exact reads_integer hn
  | text s => exact reads_text s
  | list hplain hreads => exact reads_list hl hplain hreads
  | object hplain hreads => exact reads_object hl hplain hreads

theorem parse?_write (hl : l.Spaced) (level : Nat) (h : Plain j) :
    parse? (write l level j) = some j := by
  have hread := reads_of_plain hl h level (write l level j).length [] (Nat.le_refl _) nofun
  have hempty : Blank [] := nofun
  have hskip : skipSpace (write l level j).toList = (write l level j).toList :=
    (begins_write l level h).skipSpace hempty
  rw [List.append_nil] at hread
  rw [parse?, hskip, hread]
  rfl

end DatabaseSchema.Json
