import DatabaseSchema.Connection
import DatabaseSchema.Proofs.Listwise
import DatabaseSchema.Proofs.Text.Words

namespace DatabaseSchema.Expansion

variable {e : Environment} {name : String} {cs following : List Char}

inductive ReferenceForm where
  | braced
  | bare
  deriving DecidableEq, Repr

inductive Segment where
  | literal (text : String)
  | dollar
  | reference (form : ReferenceForm) (name : String)
  deriving DecidableEq, Repr

namespace Segment

def written : Segment → String
  | literal text => text
  | dollar => "$"
  | reference .braced name => "$\x7b" ++ name ++ "\x7d"
  | reference .bare name => "$" ++ name

-- What a segment may be made of, and what may not follow it lest it be read as more.
def FitsBefore (following : List Char) : Segment → Prop
  | literal text => '$' ∉ text.toList
  | dollar => following.head?.all (fun c => c != '\x7b' && !isNameChar c) = true
  | reference .braced name => name ≠ "" ∧ '\x7d' ∉ name.toList
  | reference .bare name => name ≠ "" ∧ name.toList.all isNameChar = true ∧
      following.head?.all (!isNameChar ·) = true

instance (following : List Char) : (s : Segment) → Decidable (s.FitsBefore following)
  | literal text => inferInstanceAs (Decidable ('$' ∉ text.toList))
  | dollar =>
      inferInstanceAs (Decidable
        (following.head?.all (fun c => c != '\x7b' && !isNameChar c) = true))
  | reference .braced name => inferInstanceAs (Decidable (name ≠ "" ∧ '\x7d' ∉ name.toList))
  | reference .bare name =>
      inferInstanceAs (Decidable (name ≠ "" ∧ name.toList.all isNameChar = true ∧
        following.head?.all (!isNameChar ·) = true))

inductive StandsFor (e : Environment) : Segment → String → Prop where
  | literal (text : String) : StandsFor e (.literal text) text
  | dollar : StandsFor e .dollar "$"
  | reference {form : ReferenceForm} {name value : String} :
      e.value? name = some value → StandsFor e (.reference form name) value

end Segment

def written (segments : List Segment) : String :=
  String.join (segments.map Segment.written)

def Separated : List Segment → Prop
  | [] => True
  | s :: segments => s.FitsBefore (written segments).toList ∧ Separated segments

instance instDecidableSeparated : (segments : List Segment) → Decidable (Separated segments)
  | [] => inferInstanceAs (Decidable True)
  | s :: segments =>
      have := instDecidableSeparated segments
      inferInstanceAs (Decidable (s.FitsBefore (written segments).toList ∧ Separated segments))

theorem pieces_plain {c : Char} (hc : c ≠ '$') : pieces (c :: cs) = .plain c :: pieces cs := by
  rw [pieces, if_neg hc]

theorem pieces_dollar :
    pieces ('$' :: cs) = pieceOf (splitName cs).1 :: pieces (splitName cs).2 := by
  rw [pieces, if_pos rfl]

theorem splitName_bare (hcs : ∀ c ∈ cs, isNameChar c = true)
    (hfollowing : ∀ c ∈ following.head?, isNameChar c = false)
    (hbrace : (cs ++ following).head? ≠ some '\x7b') :
    splitName (cs ++ following) = (cs, following) := by
  unfold splitName
  split
  next cs' heq => simp [heq] at hbrace
  next =>
    rw [Text.takeWhile_append_of_head hcs hfollowing, Text.dropWhile_append_of_head hcs hfollowing]

theorem splitName_braced (hcs : '\x7d' ∉ cs) :
    splitName ('\x7b' :: cs ++ '\x7d' :: following) = (cs, following) := by
  have hinside : ∀ c ∈ cs, (c != '\x7d') = true := by
    rintro c hc
    rw [bne_iff_ne]
    rintro rfl
    exact hcs hc
  simp only [List.cons_append, splitName]
  rw [List.takeWhile_append_of_pos hinside, List.dropWhile_append_of_pos hinside]
  simp

theorem pieceOf_name (hname : name ≠ "") : pieceOf name.toList = .reference name := by
  have hne : name.toList.isEmpty = false := by simpa using hname
  rw [pieceOf, hne, String.ofList_toList]
  rfl

theorem pieces_literal (hcs : '$' ∉ cs) :
    pieces (cs ++ following) = cs.map .plain ++ pieces following := by
  induction cs with
  | nil => rfl
  | cons c cs ih =>
      have hc : c ≠ '$' := fun h => hcs (h ▸ List.mem_cons_self)
      rw [List.cons_append, pieces_plain hc, ih fun h => hcs (List.mem_cons_of_mem c h)]
      rfl

namespace Segment

def pieces : Segment → List Piece
  | literal text => text.toList.map .plain
  | dollar => [.plain '$']
  | reference _ name => [.reference name]

theorem pieces_written {s : Segment} (h : s.FitsBefore following) :
    Expansion.pieces (s.written.toList ++ following) = s.pieces ++ Expansion.pieces following := by
  cases s with
  | literal text => exact pieces_literal h
  | dollar =>
      have hhead : ∀ c ∈ following.head?, c ≠ '\x7b' ∧ isNameChar c = false := by
        simpa [FitsBefore, Option.all_eq_true] using h
      have hsplit : splitName ([] ++ following) = ([], following) :=
        splitName_bare (by simp) (fun c hc => (hhead c hc).2) fun heq => (hhead _ heq).1 rfl
      show Expansion.pieces ('$' :: ([] ++ following)) = _
      rw [pieces_dollar, hsplit]
      rfl
  | reference form name =>
      cases form with
      | braced =>
          obtain ⟨hname, hclosed⟩ := h
          have hwritten : (reference .braced name).written.toList ++ following =
              '$' :: ('\x7b' :: name.toList ++ '\x7d' :: following) := by simp [written]
          rw [hwritten, pieces_dollar, splitName_braced hclosed, pieceOf_name hname]
          rfl
      | bare =>
          obtain ⟨hname, hinside, hfollowing⟩ := h
          rw [List.all_eq_true] at hinside
          have hfollowing : ∀ c ∈ following.head?, isNameChar c = false := by
            simpa [Option.all_eq_true] using hfollowing
          have hne : name.toList ≠ [] := by simpa using hname
          -- a brace would start a name of the other form
          have hbrace : (name.toList ++ following).head? ≠ some '\x7b' := by
            obtain ⟨c, cs, hcs⟩ := List.exists_cons_of_ne_nil hne
            have hc : isNameChar c = true := hinside c (by simp [hcs])
            rw [hcs]
            rintro ⟨⟩
            revert hc
            decide
          have hwritten : (reference .bare name).written.toList ++ following =
              '$' :: (name.toList ++ following) := by simp [written]
          rw [hwritten, pieces_dollar, splitName_bare hinside hfollowing hbrace,
            pieceOf_name hname]
          rfl

end Segment

variable {segments before after : List Segment} {texts : List String}

theorem written_cons (s : Segment) (segments : List Segment) :
    (written (s :: segments)).toList = s.written.toList ++ (written segments).toList := by
  simp [written]

theorem pieces_written (h : Separated segments) :
    pieces (written segments).toList = segments.flatMap Segment.pieces := by
  induction segments with
  | nil => simp [written, pieces]
  | cons s segments ih =>
      rw [written_cons, Segment.pieces_written h.1, ih h.2]
      rfl

theorem values_plain (cs : List Char) (ps : List Piece) :
    values e (cs.map .plain ++ ps) = (values e ps).map (cs ++ ·) := by
  induction cs with
  | nil =>
      simp only [List.map_nil, List.nil_append]
      cases values e ps <;> rfl
  | cons c cs ih =>
      rw [List.map_cons, List.cons_append, values, ih]
      cases values e ps <;> rfl

theorem values_standsFor {s : Segment} {text : String} (h : s.StandsFor e text)
    (ps : List Piece) : values e (s.pieces ++ ps) = (values e ps).map (text.toList ++ ·) := by
  cases h with
  | literal text => exact values_plain text.toList ps
  | dollar => exact values_plain ['$'] ps
  | reference hvalue =>
      rw [Segment.pieces, List.singleton_append, values, Piece.value, hvalue]
      cases values e ps <;> rfl

theorem values_append (h : List.Forall₂ (Segment.StandsFor e) segments texts) (ps : List Piece) :
    values e (segments.flatMap Segment.pieces ++ ps) =
      (values e ps).map ((String.join texts).toList ++ ·) := by
  induction h with
  | nil => cases hps : values e ps <;> simp [hps, Except.map]
  | cons hs _ ih =>
      rw [List.flatMap_cons, List.append_assoc, values_standsFor hs, ih]
      cases values e ps <;> simp [Except.map]

theorem values_missing (h : e.value? name = none) (ps : List Piece) :
    values e (.reference name :: ps) = .error (.missingVariable name) := by
  rw [values, Piece.value, h]
  rfl

def FirstMissing (e : Environment) (segments : List Segment) (name : String) : Prop :=
  ∃ before form after, segments = before ++ .reference form name :: after ∧
    (∃ texts, List.Forall₂ (Segment.StandsFor e) before texts) ∧ e.value? name = none

theorem standsFor_or_missing (e : Environment) (segments : List Segment) :
    (∃ texts, List.Forall₂ (Segment.StandsFor e) segments texts) ∨
      ∃ name, FirstMissing e segments name := by
  induction segments with
  | nil => exact .inl ⟨[], .nil⟩
  | cons s segments ih =>
      have hs : (∃ text, s.StandsFor e text) ∨
          ∃ form name, s = .reference form name ∧ e.value? name = none := by
        cases s with
        | literal text => exact .inl ⟨text, .literal text⟩
        | dollar => exact .inl ⟨"$", .dollar⟩
        | reference form name =>
            cases hvalue : e.value? name with
            | none => exact .inr ⟨form, name, rfl, hvalue⟩
            | some value => exact .inl ⟨value, .reference hvalue⟩
      obtain ⟨text, hs⟩ | ⟨form, name, rfl, hnone⟩ := hs
      · obtain ⟨texts, htexts⟩ | ⟨name, before, form, after, rfl, ⟨texts, htexts⟩, hnone⟩ := ih
        · exact .inl ⟨text :: texts, .cons hs htexts⟩
        · exact .inr ⟨name, s :: before, form, after, rfl, ⟨text :: texts, .cons hs htexts⟩, hnone⟩
      · exact .inr ⟨name, [], form, segments, rfl, ⟨[], .nil⟩, hnone⟩

theorem expand_standsFor (hs : Separated segments)
    (h : List.Forall₂ (Segment.StandsFor e) segments texts) :
    e.expand (written segments) = .ok (String.join texts) := by
  have hvalues := values_append h []
  rw [List.append_nil] at hvalues
  rw [Environment.expand, pieces_written hs, hvalues]
  simp only [values, Except.map, List.append_nil, String.ofList_toList]

theorem expand_firstMissing (hs : Separated segments) (h : FirstMissing e segments name) :
    e.expand (written segments) = .error (.missingVariable name) := by
  obtain ⟨before, form, after, rfl, ⟨texts, htexts⟩, hnone⟩ := h
  rw [Environment.expand, pieces_written hs, List.flatMap_append, values_append htexts,
    List.flatMap_cons, Segment.pieces, List.singleton_append, values_missing hnone]
  rfl

theorem expand_written (e : Environment) (segments : List Segment) (hs : Separated segments) :
    (∀ text, e.expand (written segments) = .ok text ↔
      ∃ texts, List.Forall₂ (Segment.StandsFor e) segments texts ∧ text = String.join texts) ∧
    ∀ error, e.expand (written segments) = .error error ↔
      ∃ name, FirstMissing e segments name ∧ error = .missingVariable name := by
  refine ⟨fun text => ⟨fun hok => ?_, ?_⟩, fun error => ⟨fun herror => ?_, ?_⟩⟩
  · obtain ⟨texts, htexts⟩ | ⟨name, hmissing⟩ := standsFor_or_missing e segments
    · rw [expand_standsFor hs htexts] at hok
      exact ⟨texts, htexts, (Except.ok.inj hok).symm⟩
    · rw [expand_firstMissing hs hmissing] at hok
      cases hok
  · rintro ⟨texts, htexts, rfl⟩
    exact expand_standsFor hs htexts
  · obtain ⟨texts, htexts⟩ | ⟨name, hmissing⟩ := standsFor_or_missing e segments
    · rw [expand_standsFor hs htexts] at herror
      cases herror
    · rw [expand_firstMissing hs hmissing] at herror
      exact ⟨name, hmissing, (Except.error.inj herror).symm⟩
  · rintro ⟨name, hmissing, rfl⟩
    exact expand_firstMissing hs hmissing

theorem expand_written_adjacent :
    let e : Environment := { entries := [("HOME", "/h$A"), ("Ä_1", "x")] }
    let found : List Segment := [.literal "p\x7b", .reference .bare "HOME",
      .reference .braced "Ä_1", .literal "1/", .dollar, .dollar, .reference .bare "Ä_1", .literal "-"]
    let segments := found ++ [.reference .braced "No x", .reference .bare "B", .dollar]
    Separated found ∧ e.expand (written found) = .ok "p\x7b/h$Ax1/$$x-" ∧
      Separated segments ∧ e.expand (written segments) = .error (.missingVariable "No x") := by
  intro e found segments
  have hfound : Separated found := by decide +kernel
  have hsegments : Separated segments := by decide +kernel
  have htexts : List.Forall₂ (Segment.StandsFor e) found
      ["p\x7b", "/h$A", "x", "1/", "$", "$", "x", "-"] :=
    .cons (.literal _) <| .cons (.reference rfl) <| .cons (.reference rfl) <|
      .cons (.literal _) <| .cons .dollar <| .cons .dollar <| .cons (.reference rfl) <|
      .cons (.literal _) .nil
  refine ⟨hfound, ?_, hsegments, ?_⟩
  · exact ((expand_written e found hfound).1 _).mpr ⟨_, htexts, by decide +kernel⟩
  · refine ((expand_written e segments hsegments).2 _).mpr ⟨"No x", ?_, rfl⟩
    exact ⟨found, .braced, [.reference .bare "B", .dollar], rfl, ⟨_, htexts⟩, by decide +kernel⟩

end DatabaseSchema.Expansion
