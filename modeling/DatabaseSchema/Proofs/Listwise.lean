import DatabaseSchema.Logged
import Mathlib.Data.List.Forall2
import Mathlib.Data.List.Induction

namespace DatabaseSchema

section

variable {α β γ : Type} {as : List α} {bs : List β} {cs : List γ}

theorem bind_eq_error {ε : Type} {x : Except ε α} {f : α → Except ε β} {e : ε} :
    x >>= f = .error e ↔ x = .error e ∨ ∃ a, x = .ok a ∧ f a = .error e := by
  cases x <;> simp

theorem mapM_eq_ok_iff {ε : Type} {f : α → Except ε β} :
    as.mapM f = .ok bs ↔ List.Forall₂ (fun a b => f a = .ok b) as bs := by
  induction as generalizing bs with
  | nil =>
      rw [List.mapM_nil]
      constructor
      · rintro ⟨⟩
        exact .nil
      · rintro ⟨⟩
        rfl
  | cons a as ih =>
      rw [List.mapM_cons, bind_eq_ok]
      constructor
      · rintro ⟨b, hb, h⟩
        obtain ⟨bs, hbs, h⟩ := bind_eq_ok.mp h
        cases h
        exact .cons hb (ih.mp hbs)
      · rintro ⟨⟩
        next b bs hb hbs => exact ⟨b, hb, bind_eq_ok.mpr ⟨bs, ih.mpr hbs, rfl⟩⟩

theorem mapM_eq_error_iff {ε : Type} {f : α → Except ε β} {e : ε} :
    as.mapM f = .error e ↔
      ∃ before a after, as = before ++ a :: after ∧ (∃ bs, before.mapM f = .ok bs) ∧
        f a = .error e := by
  constructor
  · intro h
    induction as with
    | nil => cases h
    | cons a as ih =>
        rw [List.mapM_cons] at h
        obtain ha | ⟨b, ha, h⟩ := bind_eq_error.mp h
        · exact ⟨[], a, as, rfl, ⟨[], rfl⟩, ha⟩
        · obtain h | ⟨_, -, ⟨⟩⟩ := bind_eq_error.mp h
          obtain ⟨before, a', after, rfl, ⟨bs, hbefore⟩, ha'⟩ := ih h
          refine ⟨a :: before, a', after, rfl, ⟨b :: bs, ?_⟩, ha'⟩
          rw [List.mapM_cons, ha, ok_bind, hbefore]
          rfl
  · rintro ⟨before, a, after, rfl, ⟨bs, hbefore⟩, ha⟩
    rw [List.mapM_append, hbefore, ok_bind, List.mapM_cons, ha]
    rfl

theorem forall₂_comp {R : α → β → Prop} {R' : β → γ → Prop} (h : List.Forall₂ R as bs)
    (h' : List.Forall₂ R' bs cs) : List.Forall₂ (fun a c => ∃ b, R a b ∧ R' b c) as cs := by
  induction h generalizing cs with
  | nil =>
      cases h'
      exact .nil
  | @cons _ b _ _ hab _ ih =>
      obtain _ | ⟨hbc, h'⟩ := h'
      exact .cons ⟨b, hab, hbc⟩ (ih h')

theorem exists_of_mem_right {R : α → β → Prop} (h : List.Forall₂ R as bs) :
    ∀ b ∈ bs, ∃ a ∈ as, R a b := by
  induction h with
  | nil => simp
  | @cons a _ _ _ hab _ ih =>
      intro b hb
      rcases List.mem_cons.mp hb with rfl | hb
      · exact ⟨a, List.mem_cons_self, hab⟩
      · obtain ⟨a', ha', hab'⟩ := ih b hb
        exact ⟨a', List.mem_cons_of_mem a ha', hab'⟩

theorem exists_of_mem_left {R : α → β → Prop} (h : List.Forall₂ R as bs) :
    ∀ a ∈ as, ∃ b ∈ bs, R a b :=
  exists_of_mem_right h.flip

theorem map_eq_of_forall₂ {f : β → α} {P : β → Prop}
    (h : List.Forall₂ (fun a b => f b = a ∧ P b) as bs) : bs.map f = as ∧ ∀ b ∈ bs, P b := by
  induction h with
  | nil => simp
  | cons hab _ ih => exact ⟨by simp [hab.1, ih.1], List.forall_mem_cons.mpr ⟨hab.2, ih.2⟩⟩

end

abbrev Refusal (α ε : Type) := List α → α → ε → Prop

namespace Refusal

variable {α β ε : Type} {R : Refusal α ε} {items : List α} {item : α} {e : ε}

def Accepts (R : Refusal α ε) (items : List α) : Prop :=
  ∀ before item after e, items = before ++ item :: after → ¬R before item e

def Stops (R : Refusal α ε) (items : List α) (e : ε) : Prop :=
  ∃ before item after, items = before ++ item :: after ∧ R.Accepts before ∧ R before item e

theorem accepts_nil (R : Refusal α ε) : R.Accepts [] := by
  intro before item after e h
  simp at h

theorem Stops.not_accepts (h : R.Stops items e) : ¬R.Accepts items := by
  obtain ⟨before, item, after, hitems, -, hr⟩ := h
  exact fun ha => ha before item after e hitems hr

theorem split_concat {before after : List α} {a : α} (h : items ++ [item] = before ++ a :: after) :
    (before = items ∧ a = item) ∨ ∃ rest, items = before ++ a :: rest := by
  obtain rfl | ⟨rest, last, rfl⟩ := List.eq_nil_or_concat after
  · obtain ⟨hitems, hlast⟩ := List.append_inj' h rfl
    exact .inl ⟨hitems.symm, by simpa using hlast.symm⟩
  · have h' : items ++ [item] = (before ++ a :: rest) ++ [last] := by simpa using h
    exact .inr ⟨rest, (List.append_inj' h' rfl).1⟩

theorem accepts_concat_iff :
    R.Accepts (items ++ [item]) ↔ R.Accepts items ∧ ∀ e, ¬R items item e := by
  constructor
  · intro h
    refine ⟨fun before a after e heq => ?_, fun e => h items item [] e rfl⟩
    exact h before a (after ++ [item]) e (by simp [heq])
  · rintro ⟨ha, hlast⟩ before a after e heq
    obtain ⟨rfl, rfl⟩ | ⟨rest, hrest⟩ := split_concat heq
    · exact hlast e
    · exact ha before a rest e hrest

theorem stops_concat_iff :
    R.Stops (items ++ [item]) e ↔ R.Stops items e ∨ (R.Accepts items ∧ R items item e) := by
  constructor
  · rintro ⟨before, a, after, heq, ha, hr⟩
    obtain ⟨rfl, rfl⟩ | ⟨rest, hrest⟩ := split_concat heq
    · exact .inr ⟨ha, hr⟩
    · exact .inl ⟨before, a, rest, hrest, ha, hr⟩
  · rintro (⟨before, a, after, rfl, ha, hr⟩ | ⟨ha, hr⟩)
    · exact ⟨before, a, after ++ [item], by simp, ha, hr⟩
    · exact ⟨items, item, [], rfl, ha, hr⟩

structure Governs (R : Refusal α ε) (f : β → α → Except ε β) (I : List α → β → Prop) : Prop where
  outcome : ∀ {before b item}, I before b →
    (∃ b', f b item = .ok b' ∧ I (before ++ [item]) b') ∨ ∃ e, f b item = .error e ∧ R before item e
  refused : ∀ {before b item e}, I before b → R before item e → f b item = .error e

namespace Governs

variable {f : β → α → Except ε β} {I : List α → β → Prop} {b b' : β}

theorem foldlM_cases (h : R.Governs f I) (hb : I [] b) (items : List α) :
    (∃ b', items.foldlM f b = .ok b' ∧ R.Accepts items ∧ I items b') ∨
      ∃ e, items.foldlM f b = .error e ∧ R.Stops items e ∧ ∀ e', R.Stops items e' → e' = e := by
  -- from the end: the last item counts only if none before it was refused
  induction items using List.reverseRecOn with
  | nil => exact .inl ⟨b, rfl, accepts_nil R, hb⟩
  | append_singleton items item ih =>
      rw [List.foldlM_append]
      obtain ⟨c, hfold, ha, hc⟩ | ⟨e, hfold, hs, hunique⟩ := ih
      · rw [hfold, ok_bind, List.foldlM_cons]
        obtain ⟨b', hstep, hb'⟩ | ⟨e, hstep, hr⟩ := h.outcome hc
        · rw [hstep]
          refine .inl ⟨b', rfl, accepts_concat_iff.mpr ⟨ha, fun e hr => ?_⟩, hb'⟩
          cases hstep.symm.trans (h.refused hc hr)
        · rw [hstep]
          refine .inr ⟨e, rfl, stops_concat_iff.mpr (.inr ⟨ha, hr⟩), fun e' hs => ?_⟩
          obtain hs | ⟨-, hr'⟩ := stops_concat_iff.mp hs
          · exact absurd ha hs.not_accepts
          · cases hstep.symm.trans (h.refused hc hr')
            rfl
      · rw [hfold, error_bind]
        refine .inr ⟨e, rfl, stops_concat_iff.mpr (.inl hs), fun e' hs' => ?_⟩
        obtain hs' | ⟨ha, -⟩ := stops_concat_iff.mp hs'
        · exact hunique e' hs'
        · exact absurd ha hs.not_accepts

theorem foldlM_eq_error_iff (h : R.Governs f I) (hb : I [] b) :
    items.foldlM f b = .error e ↔ R.Stops items e := by
  obtain ⟨c, hfold, ha, -⟩ | ⟨e₀, hfold, hs, hunique⟩ := h.foldlM_cases hb items
  · rw [hfold]
    exact ⟨nofun, fun hs => absurd ha hs.not_accepts⟩
  · rw [hfold]
    constructor
    · rintro ⟨⟩
      exact hs
    · intro hs'
      rw [hunique e hs']

theorem exists_foldlM_eq_ok_iff (h : R.Governs f I) (hb : I [] b) :
    (∃ b', items.foldlM f b = .ok b') ↔ R.Accepts items := by
  obtain ⟨c, hfold, ha, -⟩ | ⟨e, hfold, hs, -⟩ := h.foldlM_cases hb items
  · exact ⟨fun _ => ha, fun _ => ⟨c, hfold⟩⟩
  · rw [hfold]
    exact ⟨nofun, fun ha => absurd ha hs.not_accepts⟩

theorem of_foldlM (h : R.Governs f I) (hb : I [] b) (hfold : items.foldlM f b = .ok b') :
    I items b' := by
  obtain ⟨c, hfold', -, hc⟩ | ⟨e, hfold', -⟩ := h.foldlM_cases hb items
  · cases hfold.symm.trans hfold'
    exact hc
  · cases hfold.symm.trans hfold'

end Governs

end Refusal

end DatabaseSchema
