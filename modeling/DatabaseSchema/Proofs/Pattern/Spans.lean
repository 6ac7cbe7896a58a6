import DatabaseSchema.Pattern

namespace DatabaseSchema

inductive Steps {α : Type} (R : α → α → Prop) : Nat → α → α → Prop where
  | zero (a : α) : Steps R 0 a a
  | succ {n : Nat} {a b c : α} : R a b → Steps R n b c → Steps R (n + 1) a c

section Steps

variable {α : Type} {R : α → α → Prop} {a b c : α} {m n : Nat}

@[simp] theorem steps_zero : Steps R 0 a b ↔ a = b := by
  constructor
  · rintro ⟨⟩
    rfl
  · rintro rfl
    exact .zero a

theorem steps_succ : Steps R (n + 1) a b ↔ ∃ c, R a c ∧ Steps R n c b := by
  constructor
  · rintro ⟨⟩
    exact ⟨_, ‹_›, ‹_›⟩
  · rintro ⟨c, hac, hcb⟩
    exact .succ hac hcb

theorem Steps.trans (h : Steps R m a b) (h' : Steps R n b c) : Steps R (m + n) a c := by
  induction h with
  | zero => rwa [Nat.zero_add]
  | succ hstep _ ih =>
      rw [Nat.add_right_comm]
      exact .succ hstep (ih h')

theorem steps_add : Steps R (m + n) a c ↔ ∃ b, Steps R m a b ∧ Steps R n b c := by
  constructor
  · intro h
    induction m generalizing a with
    | zero => exact ⟨a, .zero a, by rwa [Nat.zero_add] at h⟩
    | succ m ih =>
        rw [Nat.add_right_comm, steps_succ] at h
        obtain ⟨a', hstep, h⟩ := h
        obtain ⟨b, hb, hc⟩ := ih h
        exact ⟨b, .succ hstep hb, hc⟩
  · rintro ⟨b, hb, hc⟩
    exact hb.trans hc

theorem exists_through {R' : α → α → Prop} {as : List α} :
    (∃ b, (∃ a ∈ as, R a b) ∧ R' b c) ↔ ∃ a ∈ as, ∃ b, R a b ∧ R' b c := by
  constructor
  · rintro ⟨b, ⟨a, ha, hab⟩, hbc⟩
    exact ⟨a, ha, b, hab, hbc⟩
  · rintro ⟨a, ha, b, hab, hbc⟩
    exact ⟨b, ⟨a, ha, hab⟩, hbc⟩

end Steps

namespace Place

variable {text before after : List Char} {a b c : Place}

def between (before after : List Char) : Place :=
  ⟨before.length, before.reverse, after⟩

def Of (text : List Char) (a : Place) : Prop :=
  ∃ before after, text = before ++ after ∧ a = between before after

inductive Leads : Place → Place → Prop where
  | intro (position : Nat) (before read rest : List Char) :
      Leads ⟨position, before, read ++ rest⟩ ⟨position + read.length, read.reverse ++ before, rest⟩

theorem leads_refl (a : Place) : a.Leads a :=
  .intro a.position a.before [] a.after

theorem Leads.trans (h : a.Leads b) (h' : b.Leads c) : a.Leads c := by
  obtain ⟨position, before, read⟩ := h
  obtain ⟨_, _, read', rest⟩ := h'
  have hread := Leads.intro position before (read ++ read') rest
  rwa [List.append_assoc, List.length_append, List.reverse_append, List.append_assoc,
    ← Nat.add_assoc] at hread

theorem Leads.le (h : a.Leads b) : a.position ≤ b.position := by
  obtain ⟨position, before, read⟩ := h
  exact Nat.le_add_right _ _

theorem Leads.eq_or_lt (h : a.Leads b) : a = b ∨ a.position < b.position := by
  obtain ⟨position, before, read⟩ := h
  cases read with
  | nil => exact .inl rfl
  | cons c read => exact .inr (Nat.lt_add_of_pos_right (Nat.succ_pos _))

theorem Leads.of (h : a.Leads b) (ha : a.Of text) : b.Of text := by
  obtain ⟨before, after, rfl, ha⟩ := ha
  obtain ⟨position, _, read, rest⟩ := h
  obtain ⟨rfl, rfl, rfl⟩ := (mk.injEq ..).mp ha
  exact ⟨before ++ read, rest, by simp, by simp [between]⟩

theorem next?_between {s : CharSet} :
    (between before after).next? s = some b ↔
      ∃ c rest, after = c :: rest ∧ s.has c = true ∧ b = between (before ++ [c]) rest := by
  cases after with
  | nil => simp [between, next?]
  | cons c rest =>
      rw [between, next?, Option.ite_none_right_eq_some, Option.some.injEq]
      constructor
      · rintro ⟨hc, rfl⟩
        exact ⟨c, rest, rfl, hc, by simp [between]⟩
      · rintro ⟨_, _, ⟨⟩, hc, rfl⟩
        exact ⟨hc, by simp [between]⟩

theorem leads_of_next? {s : CharSet} (h : a.next? s = some b) : a.Leads b := by
  obtain ⟨position, before, after⟩ := a
  cases after with
  | nil => cases h
  | cons c rest =>
      obtain ⟨-, ⟨⟩⟩ := Option.ite_none_right_eq_some.mp h
      exact .intro position before [c] rest

theorem Of.eq_of_position (ha : a.Of text) (hb : b.Of text) (h : a.position = b.position) :
    a = b := by
  obtain ⟨before, after, htext, rfl⟩ := ha
  obtain ⟨before', after', htext', rfl⟩ := hb
  obtain ⟨rfl, rfl⟩ := List.append_inj (htext.symm.trans htext') h
  rfl

theorem Of.position_le (ha : a.Of text) : a.position ≤ text.length := by
  obtain ⟨before, after, rfl, rfl⟩ := ha
  simp [between]

theorem mem_placesFrom {read cs : List Char} :
    a ∈ placesFrom read.length read.reverse cs ↔
      ∃ before after, cs = before ++ after ∧ a = between (read ++ before) after := by
  induction cs generalizing read with
  | nil =>
      rw [placesFrom, List.mem_singleton]
      constructor
      · rintro rfl
        exact ⟨[], [], rfl, by simp [between]⟩
      · rintro ⟨before, after, hcs, rfl⟩
        obtain ⟨rfl, rfl⟩ := List.append_eq_nil_iff.mp hcs.symm
        simp [between]
  | cons c cs ih =>
      have hnext := @ih (read ++ [c])
      rw [List.length_append, List.length_singleton, List.reverse_append, List.reverse_singleton,
        List.singleton_append] at hnext
      rw [placesFrom, List.mem_cons, hnext]
      constructor
      · rintro (rfl | ⟨before, after, rfl, rfl⟩)
        · exact ⟨[], c :: cs, rfl, by simp [between]⟩
        · exact ⟨c :: before, after, rfl, by simp⟩
      · rintro ⟨before, after, hcs, rfl⟩
        cases before with
        | nil =>
            left
            simp [between, hcs]
        | cons d before =>
            obtain ⟨rfl, rfl⟩ := List.cons_eq_cons.mp hcs
            exact .inr ⟨before, after, rfl, by simp⟩

theorem mem_places : a ∈ placesFrom 0 [] text ↔ a.Of text :=
  @mem_placesFrom a [] text

end Place

open Place

section Places

variable {text : List Char} {a b : Place} {ps qs : List Place}

theorem mem_mergeAt {p : Place} {rest : List Place → List Place}
    (hrest : ∀ qs, (∀ q ∈ qs, q.Of text) → ∀ b, b ∈ rest qs ↔ b ∈ ps ∨ b ∈ qs)
    (hp : p.Of text) (hqs : ∀ q ∈ qs, q.Of text) :
    b ∈ mergeAt p rest qs ↔ b ∈ p :: ps ∨ b ∈ qs := by
  induction qs with
  | nil => simp [mergeAt, hrest]
  | cons q qs ih =>
      have hqs' : ∀ q' ∈ qs, q'.Of text := fun q' hq' => hqs q' (List.mem_cons_of_mem q hq')
      unfold mergeAt
      split
      next => simp only [List.mem_cons, hrest _ hqs, or_assoc]
      next hle =>
        split
        next => simp only [List.mem_cons, ih hqs', or_left_comm, or_assoc]
        next hge =>
          have hsame : p = q := hp.eq_of_position (hqs q List.mem_cons_self) (by omega)
          rw [List.mem_cons, hrest qs hqs', List.mem_cons, List.mem_cons, hsame]
          by_cases hb : b = q <;> simp [hb]

theorem mem_merge (hps : ∀ p ∈ ps, p.Of text) (hqs : ∀ q ∈ qs, q.Of text) :
    b ∈ merge ps qs ↔ b ∈ ps ∨ b ∈ qs := by
  induction ps generalizing qs b with
  | nil => simp [merge]
  | cons p ps ih =>
      have hps' : ∀ p' ∈ ps, p'.Of text := fun p' hp' => hps p' (List.mem_cons_of_mem p hp')
      exact mem_mergeAt (fun qs hqs b => ih hps' hqs) (hps p List.mem_cons_self) hqs

theorem mem_without (hps : ∀ p ∈ ps, p.Of text) (hqs : ∀ q ∈ qs, q.Of text) :
    (b ∈ without ps qs → b ∈ ps) ∧ (b ∈ ps → b ∈ without ps qs ∨ b ∈ qs) := by
  induction ps generalizing qs with
  | nil => simp [without]
  | cons p ps ih =>
      have hps' : ∀ p' ∈ ps, p'.Of text := fun p' hp' => hps p' (List.mem_cons_of_mem p hp')
      have hdropped : ∀ q ∈ qs.dropWhile (·.position < p.position), q ∈ qs :=
        fun q hq => (List.dropWhile_sublist _).subset hq
      unfold without
      split
      next => exact ⟨id, .inl⟩
      next q rest hrest =>
        rw [hrest] at hdropped
        have hrest' : ∀ q' ∈ q :: rest, q'.Of text := fun q' hq' => hqs q' (hdropped q' hq')
        split
        next heq =>
          have hsame : p = q :=
            hps p List.mem_cons_self |>.eq_of_position (hrest' q List.mem_cons_self) heq.symm
          obtain ⟨hkept, hgone⟩ := @ih rest hps'
            fun q' hq' => hrest' q' (List.mem_cons_of_mem q hq')
          refine ⟨fun h => List.mem_cons_of_mem p (hkept h), fun h => ?_⟩
          rcases List.mem_cons.mp h with rfl | h
          · exact .inr (hdropped b (hsame ▸ List.mem_cons_self))
          · exact (hgone h).imp_right fun h => hdropped b (List.mem_cons_of_mem q h)
        next =>
          obtain ⟨hkept, hgone⟩ := @ih (q :: rest) hps' hrest'
          simp only [List.mem_cons] at hkept hgone ⊢
          refine ⟨fun h => h.imp_right hkept, fun h => ?_⟩
          rcases h with rfl | h
          · exact .inl (.inl rfl)
          · exact (hgone h).imp .inr fun h => hdropped b (List.mem_cons.mpr h)

end Places

namespace Pattern

variable {text : List Char} {a b : Place} {p : Pattern} {places : List Place}

def Spans : Pattern → Place → Place → Prop
  | empty, a, b => a = b
  | one s, a, b => a.next? s = some b
  | look l, a, b => a.sees l = true ∧ a = b
  | seq p q, a, b => ∃ c, p.Spans a c ∧ q.Spans c b
  | alt p q, a, b => p.Spans a b ∨ q.Spans a b
  | repeated p least most, a, b =>
      ∃ n, least ≤ n ∧ (∀ m ∈ most, n ≤ max least m) ∧ Steps p.Spans n a b

theorem leads_of_steps {R : Place → Place → Prop} {n : Nat} (hR : ∀ a b, R a b → a.Leads b)
    (h : Steps R n a b) : a.Leads b := by
  induction h with
  | zero a => exact leads_refl a
  | succ hstep _ ih => exact (hR _ _ hstep).trans ih

theorem Spans.leads (h : p.Spans a b) : a.Leads b := by
  induction p generalizing a b with
  | empty =>
      obtain rfl := h
      exact leads_refl a
  | one s => exact leads_of_next? h
  | look l =>
      obtain ⟨-, rfl⟩ := h
      exact leads_refl a
  | seq p q ihp ihq =>
      obtain ⟨c, hp, hq⟩ := h
      exact (ihp hp).trans (ihq hq)
  | alt p q ihp ihq => exact h.elim ihp ihq
  | repeated p least most ih =>
      obtain ⟨n, -, -, h⟩ := h
      exact leads_of_steps (fun a b => ih) h

theorem exists_steps_le {R : Place → Place → Prop} {n : Nat} (hR : ∀ a b, R a b → a.Leads b)
    (h : Steps R n a b) : ∃ k ≤ b.position - a.position, Steps R k a b := by
  induction h with
  | zero a => exact ⟨0, Nat.zero_le _, .zero a⟩
  | succ hstep hrest ih =>
      obtain ⟨k, hk, h⟩ := ih
      have hle := (leads_of_steps hR hrest).le
      obtain rfl | hlt := (hR _ _ hstep).eq_or_lt
      · exact ⟨k, hk, h⟩
      · exact ⟨k + 1, by omega, .succ hstep h⟩

structure Finds (text : List Char) (find : List Place → List Place) (R : Place → Place → Prop) :
    Prop where
  leads : ∀ a b, R a b → a.Leads b
  mem_iff : ∀ {places : List Place}, (∀ a ∈ places, a.Of text) →
    ∀ b, b ∈ find places ↔ ∃ a ∈ places, R a b

namespace Finds

variable {find : List Place → List Place} {R : Place → Place → Prop}

theorem of (h : Finds text find R) (hplaces : ∀ a ∈ places, a.Of text) :
    ∀ b ∈ find places, b.Of text := by
  intro b hb
  obtain ⟨a, ha, hstep⟩ := (h.mem_iff hplaces b).mp hb
  exact (h.leads a b hstep).of (hplaces a ha)

theorem mem_exactly (h : Finds text find R) (n : Nat) (hplaces : ∀ a ∈ places, a.Of text) :
    b ∈ exactly find n places ↔ ∃ a ∈ places, Steps R n a b := by
  induction n generalizing places with
  | zero => simp [exactly]
  | succ n ih =>
      unfold exactly
      split
      next hempty => simp [List.isEmpty_iff.mp hempty]
      next =>
        rw [ih (h.of hplaces)]
        simp only [h.mem_iff hplaces, exists_through, steps_succ]

theorem of_without (h : Finds text find R) (hplaces : ∀ a ∈ places, a.Of text) :
    ∀ a ∈ without (find places) places, a.Of text := by
  intro a ha
  exact h.of hplaces a ((mem_without (h.of hplaces) hplaces).1 ha)

theorem of_upTo (h : Finds text find R) {n : Nat} (hplaces : ∀ a ∈ places, a.Of text) :
    ∀ b ∈ upTo find n places, b.Of text := by
  induction n generalizing places with
  | zero => exact hplaces
  | succ n ih =>
      intro b hb
      dsimp only [upTo] at hb
      split at hb
      next => exact hplaces b hb
      next =>
        have hfurther := ih (h.of_without hplaces)
        rcases (mem_merge hplaces hfurther).mp hb with hb | hb
        · exact hplaces b hb
        · exact hfurther b hb

theorem mem_upTo_succ (h : Finds text find R) {n : Nat} (hplaces : ∀ a ∈ places, a.Of text) :
    b ∈ upTo find (n + 1) places ↔
      b ∈ places ∨ b ∈ upTo find n (without (find places) places) := by
  dsimp only [upTo]
  split
  next hempty =>
    have hnone : ∀ n, b ∉ upTo find n [] := by
      intro n
      have hfind : find [] = [] := by
        refine List.eq_nil_iff_forall_not_mem.mpr fun c hc => ?_
        obtain ⟨a, ha, -⟩ := (h.mem_iff (by simp) c).mp hc
        cases ha
      cases n <;> simp [upTo, hfind, without]
    rw [List.isEmpty_iff.mp hempty]
    exact ⟨.inl, fun hb => hb.resolve_right (hnone n)⟩
  next => exact mem_merge hplaces (h.of_upTo (h.of_without hplaces))

theorem mem_upTo (h : Finds text find R) (n : Nat) (hplaces : ∀ a ∈ places, a.Of text) :
    b ∈ upTo find n places ↔ ∃ k ≤ n, ∃ a ∈ places, Steps R k a b := by
  induction n generalizing places with
  | zero => simp [upTo]
  | succ n ih =>
      rw [h.mem_upTo_succ hplaces, ih (h.of_without hplaces)]
      have hwithout := fun c => @mem_without text c (find places) places (h.of hplaces) hplaces
      constructor
      · rintro (hb | ⟨k, hk, c, hc, hsteps⟩)
        · exact ⟨0, Nat.zero_le _, b, hb, .zero b⟩
        · obtain ⟨a, ha, hac⟩ := (h.mem_iff hplaces c).mp ((hwithout c).1 hc)
          exact ⟨k + 1, Nat.succ_le_succ hk, a, ha, .succ hac hsteps⟩
      · rintro ⟨k, hk, a, ha, hsteps⟩
        -- a step that leads back into the list is left out, and the way is shorter then
        induction k generalizing a with
        | zero => exact .inl (steps_zero.mp hsteps ▸ ha)
        | succ k ihk =>
            obtain ⟨c, hac, hsteps⟩ := steps_succ.mp hsteps
            rcases (hwithout c).2 ((h.mem_iff hplaces c).mpr ⟨a, ha, hac⟩) with hc | hc
            · exact .inr ⟨k, Nat.le_of_succ_le_succ hk, c, hc, hsteps⟩
            · exact ihk (Nat.le_of_succ_le hk) c hc hsteps

end Finds

theorem finds_repeated {least : Nat} {most : Option Nat}
    (h : Finds text (p.ends text.length) p.Spans) :
    Finds text ((repeated p least most).ends text.length) (repeated p least most).Spans where
  leads a b := Spans.leads
  mem_iff {places} hplaces b := by
    have hreached : ∀ a ∈ exactly (p.ends text.length) least places, a.Of text := by
      intro c hc
      obtain ⟨a, ha, hsteps⟩ := (h.mem_exactly least hplaces).mp hc
      exact (leads_of_steps h.leads hsteps).of (hplaces a ha)
    have hends (limit : Nat) :
        b ∈ upTo (p.ends text.length) limit (exactly (p.ends text.length) least places) ↔
          ∃ k ≤ limit, ∃ a ∈ places, Steps p.Spans (least + k) a b := by
      rw [h.mem_upTo limit hreached]
      simp only [h.mem_exactly least hplaces, exists_through, steps_add]
    cases most with
    | none =>
        show b ∈ upTo _ _ _ ↔ _
        rw [hends]
        constructor
        · rintro ⟨k, -, a, ha, hsteps⟩
          exact ⟨a, ha, least + k, Nat.le_add_right _ _, nofun, hsteps⟩
        · rintro ⟨a, ha, n, hn, -, hsteps⟩
          obtain ⟨k, rfl⟩ := Nat.exists_eq_add_of_le hn
          obtain ⟨c, hac, hcb⟩ := steps_add.mp hsteps
          obtain ⟨j, hj, hcb⟩ := exists_steps_le h.leads hcb
          have hb := ((leads_of_steps h.leads hsteps).of (hplaces a ha)).position_le
          exact ⟨j, by omega, a, ha, hac.trans hcb⟩
    | some m =>
        show b ∈ upTo _ _ _ ↔ _
        rw [hends]
        constructor
        · rintro ⟨k, hk, a, ha, hsteps⟩
          refine ⟨a, ha, least + k, Nat.le_add_right _ _, ?_, hsteps⟩
          rintro _ ⟨⟩
          omega
        · rintro ⟨a, ha, n, hn, hm, hsteps⟩
          obtain ⟨k, rfl⟩ := Nat.exists_eq_add_of_le hn
          have hk := hm m rfl
          exact ⟨k, by omega, a, ha, hsteps⟩

theorem finds_ends (p : Pattern) (text : List Char) :
    Finds text (p.ends text.length) p.Spans := by
  induction p with
  | empty => exact ⟨fun _ _ => Spans.leads, fun _ b => by simp [ends, Spans]⟩
  | one s => exact ⟨fun _ _ => Spans.leads, fun _ b => by simp [ends, Spans]⟩
  | look l => exact ⟨fun _ _ => Spans.leads, fun _ b => by simp [ends, Spans]⟩
  | seq p q ihp ihq =>
      refine ⟨fun _ _ => Spans.leads, fun hplaces b => ?_⟩
      rw [ends, ihq.mem_iff (ihp.of hplaces)]
      simp only [ihp.mem_iff hplaces, exists_through, Spans]
  | alt p q ihp ihq =>
      refine ⟨fun _ _ => Spans.leads, fun hplaces b => ?_⟩
      rw [ends, mem_merge (ihp.of hplaces) (ihq.of hplaces), ihp.mem_iff hplaces,
        ihq.mem_iff hplaces]
      simp only [Spans, and_or_left, exists_or]
  | repeated p least most ih => exact finds_repeated ih

theorem isMatch_iff {text : String} :
    p.isMatch text = true ↔ ∃ a b, a.Of text.toList ∧ p.Spans a b := by
  have hmem (b : Place) : b ∈ p.ends text.toList.length (placesFrom 0 [] text.toList) ↔
      ∃ a, a.Of text.toList ∧ p.Spans a b := by
    rw [(p.finds_ends text.toList).mem_iff fun a ha => mem_places.mp ha]
    simp only [mem_places]
  rw [isMatch, Bool.not_eq_true', List.isEmpty_eq_false_iff_exists_mem, exists_comm]
  exact exists_congr hmem

end Pattern

end DatabaseSchema
