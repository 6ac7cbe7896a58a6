import DatabaseSchema.Proofs.Act
import DatabaseSchema.Proofs.Catalog
import DatabaseSchema.Proofs.Listwise

namespace DatabaseSchema

open Act

variable {α β : Type} {source : Source} {s s' : Session} {items : List Item} {item : Item}

def Answer.Whole (a : Answer) : Prop :=
  ∃ items, a.items = .ok items ∧ ∀ item ∈ items, ∃ r, item = .ok r

def Session.Served (source : Source) (s : Session) : Prop :=
  ∀ history q, q :: history <:+ s.history → (source.answer history q).Whole

namespace Act

def Heeds (act : Act α) : Prop :=
  ∀ source s a s', s.Served source → act.run source s = (.ok a, s') → s'.Served source

theorem heeds_pure (a : α) : (pure a : Act α).Heeds := by
  rintro source s _ _ hs ⟨⟩
  exact hs

theorem Heeds.bind {x : Act α} {f : α → Act β} (hx : x.Heeds) (hf : ∀ a, (f a).Heeds) :
    (x >>= f).Heeds := by
  intro source s b s' hs hrun
  obtain ⟨a, s₁, hx', hf'⟩ := run_bind_eq_ok.mp hrun
  exact hf a source s₁ b s' (hx source s a s₁ hs hx') hf'

theorem Heeds.mapM {f : α → Act β} (hf : ∀ a, (f a).Heeds) (as : List α) : (as.mapM f).Heeds := by
  induction as with
  | nil =>
      rw [List.mapM_nil]
      exact heeds_pure []
  | cons a as ih =>
      rw [List.mapM_cons]
      exact (hf a).bind fun b => ih.bind fun bs => heeds_pure (b :: bs)

end Act

namespace Provider

end Provider

namespace Table

end Table

end DatabaseSchema
