import DatabaseSchema.Proofs.Uncached
import Mathlib.Data.List.Basic

namespace DatabaseSchema

open Session Act

variable {answers : Query → Answer} {s s₁ s₂ : Session} {number : Nat} {t : Table}

structure Table.Settled (answers : Query → Answer) (t : Table) : Prop where
  face : Uncached.table answers t.context t.name = .ok t.face
  columns : ∀ columns, t.columns = some columns → Uncached.finalColumns t.face = .ok columns
  indexes : ∀ indexes, t.indexes = some indexes → Uncached.indexes answers t.face = .ok indexes

theorem Session.Reached.settled {context : Context} (h : Reached (.steady answers) context s)
    (ht : t ∈ s.handles) : t.Settled answers := by
  obtain ⟨number, ht⟩ := List.mem_iff_getElem?.mp ht
  have hface : s.face? number = some t.face := by simp [face?, ht]
  rw [← Source.interrupted_never] at h
  refine ⟨?_, fun columns hc => h.finalColumns_eq ht hc, fun indexes hi => h.indexes_eq ht hi⟩
  have htable := h.table_eq hface
  obtain ⟨-, -, -, hcontext⟩ := Uncached.table_eq_ok answers context htable
  rw [← hcontext] at htable
  exact htable

namespace Session

structure Touched (answers : Query → Answer) (number : Nat) (s s' : Session) : Prop where
  provider : s'.provider = s.provider
  handles : ∃ t t', s.handles[number]? = some t ∧ t'.face = t.face ∧ t'.Settled answers ∧
    s'.handles = s.handles.set number t'

theorem touched_refl (ht : s.handles[number]? = some t) (hs : t.Settled answers) :
    Touched answers number s s := by
  refine ⟨rfl, t, t, ht, rfl, hs, ?_⟩
  obtain ⟨hlt, hget⟩ := List.getElem?_eq_some_iff.mp ht
  rw [← hget, List.set_getElem_self]

namespace Touched

theorem trans (h : Touched answers number s s₁) (h' : Touched answers number s₁ s₂) :
    Touched answers number s s₂ := by
  obtain ⟨t, t₁, ht, hface, -, hhandles⟩ := h.handles
  obtain ⟨t₁', t₂, ht₁, hface', hs, hhandles'⟩ := h'.handles
  obtain ⟨hlt, -⟩ := List.getElem?_eq_some_iff.mp ht
  rw [hhandles, List.getElem?_set_self hlt] at ht₁
  cases ht₁
  refine ⟨h'.provider.trans h.provider, t, t₂, ht, hface'.trans hface, hs, ?_⟩
  rw [hhandles', hhandles, List.set_set]

theorem exists_handle (h : Touched answers number s s₁) (ht : s.handles[number]? = some t) :
    ∃ t', s₁.handles[number]? = some t' ∧ t'.face = t.face ∧ t'.Settled answers := by
  obtain ⟨t₀, t', ht₀, hface, hs, hhandles⟩ := h.handles
  cases ht₀.symm.trans ht
  obtain ⟨hlt, -⟩ := List.getElem?_eq_some_iff.mp ht
  exact ⟨t', by rw [hhandles, List.getElem?_set_self hlt], hface, hs⟩

end Touched

end Session

namespace Table

theorem columnsOf_settled (source : Source) (ht : s.handles[number]? = some t)
    (hs : t.Settled answers) :
    ∃ s₁, (columnsOf number).run source s = (Uncached.finalColumns t.face, s₁) ∧
      Touched answers number s s₁ := by
  cases hc : t.columns with
  | some columns =>
      refine ⟨s, ?_, touched_refl ht hs⟩
      rw [columnsOf_kept ht hc, hs.columns columns hc]
  | none =>
      refine ⟨s.keeping (keepFinalColumns number t) (Uncached.finalColumns t.face),
        columnsOf_load source ht hc, ?_⟩
      cases hr : Uncached.finalColumns t.face with
      | error e => exact touched_refl ht hs
      | ok columns =>
          have hkept : ({ t with columns := some columns } : Table).Settled answers := by
            refine ⟨hs.face, ?_, hs.indexes⟩
            rintro _ ⟨⟩
            exact hr
          refine ⟨rfl, t, _, ht, ?_, hkept, ?_⟩ <;> rfl

theorem indexesOf_settled (ht : s.handles[number]? = some t) (hs : t.Settled answers) :
    ∃ s₁, (indexesOf number).run (.steady answers) s = (Uncached.indexes answers t.face, s₁) ∧
      Touched answers number s s₁ := by
  cases hi : t.indexes with
  | some indexes =>
      refine ⟨s, ?_, touched_refl ht hs⟩
      rw [indexesOf_kept ht hi, hs.indexes indexes hi]
  | none =>
      obtain ⟨events, hrun⟩ := indexesOf_load (.steady answers) ht hi
      refine ⟨_, hrun, ?_⟩
      show Touched answers number s
        ((s.asked _ events).keeping (keepIndexes number) (Uncached.indexes answers t.face))
      cases hr : Uncached.indexes answers t.face with
      | error e => exact ⟨rfl, (touched_refl ht hs).handles⟩
      | ok indexes =>
          have hkept : ({ t with indexes := some indexes } : Table).Settled answers := by
            refine ⟨hs.face, hs.columns, ?_⟩
            rintro _ ⟨⟩
            exact hr
          refine ⟨rfl, t, _, ht, ?_, hkept, ?_⟩
          · rfl
          · show s.handles.modify number _ = _
            rw [List.modify_eq_set_getElem?, ht]
            rfl

theorem snapshotOf_settled (ht : s.handles[number]? = some t) (hs : t.Settled answers) :
    ∃ s₁, (snapshotOf number).run (.steady answers) s =
        (Uncached.tableSnapshot answers t.face, s₁) ∧ Touched answers number s s₁ := by
  obtain ⟨s₁, hcolumns, h₁⟩ := columnsOf_settled (.steady answers) ht hs
  obtain ⟨t₁, ht₁, hface₁, hs₁⟩ := h₁.exists_handle ht
  obtain ⟨s₂, hindexes, h₂⟩ := indexesOf_settled ht₁ hs₁
  obtain ⟨t₂, ht₂, hface₂, -⟩ := h₂.exists_handle ht₁
  rw [hface₁] at hindexes hface₂
  unfold snapshotOf Uncached.tableSnapshot
  rw [run_bind, hcolumns]
  cases Uncached.finalColumns t.face with
  | error e => exact ⟨s₁, rfl, h₁⟩
  | ok columns =>
      dsimp only
      rw [run_bind, hindexes, ok_bind]
      cases Uncached.indexes answers t.face with
      | error e => exact ⟨s₂, rfl, h₁.trans h₂⟩
      | ok indexes =>
          refine ⟨s₂, ?_, h₁.trans h₂⟩
          dsimp only
          rw [run_bind_ok run_get, ht₂, ← hface₂]
          rfl

end Table

theorem TableRequest.act_settled (ht : s.handles[number]? = some t) (hs : t.Settled answers)
    (request : TableRequest) :
    ∃ s₁, (request.act number).run (.steady answers) s =
        (Uncached.reply answers t.face request, s₁) ∧ Touched answers number s s₁ := by
  obtain ⟨s₁, hcolumns, h₁⟩ := Table.columnsOf_settled (.steady answers) ht hs
  cases request with
  | columns =>
      refine ⟨s₁, ?_, h₁⟩
      rw [act, Uncached.reply, run_bind, hcolumns]
      cases Uncached.finalColumns t.face <;> rfl
  | column name =>
      refine ⟨s₁, ?_, h₁⟩
      rw [act, Uncached.reply, Table.columnOf?, run_bind, run_bind, hcolumns]
      cases Uncached.finalColumns t.face <;> rfl
  | indexes =>
      obtain ⟨s₁, hindexes, h₁⟩ := Table.indexesOf_settled ht hs
      refine ⟨s₁, ?_, h₁⟩
      rw [act, Uncached.reply, run_bind, hindexes]
      cases Uncached.indexes answers t.face <;> rfl
  | snapshot =>
      obtain ⟨s₁, hsnapshot, h₁⟩ := Table.snapshotOf_settled ht hs
      refine ⟨s₁, ?_, h₁⟩
      rw [act, Uncached.reply, run_bind, hsnapshot]
      cases Uncached.tableSnapshot answers t.face <;> rfl

end DatabaseSchema
