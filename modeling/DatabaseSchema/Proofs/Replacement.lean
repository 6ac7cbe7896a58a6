import DatabaseSchema.Proofs.Following
import Mathlib.Data.List.Induction

namespace DatabaseSchema

open Session Act

variable {source : Source} {answers : Query → Answer} {context : Context} {old : List Table}
  {s s' : Session}

namespace Session

theorem Sound.replace (s : Session) (r : Replacement) : (s.replace r).Sound := by
  intro c hc
  rw [replace_eq] at hc
  cases hc

theorem face?_replace (s : Session) (r : Replacement) (number : Nat) :
    (s.replace r).face? number = s.face? number := by
  rw [replace_eq]
  rfl

theorem Sound.operate (hs : s.Sound) (op : Operation) : (s.operate source op).Sound := by
  cases op with
  | request request =>
      obtain ⟨asked, -, hg⟩ := serve_growth source hs request
      exact hg.sound hs
  | replace r => exact .replace s r

theorem Sound.operateAll (hs : s.Sound) (ops : List Operation) :
    (s.operateAll source ops).Sound := by
  induction ops generalizing s with
  | nil => exact hs
  | cons op ops ih => exact ih (hs.operate op)

theorem face?_operate (hs : s.Sound) {number : Nat} {t : Table} (ht : s.face? number = some t)
    (op : Operation) : (s.operate source op).face? number = some t := by
  cases op with
  | request request =>
      obtain ⟨asked, -, hg⟩ := serve_growth source hs request
      exact hg.toKeeps.face ht
  | replace r => exact (face?_replace s r number).trans ht

theorem face?_operateAll (hs : s.Sound) {number : Nat} {t : Table} (ht : s.face? number = some t)
    (ops : List Operation) : (s.operateAll source ops).face? number = some t := by
  induction ops generalizing s with
  | nil => exact ht
  | cons op ops ih => exact ih (hs.operate op) (face?_operate hs ht op)

theorem context_of_face?_serve (hs : s.Sound) {request : Request} {number : Nat} {t : Table}
    (hnone : s.face? number = none) (ht : (s.serve source request).face? number = some t) :
    t.context = s.provider.context := by
  obtain ⟨asked, -, hg⟩ := serve_growth source hs request
  have hmissing : s.content? (.face number) = none := by simp [content?, hnone]
  have hkept : (s.serve source request).content? (.face number) = some (.face t) := by
    simp [content?, ht]
  cases hg.obtained hmissing hkept with
  | face _ ha => exact ha.context.trans hg.context

def MadeIn (source : Source) (context : Context) (ops : List Operation) (number : Nat)
    (t : Table) : Prop :=
  ∃ earlier request later, ops = earlier ++ .request request :: later ∧
    let s := (start context).operateAll source earlier
    s.face? number = none ∧ (s.serve source request).face? number = some t ∧
      t.context = s.provider.context

theorem madeIn_of_face? {number : Nat} {t : Table} (ops : List Operation)
    (ht : ((start context).operateAll source ops).face? number = some t) :
    MadeIn source context ops number t := by
  induction ops using List.reverseRecOn with
  | nil => simp [face?, start] at ht
  | append_singleton ops op ih =>
      rw [operateAll_append] at ht
      have hs : ((start context).operateAll source ops).Sound :=
        (sound_start context).operateAll ops
      cases hold : ((start context).operateAll source ops).face? number with
      | some t' =>
          have hsame : face? (Session.operate source _ op) number = some t' :=
            face?_operate hs hold op
          cases hsame.symm.trans ht
          obtain ⟨earlier, request, later, rfl, hmade⟩ := ih hold
          exact ⟨earlier, request, later ++ [op], by simp, hmade⟩
      | none =>
          cases op with
          | replace r =>
              rw [operateAll_cons, operate_replace, operateAll_nil, face?_replace, hold] at ht
              cases ht
          | request request =>
              exact ⟨ops, request, [], rfl, hold, ht, context_of_face?_serve hs hold ht⟩

theorem Touched.follows {number : Nat} {s₁ : Session} (h : Touched answers number s s₁)
    (hf : Follows old s s') (hlt : number < old.length) (ho : ∀ t ∈ old, t.Settled answers) :
    ∃ old', old'.length = old.length ∧ Follows old' s₁ s' ∧ ∀ t ∈ old', t.Settled answers := by
  obtain ⟨-, t, -, -, hs, hhandles⟩ := h.handles
  refine ⟨old.set number t, List.length_set, ⟨?_, ?_⟩, fun t' ht' => ?_⟩
  · rw [h.provider, hf.provider, List.length_set]
  · rw [hhandles, hf.handles, List.set_append_left _ _ hlt]
  · rcases List.mem_or_eq_of_mem_set ht' with hold | rfl
    · exact ho t' hold
    · exact hs

end Session

def Operation.renumbered? (count : Nat) : Operation → Option Operation
  | .request r => (r.renumbered? count).map .request
  | .replace r => some (.replace r)

@[simp] theorem Operation.renumbered?_request (count : Nat) (r : Request) :
    (Operation.request r).renumbered? count = (r.renumbered? count).map .request := rfl

@[simp] theorem Operation.renumbered?_replace (count : Nat) (r : Replacement) :
    (Operation.replace r).renumbered? count = some (.replace r) := rfl

theorem Request.ofTable_of_renumbered?_eq_none {request : Request} {count : Nat}
    (h : request.renumbered? count = none) :
    ∃ number r, request = .ofTable number r ∧ number < count := by
  cases request with
  | ofTable number r =>
      refine ⟨number, r, rfl, ?_⟩
      by_contra hle
      simp [renumbered?, hle] at h
  | _ => cases h

namespace Session

theorem Follows.replace (h : Follows old s s') (r : Replacement) :
    Follows old (s.replace r) (s'.replace r) := by
  rw [replace_eq, replace_eq, h.provider]
  exact ⟨rfl, h.handles⟩

theorem Follows.serve (h : Follows old s s') (ho : ∀ t ∈ old, t.Settled answers)
    (request : Request) :
    ∃ old', old'.length = old.length ∧ (∀ t ∈ old', t.Settled answers) ∧
      Follows old' (s.serve (.steady answers) request)
        (s'.serveAll (.steady answers) (request.renumbered? old.length).toList) := by
  cases hr : request.renumbered? old.length with
  | some request' => exact ⟨old, rfl, ho, (Request.act_follows hr h).follows⟩
  | none =>
      obtain ⟨number, r, rfl, hlt⟩ := Request.ofTable_of_renumbered?_eq_none hr
      have ht : s.handles[number]? = some old[number] := by
        rw [h.handles, List.getElem?_append_left hlt, List.getElem?_eq_getElem hlt]
      obtain ⟨s₁, hrun, htouched⟩ := r.act_settled ht (ho _ (List.getElem_mem hlt))
      obtain ⟨old', hlength, hf, ho'⟩ := htouched.follows h hlt ho
      have hserve : s.serve (.steady answers) (.ofTable number r) = s₁ := by
        rw [Session.serve, Request.act, hrun]
      exact ⟨old', hlength, ho', hserve ▸ hf⟩

theorem Follows.operate (h : Follows old s s') (ho : ∀ t ∈ old, t.Settled answers)
    (op : Operation) :
    ∃ old', old'.length = old.length ∧ (∀ t ∈ old', t.Settled answers) ∧
      Follows old' (s.operate (.steady answers) op)
        (s'.operateAll (.steady answers) (op.renumbered? old.length).toList) := by
  cases op with
  | replace r => exact ⟨old, rfl, ho, by simpa using h.replace r⟩
  | request request =>
      obtain ⟨old', hlength, ho', hf⟩ := h.serve ho request
      refine ⟨old', hlength, ho', ?_⟩
      rw [operate_request, Operation.renumbered?_request]
      cases hr : request.renumbered? old.length <;> rw [hr] at hf <;> exact hf

theorem Follows.operateAll (h : Follows old s s') (ho : ∀ t ∈ old, t.Settled answers)
    (ops : List Operation) :
    ∃ old', old'.length = old.length ∧ (∀ t ∈ old', t.Settled answers) ∧
      Follows old' (s.operateAll (.steady answers) ops)
        (s'.operateAll (.steady answers) (ops.filterMap (·.renumbered? old.length))) := by
  induction ops generalizing old s s' with
  | nil => exact ⟨old, rfl, ho, h⟩
  | cons op ops ih =>
      obtain ⟨old₁, hlength₁, ho₁, h₁⟩ := h.operate ho op
      obtain ⟨old₂, hlength₂, ho₂, h₂⟩ := ih h₁ ho₁
      refine ⟨old₂, hlength₂.trans hlength₁, ho₂, ?_⟩
      rw [List.filterMap_cons, ← hlength₁]
      rw [← operateAll_append, ← hlength₁] at h₂
      cases hop : op.renumbered? old₁.length with
      | none => simpa [hop] using h₂
      | some op' => simpa [hop] using h₂

def Lasting (answers : Query → Answer) (s : Session) : Prop :=
  ∃ context old s', Reached (.steady answers) context s' ∧ Follows old s s' ∧
    ∀ t ∈ old, t.Settled answers

namespace Lasting

theorem start (answers : Query → Answer) (context : Context) : Lasting answers (start context) :=
  ⟨context, [], _, .start _ context, ⟨rfl, rfl⟩, by simp⟩

theorem settled (h : Lasting answers s) : ∀ t ∈ s.handles, t.Settled answers := by
  obtain ⟨context, old, s', hr, hf, ho⟩ := h
  intro t ht
  rw [hf.handles] at ht
  rcases List.mem_append.mp ht with hold | hnew
  · exact ho t hold
  · exact hr.settled hnew

theorem operate (h : Lasting answers s) (op : Operation) :
    Lasting answers (s.operate (.steady answers) op) := by
  cases op with
  | replace r =>
      -- from now on all tables are old ones
      refine ⟨_, s.handles, _, .start _ (s.provider.context.replace r), ?_, h.settled⟩
      rw [operate_replace, replace_eq]
      exact ⟨rfl, (List.append_nil _).symm⟩
  | request request =>
      obtain ⟨context, old, s', hr, hf, ho⟩ := h
      obtain ⟨old', -, ho', hf'⟩ := hf.serve ho request
      exact ⟨context, old', _, hr.serveAll _, hf', ho'⟩

theorem operateAll (h : Lasting answers s) (ops : List Operation) :
    Lasting answers (s.operateAll (.steady answers) ops) := by
  induction ops generalizing s with
  | nil => exact h
  | cons op ops ih => exact ih (h.operate op)

theorem reply_eq (h : Lasting answers s) {number : Nat} {t : Table}
    (ht : s.face? number = some t) (request : TableRequest) :
    ((request.act number).run (.steady answers) s).1 = Uncached.reply answers t request := by
  obtain ⟨t', ht', rfl⟩ := Option.map_eq_some_iff.mp ht
  obtain ⟨s₁, hrun, -⟩ := request.act_settled ht' (h.settled t' (List.mem_of_getElem? ht'))
  rw [hrun]

end Lasting

-- A table of before is known for what it was made in the run so far, and answers later what it
-- would answer if nothing had been done but to ask such tables, namely what the answers of the
-- source make of it under its own policy and schema.
structure Frozen (answers : Query → Answer) (context : Context) (before : List Operation)
    (later undisturbed : Session) (number : Nat) (t : Table) : Prop where
  made : MadeIn (.steady answers) context before number t
  read : Uncached.table answers t.context t.name = .ok t
  face : later.face? number = some t
  undisturbedFace : undisturbed.face? number = some t
  reply : ∀ request : TableRequest, ((request.act number).run (.steady answers) later).1 =
    ((request.act number).run (.steady answers) undisturbed).1
  ownReply : ∀ request : TableRequest, ((request.act number).run (.steady answers) later).1 =
    Uncached.reply answers t request

-- After some number of tables the first session goes on as the second one: what is asked of it
-- has the same outcome, and lookups give tables that are as many places further on.
structure GoesOnAs (answers : Query → Answer) (count : Nat) (s s' : Session) : Prop where
  reply : ∀ request request' : Request, request.renumbered? count = some request' →
    (request.act.run (.steady answers) s).1 = (request'.act.run (.steady answers) s').1
  getTable : ∀ name, ((Provider.getTable name).run (.steady answers) s).1 =
    ((Provider.getTable name).run (.steady answers) s').1.map (count + ·)
  tables : (Provider.tables.run (.steady answers) s).1 =
    (Provider.tables.run (.steady answers) s').1.map (List.map (count + ·))
  newTable : ∀ name number,
    ((Provider.getTable name).run (.steady answers) s).1 = .ok number → count ≤ number

theorem Follows.goesOnAs (h : Follows old s s') : GoesOnAs answers old.length s s' where
  reply request request' hr := by
    rw [(Request.act_follows hr h).outcome]
    exact Except.map_id ▸ rfl
  getTable name := (Provider.getTable_follows name h).outcome
  tables := (Provider.tables_follows h).outcome
  newTable name number hnumber := by
    rw [(Provider.getTable_follows name h).outcome] at hnumber
    rcases hrun : ((Provider.getTable name).run (.steady answers) s').1 with e | number'
    · simp [hrun, Except.map] at hnumber
    · rw [hrun] at hnumber
      cases hnumber
      exact Nat.le_add_right _ _

theorem frozen_of_replace (hl : Lasting answers ((start context).operateAll (.steady answers) ops))
    (r : Replacement) (after others : List Operation) {number : Nat}
    (hlt : number < ((start context).operateAll (.steady answers) ops).handles.length) :
    let s := (start context).operateAll (.steady answers) ops
    ∃ t, Frozen answers context ops ((s.replace r).operateAll (.steady answers) after)
      (s.operateAll (.steady answers) others) number t := by
  intro s
  have hs : s.Sound := (sound_start context).operateAll ops
  have hface : s.face? number = some s.handles[number].face := by
    rw [face?, List.getElem?_eq_getElem hlt]
    rfl
  have hlater : ((s.replace r).operateAll (.steady answers) after).face? number =
      some s.handles[number].face :=
    face?_operateAll (.replace s r) ((face?_replace s r number).trans hface) after
  have hundisturbed : (s.operateAll (.steady answers) others).face? number =
      some s.handles[number].face :=
    face?_operateAll hs hface others
  have hreply := ((hl.operate (.replace r)).operateAll after).reply_eq hlater
  have hreply' := (hl.operateAll others).reply_eq hundisturbed
  exact ⟨s.handles[number].face, madeIn_of_face? ops hface,
    (hl.settled _ (List.getElem_mem hlt)).face, hlater, hundisturbed,
    fun request => (hreply request).trans (hreply' request).symm, hreply⟩

theorem goesOnAs_of_replace (hl : Lasting answers s) (r : Replacement) (after : List Operation) :
    GoesOnAs answers s.handles.length ((s.replace r).operateAll (.steady answers) after)
      ((start (s.provider.context.replace r)).operateAll (.steady answers)
        (after.filterMap (·.renumbered? s.handles.length))) := by
  have hfollows : Follows s.handles (s.replace r) (start (s.provider.context.replace r)) := by
    rw [replace_eq]
    exact ⟨rfl, (List.append_nil _).symm⟩
  obtain ⟨old, hlength, -, hf⟩ := hfollows.operateAll hl.settled after
  rw [← hlength]
  rw [← hlength] at hf
  exact hf.goesOnAs

theorem replace_separates (answers : Query → Answer) (context : Context)
    (before : List Operation) (r : Replacement) (after : List Operation) :
    let source := Source.steady answers
    let s := (start context).operateAll source before
    let count := s.handles.length
    let replaced := s.replace r
    let later := replaced.operateAll source after
    let undisturbed := s.operateAll source
      (after.filter fun op => (op.renumbered? count).isNone)
    let fresh := start (s.provider.context.replace r)
    (∀ number < count, ∃ t, Frozen answers context before later undisturbed number t) ∧
      replaced.provider = { context := s.provider.context.replace r } ∧
      GoesOnAs answers count later
        (fresh.operateAll source (after.filterMap (·.renumbered? count))) := by
  intro source s count replaced later undisturbed fresh
  have hl : Lasting answers s := (Lasting.start answers context).operateAll before
  refine ⟨fun number hlt => frozen_of_replace hl r after _ hlt, ?_, goesOnAs_of_replace hl r after⟩
  show (s.replace r).provider = _
  rw [replace_eq]

end Session

end DatabaseSchema
