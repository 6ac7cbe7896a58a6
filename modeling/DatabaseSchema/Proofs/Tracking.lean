import DatabaseSchema.Proofs.Uncached
import Mathlib.Data.List.Forall2

namespace DatabaseSchema

open Session Uncached

variable {α β γ δ : Type} {answers : Query → Answer}
  {failure? : List Query → Query → Option String} {context : Context} {s s₁ s₂ s' : Session}

-- Between two sessions a query failed, and this was the last one and is the error.
inductive Interrupted (failure? : List Query → Query → Option String) (s s' : Session) :
    SchemaError → Prop where
  | intro {subject : Subject} {q : Query} {history : List Query} {message : String} :
      s.history <:+ history → s'.history = q :: history → failure? history q = some message →
      Interrupted failure? s s' (.query subject (.source message))

theorem Interrupted.widen {e : SchemaError} (h : Interrupted failure? s₁ s' e)
    (hs : s.history <:+ s₁.history) : Interrupted failure? s s' e := by
  obtain ⟨hl, hq, hf⟩ := h
  exact .intro (hs.trans hl) hq hf

namespace Act

-- An outcome agrees with the one from the answers alone, or a query failed on the way.
inductive Meets (failure? : List Query → Query → Option String) (s s' : Session)
    (R : α → β → Prop) (ideal : Except SchemaError β) : Except SchemaError α → Prop where
  | ok {a : α} {b : β} : ideal = .ok b → R a b → Meets failure? s s' R ideal (.ok a)
  | error {e : SchemaError} : ideal = .error e → Meets failure? s s' R ideal (.error e)
  | interrupted {e : SchemaError} :
      Interrupted failure? s s' e → Meets failure? s s' R ideal (.error e)

variable (answers failure? context) in
structure Tracks (act : Act α) (ideal : Except SchemaError β) (R : Session → α → β → Prop)
    (s : Session) : Prop where
  reached : Reached (.interrupted answers failure?) context
    (act.run (.interrupted answers failure?) s).2
  keeps : s.Keeps (act.run (.interrupted answers failure?) s).2
  meets : Meets failure? s (act.run (.interrupted answers failure?) s).2
    (R (act.run (.interrupted answers failure?) s).2) ideal
    (act.run (.interrupted answers failure?) s).1

abbrev Same (_ : Session) (a b : α) : Prop := a = b

theorem tracks_of_run {act : Act α} {ideal : Except SchemaError β} {R : Session → α → β → Prop}
    {r : Except SchemaError α} (h : Reached (.interrupted answers failure?) context s)
    (hg : act.Grows) (hrun : act.run (.interrupted answers failure?) s = (r, s'))
    (hm : Meets failure? s s' (R s') ideal r) :
    Tracks answers failure? context act ideal R s := by
  obtain ⟨hr, hk⟩ := h.of_run hg hrun
  refine ⟨?_, ?_, ?_⟩ <;> rw [hrun]
  · exact hr
  · exact hk
  · exact hm

theorem Tracks.congr {act act' : Act α} {ideal : Except SchemaError β} {R : Session → α → β → Prop}
    (hrun : act.run (.interrupted answers failure?) s = act'.run (.interrupted answers failure?) s)
    (h : Tracks answers failure? context act' ideal R s) :
    Tracks answers failure? context act ideal R s := by
  obtain ⟨hr, hk, hm⟩ := h
  rw [← hrun] at hr hk hm
  exact ⟨hr, hk, hm⟩

theorem tracks_pure {R : Session → α → β → Prop} {a : α} {b : β}
    (h : Reached (.interrupted answers failure?) context s) (hR : R s a b) :
    Tracks answers failure? context (pure a) (pure b) R s :=
  ⟨h, .refl s, .ok rfl hR⟩

theorem Tracks.bind {x : Act α} {f : α → Act γ} {ideal : Except SchemaError β}
    {next : β → Except SchemaError δ} {R : Session → α → β → Prop} {Q : Session → γ → δ → Prop}
    (hx : Tracks answers failure? context x ideal R s)
    (hf : ∀ a b s', x.run (.interrupted answers failure?) s = (.ok a, s') →
      Reached (.interrupted answers failure?) context s' → s.Keeps s' → R s' a b →
        Tracks answers failure? context (f a) (next b) Q s') :
    Tracks answers failure? context (x >>= f) (ideal >>= next) Q s := by
  obtain ⟨hr, hk, hm⟩ := hx
  rcases hrun : x.run (.interrupted answers failure?) s with ⟨e | a, s₁⟩ <;> rw [hrun] at hr hk hm
  · have hbind := run_bind_error hrun f
    refine ⟨?_, ?_, ?_⟩ <;> rw [hbind]
    · exact hr
    · exact hk
    · cases hm with
      | error hi => exact .error (by rw [hi, error_bind])
      | interrupted hi => exact .interrupted hi
  · have hbind := run_bind_ok hrun f
    cases hm with
    | ok hi hR =>
        obtain ⟨hr', hk', hm'⟩ := hf a _ s₁ hrun hr hk hR
        refine ⟨?_, ?_, ?_⟩ <;> rw [hbind]
        · exact hr'
        · exact hk.trans hk'
        · rw [hi, ok_bind]
          generalize ((f a).run (.interrupted answers failure?) s₁).1 = r at hm' ⊢
          cases hm' with
          | ok hi hR => exact .ok hi hR
          | error hi => exact .error hi
          | interrupted hi => exact .interrupted (hi.widen hk.history)

theorem tracks_report (h : Reached (.interrupted answers failure?) context s)
    (events : List Event) :
    Tracks answers failure? context (report events) (pure ()) Same s :=
  tracks_of_run h (grows_report events) (run_report events) (.ok rfl rfl)

theorem Tracks.get_bind {f : Session → Act α} {ideal : Except SchemaError β}
    {R : Session → α → β → Prop} (h : Tracks answers failure? context (f s) ideal R s) :
    Tracks answers failure? context (get >>= f) ideal R s :=
  h.congr (run_bind_ok run_get f)

theorem Tracks.map {x : Act α} {ideal : Except SchemaError β} {R : Session → α → β → Prop}
    {Q : Session → γ → δ → Prop} {f : α → γ} {g : β → δ}
    (hx : Tracks answers failure? context x ideal R s) (hR : ∀ s a b, R s a b → Q s (f a) (g b)) :
    Tracks answers failure? context (x >>= fun a => pure (f a)) (ideal >>= fun b => pure (g b))
      Q s :=
  hx.bind fun a b s' _ hr _ hab => tracks_pure hr (hR s' a b hab)

theorem tracks_mapM {f : α → Act γ} {g : β → Except SchemaError δ} {R : Session → α → β → Prop}
    {Q : Session → γ → δ → Prop} (hR : ∀ s s' a b, s.Keeps s' → R s a b → R s' a b)
    (hQ : ∀ s s' a b, s.Keeps s' → Q s a b → Q s' a b)
    (hf : ∀ a b s, Reached (.interrupted answers failure?) context s → R s a b →
      Tracks answers failure? context (f a) (g b) Q s)
    (h : Reached (.interrupted answers failure?) context s) {as : List α} {bs : List β}
    (hl : List.Forall₂ (R s) as bs) :
    Tracks answers failure? context (as.mapM f) (bs.mapM g) (fun s' => List.Forall₂ (Q s')) s := by
  induction as generalizing bs s with
  | nil =>
      cases hl
      rw [List.mapM_nil, List.mapM_nil]
      exact tracks_pure h .nil
  | cons a as ih =>
      obtain _ | ⟨hab, hl⟩ := hl
      rw [List.mapM_cons, List.mapM_cons]
      refine (hf a _ s h hab).bind fun c d s₁ _ hr hk hcd => ?_
      have hl₁ := hl.imp fun a b => hR s s₁ a b hk
      refine (ih hr hl₁).bind fun cs ds s₂ _ hr hk hcds => ?_
      exact tracks_pure hr (.cons (hQ s₁ s₂ c d hk hcd) hcds)

theorem Tracks.of_ok {act : Act α} {ideal : Except SchemaError α} {a : α}
    (h : Tracks answers failure? context act ideal Same s)
    (hrun : act.run (.interrupted answers failure?) s = (.ok a, s')) :
    Reached (.interrupted answers failure?) context s' ∧ s.Keeps s' ∧ ideal = .ok a := by
  obtain ⟨hr, hk, hm⟩ := h
  rw [hrun] at hr hk hm
  cases hm with
  | ok hi hR =>
      cases hR
      exact ⟨hr, hk, hi⟩

theorem Tracks.of_error {act : Act α} {ideal : Except SchemaError β} {R : Session → α → β → Prop}
    {e : SchemaError} (h : Tracks answers failure? context act ideal R s)
    (hrun : act.run (.interrupted answers failure?) s = (.error e, s')) :
    ideal = .error e ∨ Interrupted failure? s s' e := by
  obtain ⟨-, -, hm⟩ := h
  rw [hrun] at hm
  cases hm with
  | error hi => exact .inl hi
  | interrupted hi => exact .inr hi

theorem meets_load {subject : Subject} {read : Items → Except SchemaError α} {q : Query}
    (hread : Passes subject read) (hq : s'.history = q :: s.history) :
    Meets failure? s s' (· = ·) (read (answers q).items)
      (read ((Source.interrupted answers failure?).answer s.history q).items) := by
  cases hr : read ((Source.interrupted answers failure?).answer s.history q).items with
  | ok a => exact .ok (hread.of_ok hr) rfl
  | error e =>
      rcases hread.of_error hr with hi | ⟨message, hf, rfl⟩
      · exact .error hi
      · exact .interrupted (.intro List.suffix_rfl hq hf)

end Act

open Act

namespace Provider

theorem tableCatalog_tracks (h : Reached (.interrupted answers failure?) context s) :
    Tracks answers failure? context tableCatalog (Uncached.tableCatalog answers context) Same
      s := by
  cases hkept : s.provider.keptNames with
  | some c =>
      refine tracks_of_run h tableCatalog_grows (tableCatalog_kept hkept) ?_
      exact .ok (h.tableCatalog_eq hkept) rfl
  | none =>
      obtain ⟨events, hrun⟩ := tableCatalog_load (.interrupted answers failure?) hkept
      refine tracks_of_run h tableCatalog_grows hrun ?_
      unfold Uncached.tableCatalog
      rw [← h.context_eq]
      exact meets_load (passes_tableNames _) (history_keeping keepNames (fun _ _ => rfl) _)

theorem viewCatalog_tracks (h : Reached (.interrupted answers failure?) context s) :
    Tracks answers failure? context viewCatalog (Uncached.viewCatalog answers context) Same s := by
  cases hkept : s.provider.keptViews with
  | some c =>
      refine tracks_of_run h viewCatalog_grows (viewCatalog_kept hkept) ?_
      exact .ok (h.viewCatalog_eq hkept) rfl
  | none =>
      obtain ⟨events, hrun⟩ := viewCatalog_load (.interrupted answers failure?) hkept
      refine tracks_of_run h viewCatalog_grows hrun ?_
      unfold Uncached.viewCatalog
      rw [← h.context_eq]
      exact meets_load (passes_viewNames _) (history_keeping keepViews (fun _ _ => rfl) _)

theorem columnCatalog_tracks_of_names (h : Reached (.interrupted answers failure?) context s)
    {names : Catalog String} (hn : s.provider.keptNames = some names) :
    Tracks answers failure? context columnCatalog (Uncached.columnCatalog answers context) Same
      s := by
  cases hkept : s.provider.keptColumns with
  | some c =>
      refine tracks_of_run h columnCatalog_grows (columnCatalog_kept hkept) ?_
      exact .ok (h.columnCatalog_eq hkept) rfl
  | none =>
      obtain ⟨events, hrun⟩ := columnCatalog_load (.interrupted answers failure?) hn hkept
      refine tracks_of_run h columnCatalog_grows hrun ?_
      unfold Uncached.columnCatalog
      rw [h.tableCatalog_eq hn, ok_bind, ← h.context_eq]
      exact meets_load (passes_columns _ _) (history_keeping keepColumns (fun _ _ => rfl) _)

theorem columnCatalog_tracks (h : Reached (.interrupted answers failure?) context s) :
    Tracks answers failure? context columnCatalog (Uncached.columnCatalog answers context) Same
      s := by
  cases hkept : s.provider.keptColumns with
  | some c =>
      refine tracks_of_run h columnCatalog_grows (columnCatalog_kept hkept) ?_
      exact .ok (h.columnCatalog_eq hkept) rfl
  | none =>
      have hideal : Uncached.columnCatalog answers context =
          Uncached.tableCatalog answers context >>= fun _ =>
            Uncached.columnCatalog answers context := by
        unfold Uncached.columnCatalog
        cases Uncached.tableCatalog answers context <;> rfl
      rw [hideal]
      refine Tracks.congr (columnCatalog_missing hkept) ?_
      exact (tableCatalog_tracks h).bind fun names _ s₁ hrun hr _ _ =>
        columnCatalog_tracks_of_names hr (tableCatalog_ok hrun)

abbrev Numbers (s : Session) (number : Nat) (t : Table) : Prop :=
  s.face? number = some t

theorem TableLoad.meets {name : String} {r : Except SchemaError Table}
    (h : Reached (.interrupted answers failure?) context s)
    (hnumber : s.provider.numbers.lookup (nameKey name) = none)
    (hload : TableLoad (.interrupted answers failure?) s name r s') :
    Meets failure? s s' (· = ·) (table answers context name) r := by
  obtain rfl := h.context_eq
  cases hload with
  | noNames hn =>
      rcases (tableCatalog_tracks h).of_error hn with hi | hi
      · exact .error (by rw [table, hi, error_bind])
      · exact .interrupted hi
  | notFound hn hget =>
      obtain ⟨-, -, hi⟩ := (tableCatalog_tracks h).of_ok hn
      refine .error ?_
      rw [Uncached.table, hi, ok_bind, hget]
      rfl
  | @noKey names s₁ table events e hn hget hkey =>
      obtain ⟨-, hk, hi⟩ := (tableCatalog_tracks h).of_ok hn
      rcases (passes_primaryKey table).of_error hkey with hi' | ⟨message, hf, rfl⟩
      · refine .error ?_
        rw [Uncached.table, hi, ok_bind, hget]
        simp only [hi', error_bind]
      · exact .interrupted (.intro hk.history rfl hf)
  | @noColumns names s₁ _ table events key e hn hget hkey hc =>
      obtain ⟨hr, hk, hi⟩ := (tableCatalog_tracks h).of_ok hn
      obtain ⟨-, -, asked, -, hg, -⟩ := TableLoad.growth_asked events h.sound hnumber hn hget
      have hi' := (passes_primaryKey table).of_ok hkey
      rcases (columnCatalog_tracks (h.step hg)).of_error hc with hi'' | hint
      · refine .error ?_
        rw [Uncached.table, hi, ok_bind, hget]
        simp only [hi', hi'', ok_bind, error_bind]
      · exact .interrupted (hint.widen hg.history)
  | @loaded names s₁ s₂ table events key columns hn hget hkey hc =>
      obtain ⟨hr, hk, hi⟩ := (tableCatalog_tracks h).of_ok hn
      obtain ⟨-, -, asked, -, hg, -⟩ := TableLoad.growth_asked events h.sound hnumber hn hget
      have hi' := (passes_primaryKey table).of_ok hkey
      obtain ⟨-, -, hi''⟩ := (columnCatalog_tracks (h.step hg)).of_ok hc
      refine .ok ?_ rfl
      rw [Uncached.table, hi, ok_bind, hget]
      simp only [hi', hi'', ok_bind]
      rfl

theorem getTable_tracks (name : String) (h : Reached (.interrupted answers failure?) context s) :
    Tracks answers failure? context (getTable name) (table answers context name) Numbers s := by
  cases hnumber : s.provider.numbers.lookup (nameKey name) with
  | some number =>
      obtain ⟨t, hface, ht⟩ := h.table_eq_of_number hnumber
      exact tracks_of_run h (getTable_grows name) (getTable_kept hnumber) (.ok ht hface)
  | none =>
      have hrun := getTable_load (.interrupted answers failure?) hnumber
      rcases hload : (loadTable name).run (.interrupted answers failure?) s with ⟨r, s₁⟩
      have hm := (tableLoad_of_run hload).meets h hnumber
      rw [hload] at hrun
      cases hm with
      | ok hi hR =>
          obtain ⟨_, -, -, -, hok⟩ := (tableLoad_of_run hload).growth h.sound hnumber
          obtain ⟨-, hface, -⟩ := hok _ rfl
          cases hR
          refine tracks_of_run h (getTable_grows name) hrun (.ok hi ?_)
          simp [Numbers, face?, handOut, hface]
      | error hi => exact tracks_of_run h (getTable_grows name) hrun (.error hi)
      | interrupted hi => exact tracks_of_run h (getTable_grows name) hrun (.interrupted hi)

theorem numbers_keeps (s s' : Session) (number : Nat) (t : Table) (hk : s.Keeps s')
    (h : Numbers s number t) : Numbers s' number t :=
  hk.face h

theorem tableNames_tracks (h : Reached (.interrupted answers failure?) context s) :
    Tracks answers failure? context tableNames (Uncached.tableNames answers context) Same s :=
  (tableCatalog_tracks h).map fun _ _ _ => congrArg _

theorem tables_tracks (h : Reached (.interrupted answers failure?) context s) :
    Tracks answers failure? context Provider.tables (Uncached.tables answers context)
      (fun s => List.Forall₂ (Numbers s)) s := by
  refine (tableNames_tracks h).bind fun names _ s₁ _ hr _ heq => ?_
  cases heq
  refine tracks_mapM (R := Same) (fun _ _ _ _ _ => id) numbers_keeps ?_ hr ?_
  · rintro name _ s₂ hr rfl
    exact getTable_tracks name hr
  · exact List.forall₂_same.mpr fun _ _ => rfl

theorem viewNames_tracks (h : Reached (.interrupted answers failure?) context s) :
    Tracks answers failure? context viewNames (Uncached.viewNames answers context) Same s :=
  (viewCatalog_tracks h).map fun _ _ _ => congrArg _

theorem getView_tracks (name : String) (h : Reached (.interrupted answers failure?) context s) :
    Tracks answers failure? context (getView name) (view answers context name) Same s := by
  refine (viewCatalog_tracks h).bind fun c _ s₁ _ hr _ heq => ?_
  cases heq
  cases c.get? name with
  | some name => exact tracks_pure hr rfl
  | none => exact tracks_of_run hr (grows_throw _) (run_throw _) (.error rfl)

end Provider

open Provider

namespace Table

variable {number : Nat} {t : Table}

theorem columnsOf_tracks (h : Reached (.interrupted answers failure?) context s)
    (ht : Numbers s number t) :
    Tracks answers failure? context (columnsOf number) (finalColumns t) Same s := by
  obtain ⟨t', ht', rfl⟩ := Option.map_eq_some_iff.mp ht
  cases hc : t'.columns with
  | some columns =>
      refine tracks_of_run h (columnsOf_grows number) (columnsOf_kept ht' hc) ?_
      exact .ok (h.finalColumns_eq ht' hc) rfl
  | none =>
      refine tracks_of_run h (columnsOf_grows number) (columnsOf_load _ ht' hc) ?_
      show Meets _ _ _ _ (finalColumns t'.face) (finalColumns t'.face)
      cases finalColumns t'.face with
      | ok columns => exact .ok rfl rfl
      | error e => exact .error rfl

theorem indexesOf_tracks (h : Reached (.interrupted answers failure?) context s)
    (ht : Numbers s number t) :
    Tracks answers failure? context (indexesOf number) (Uncached.indexes answers t) Same s := by
  obtain ⟨t', ht', rfl⟩ := Option.map_eq_some_iff.mp ht
  cases hi : t'.indexes with
  | some indexes =>
      refine tracks_of_run h (indexesOf_grows number) (indexesOf_kept ht' hi) ?_
      exact .ok (h.indexes_eq ht' hi) rfl
  | none =>
      obtain ⟨events, hrun⟩ := indexesOf_load (.interrupted answers failure?) ht' hi
      refine tracks_of_run h (indexesOf_grows number) hrun ?_
      exact meets_load (passes_indexes _ _)
        (history_keeping (keepIndexes number) (fun _ _ => rfl) _)

theorem snapshotOf_tracks (h : Reached (.interrupted answers failure?) context s)
    (ht : Numbers s number t) :
    Tracks answers failure? context (snapshotOf number) (tableSnapshot answers t) Same s := by
  refine (columnsOf_tracks h ht).bind fun columns _ s₁ _ hr hk heq => ?_
  cases heq
  refine (indexesOf_tracks hr (hk.face ht)).bind fun indexes _ s₂ _ hr' hk' heq => ?_
  cases heq
  refine Tracks.get_bind (tracks_pure hr' ?_)
  obtain ⟨t', ht', rfl⟩ := Option.map_eq_some_iff.mp (hk'.face (hk.face ht))
  simp [ht', Table.face]

end Table

theorem Provider.snapshot_tracks (h : Reached (.interrupted answers failure?) context s) :
    Tracks answers failure? context Provider.snapshot (Uncached.snapshot answers context) Same
      s := by
  refine (tables_tracks h).bind fun numbers ts s₁ _ hr _ hnumbers => ?_
  have hsnapshots := tracks_mapM (Q := Same) numbers_keeps (fun _ _ _ _ _ => id)
    (fun number t s hr => Table.snapshotOf_tracks hr) hr hnumbers
  refine hsnapshots.bind fun snapshots _ s₂ _ hr _ heq => ?_
  obtain rfl := List.forall₂_eq_eq_eq ▸ heq
  refine (viewNames_tracks hr).bind fun views _ s₃ _ hr _ heq => ?_
  cases heq
  show Tracks _ _ _ _ (pure () >>= fun _ => pure _) _ _
  exact (tracks_report hr _).map fun _ _ _ _ => rfl

end DatabaseSchema
