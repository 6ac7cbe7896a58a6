import DatabaseSchema.Proofs.Growth

namespace DatabaseSchema

open Session

variable {source : Source} {s s₁ s' : Session}

open Act

namespace Provider

theorem tableCatalog_kept {c : Catalog String} (h : s.provider.keptNames = some c) :
    tableCatalog.run source s = (.ok c, s) := by
  unfold tableCatalog
  simp only [run_bind, run_get, h, run_pure]

theorem tableCatalog_load (source : Source) (h : s.provider.keptNames = none) :
    ∃ events,
      let q := .tables s.provider.context.schema s.provider.context.policy.tableKinds
      let r := (Catalog.tableNames s.provider.context.policy
        (source.answer s.history q).items).result
      tableCatalog.run source s = (r, (s.asked q events).keeping keepNames r) := by
  obtain ⟨events, hload⟩ := s.provider.context.run_loadTableNames (s := s)
  refine ⟨events, ?_⟩
  unfold tableCatalog
  rw [run_bind_ok run_get]
  simp only [h]
  exact run_keeping hload keepNames

theorem tableCatalog_grows : tableCatalog.Grows := by
  intro source s hs
  cases hkept : s.provider.keptNames with
  | some c => exact (growsAt_pure c).congr (tableCatalog_kept hkept)
  | none =>
      obtain ⟨events, hrun⟩ := tableCatalog_load source hkept
      have hn : s.content? .tableNames = none := by simp [content?, hkept]
      refine ⟨[_], by simp, growsBy_load hrun hn rfl (fun c hc =>
        ⟨.names c, adds_tableNames (s := s.asked _ events) hkept c, ?_⟩) fun hfail => ?_⟩
      · exact .tableNames ⟨s.history, List.suffix_rfl, List.suffix_rfl, hc⟩
      · exact .tableNames ⟨s.history, List.suffix_rfl, List.suffix_rfl, hfail⟩

theorem tableCatalog_ok {c : Catalog String} (h : tableCatalog.run source s = (.ok c, s')) :
    s'.provider.keptNames = some c := by
  cases hkept : s.provider.keptNames with
  | some c' =>
      rw [tableCatalog_kept hkept] at h
      cases h
      exact hkept
  | none =>
      obtain ⟨events, hrun⟩ := tableCatalog_load source hkept
      rw [eq_of_run_keeping hrun h]
      rfl

theorem tableCatalog_leaves {r : Except SchemaError (Catalog String)}
    (h : tableCatalog.run source s = (r, s')) :
    s.SameTables s' ∧ s'.provider.keptColumns = s.provider.keptColumns := by
  cases hkept : s.provider.keptNames with
  | some c =>
      rw [tableCatalog_kept hkept] at h
      cases h
      exact ⟨.refl s, rfl⟩
  | none =>
      obtain ⟨events, hrun⟩ := tableCatalog_load source hkept
      obtain ⟨-, rfl⟩ := Prod.mk.inj (hrun.symm.trans h)
      unfold Session.keeping
      split <;> exact ⟨⟨rfl, rfl, rfl, rfl⟩, rfl⟩

theorem columnCatalog_kept {c : ColumnCatalog} (h : s.provider.keptColumns = some c) :
    columnCatalog.run source s = (.ok c, s) := by
  unfold columnCatalog
  simp only [run_bind, run_get, h, run_pure]

theorem columnCatalog_error {e : SchemaError} (h : columnCatalog.run source s = (.error e, s')) :
    s.provider.keptColumns = none := by
  cases hkept : s.provider.keptColumns with
  | some c => simp [columnCatalog_kept hkept] at h
  | none => rfl

theorem columnCatalog_load (source : Source) {names : Catalog String}
    (hn : s.provider.keptNames = some names)
    (h : s.provider.keptColumns = none) :
    ∃ events,
      let q := .columns s.provider.context.schema
      let r := (ColumnCatalog.ofAnswer s.provider.context.policy names
        (source.answer s.history q).items).result
      columnCatalog.run source s = (r, (s.asked q events).keeping keepColumns r) := by
  obtain ⟨events, hload⟩ := s.provider.context.run_loadColumns names (s := s)
  refine ⟨events, ?_⟩
  unfold columnCatalog
  rw [run_bind_ok run_get]
  simp only [h]
  rw [run_bind_ok (tableCatalog_kept hn)]
  exact run_keeping hload keepColumns

theorem unread_columns {names : Catalog String} {e : SchemaError}
    (hn : s.provider.keptNames = some names)
    (h : columnCatalog.run source s = (.error e, s')) : Unread source s s' .columns := by
  obtain ⟨events, hload⟩ := columnCatalog_load source hn (columnCatalog_error h)
  obtain ⟨hr, rfl⟩ := Prod.mk.inj (hload.symm.trans h)
  rw [hr]
  refine .columns hn ⟨s.history, List.suffix_rfl, List.suffix_rfl, fun c hc => ?_⟩
  cases hr.symm.trans hc

theorem columnCatalog_missing (h : s.provider.keptColumns = none) :
    columnCatalog.run source s = (tableCatalog >>= fun _ => columnCatalog).run source s := by
  rcases hrun : tableCatalog.run source s with ⟨e | names, s₁⟩
  · rw [run_bind_error hrun]
    unfold columnCatalog
    rw [run_bind_ok run_get]
    simp only [h]
    rw [run_bind_error hrun]
  · have hn := tableCatalog_ok hrun
    obtain ⟨hleaves, hcolumns⟩ := tableCatalog_leaves hrun
    rw [run_bind_ok hrun]
    unfold columnCatalog
    rw [run_bind_ok run_get, run_bind_ok run_get]
    simp only [hcolumns, h, hleaves.context]
    rw [run_bind_ok hrun, run_bind_ok (tableCatalog_kept hn)]

theorem columnCatalog_growsBy (source : Source) {names : Catalog String}
    (hn : s.provider.keptNames = some names) :
    ∃ asked, asked.Sublist [.columns] ∧ columnCatalog.GrowsBy source s asked := by
  cases hkept : s.provider.keptColumns with
  | some c =>
      exact ⟨[], List.nil_sublist _, (growsBy_pure c).congr (columnCatalog_kept hkept)⟩
  | none =>
      obtain ⟨events, hrun⟩ := columnCatalog_load source hn hkept
      have hmissing : s.content? .columns = none := by simp [content?, hkept]
      refine ⟨[.columns], List.Sublist.refl _, growsBy_load hrun hmissing rfl (fun c hc =>
        ⟨.columns c, adds_columns (s := s.asked _ events) hkept c, ?_⟩) fun hfail => ?_⟩
      · exact .columns hn ⟨s.history, List.suffix_rfl, List.suffix_rfl, hc⟩
      · exact .columns hn ⟨s.history, List.suffix_rfl, List.suffix_rfl, hfail⟩

theorem columnCatalog_grows : columnCatalog.Grows := by
  intro source s hs
  cases hkept : s.provider.keptColumns with
  | some c => exact (growsAt_pure c).congr (columnCatalog_kept hkept)
  | none =>
      refine GrowsAt.congr (columnCatalog_missing hkept) ?_
      refine (tableCatalog_grows source s hs).bind fun names s₁ hrun => ?_
      obtain ⟨asked, hsub, hb⟩ := columnCatalog_growsBy source (tableCatalog_ok hrun)
      exact ⟨asked, hsub.nodup (by simp), hb⟩

theorem columnCatalog_outcome {r : Except SchemaError ColumnCatalog}
    (h : columnCatalog.run source s = (r, s')) :
    s.SameTables s' ∧ s'.provider.keptColumns = r.toOption := by
  cases hkept : s.provider.keptColumns with
  | some c =>
      rw [columnCatalog_kept hkept] at h
      cases h
      exact ⟨.refl s, hkept⟩
  | none =>
      rw [columnCatalog_missing hkept] at h
      rcases hrun : tableCatalog.run source s with ⟨e | names, s₁⟩
      · rw [run_bind_error hrun] at h
        cases h
        obtain ⟨hleaves, hcolumns⟩ := tableCatalog_leaves hrun
        exact ⟨hleaves, hcolumns.trans hkept⟩
      · obtain ⟨hleaves, hcolumns⟩ := tableCatalog_leaves hrun
        rw [hkept] at hcolumns
        obtain ⟨events, hload⟩ := columnCatalog_load source (tableCatalog_ok hrun) hcolumns
        rw [run_bind_ok hrun, hload] at h
        obtain ⟨hr, rfl⟩ := Prod.mk.inj h
        rw [hr]
        cases r with
        | ok c => exact ⟨hleaves.trans ⟨rfl, rfl, rfl, rfl⟩, rfl⟩
        | error e => exact ⟨hleaves.trans (.asked s₁ _ events), hcolumns⟩

theorem viewCatalog_kept {c : Catalog String} (h : s.provider.keptViews = some c) :
    viewCatalog.run source s = (.ok c, s) := by
  unfold viewCatalog
  simp only [run_bind, run_get, h, run_pure]

theorem viewCatalog_load (source : Source) (h : s.provider.keptViews = none) :
    ∃ events,
      let q := .tables s.provider.context.schema s.provider.context.policy.viewKinds
      let r := (Catalog.viewNames s.provider.context.policy (source.answer s.history q).items).result
      viewCatalog.run source s = (r, (s.asked q events).keeping keepViews r) := by
  obtain ⟨events, hload⟩ := s.provider.context.run_loadViews (s := s)
  refine ⟨events, ?_⟩
  unfold viewCatalog
  rw [run_bind_ok run_get]
  simp only [h]
  exact run_keeping hload keepViews

theorem viewCatalog_grows : viewCatalog.Grows := by
  intro source s hs
  cases hkept : s.provider.keptViews with
  | some c => exact (growsAt_pure c).congr (viewCatalog_kept hkept)
  | none =>
      obtain ⟨events, hrun⟩ := viewCatalog_load source hkept
      have hn : s.content? .views = none := by simp [content?, hkept]
      refine ⟨[_], by simp, growsBy_load hrun hn rfl (fun c hc =>
        ⟨.names c, adds_views (s := s.asked _ events) hkept c, ?_⟩) fun hfail => ?_⟩
      · exact .views ⟨s.history, List.suffix_rfl, List.suffix_rfl, hc⟩
      · exact .views ⟨s.history, List.suffix_rfl, List.suffix_rfl, hfail⟩

theorem viewCatalog_ok {c : Catalog String} (h : viewCatalog.run source s = (.ok c, s')) :
    s'.provider.keptViews = some c := by
  cases hkept : s.provider.keptViews with
  | some c' =>
      rw [viewCatalog_kept hkept] at h
      cases h
      exact hkept
  | none =>
      obtain ⟨events, hrun⟩ := viewCatalog_load source hkept
      rw [eq_of_run_keeping hrun h]
      rfl

end Provider

end DatabaseSchema
