import DatabaseSchema.Proofs.Loading

namespace DatabaseSchema

open Session Act

variable {source : Source} {s s₁ s' : Session} {name : String}

namespace Session

def handOut (s : Session) (key : String) (t : Table) : Session :=
  { s with
    handles := s.handles ++ [t]
    provider := { s.provider with numbers := (key, s.handles.length) :: s.provider.numbers } }

variable {t : Table}

theorem content?_handOut (hface : t.face = t) (piece : Piece) :
    (s.handOut (nameKey name) t).content? piece =
      match piece with
      | .table other =>
          if nameKey other = nameKey name then some (.number s.handles.length)
          else s.content? (.table other)
      | .face number =>
          if number = s.handles.length then some (.face t) else s.content? (.face number)
      | piece => s.content? piece := by
  have hcolumns : t.columns = none := by rw [← hface, Table.face]
  have hindexes : t.indexes = none := by rw [← hface, Table.face]
  cases piece with
  | table other =>
      by_cases hk : nameKey other = nameKey name
      · simp [content?, handOut, hk]
      · have hb : (nameKey other == nameKey name) = false := by simpa using hk
        simp [content?, handOut, List.lookup_cons, hb, hk]
  | face number =>
      by_cases hn : number = s.handles.length
      · simp [content?, face?, handOut, hn, hface]
      · simp only [content?, face?, handOut, List.getElem?_append, hn, if_false]
        grind
  | finalColumns number =>
      simp only [content?, handOut, List.getElem?_append]
      grind
  | indexes number =>
      simp only [content?, handOut, List.getElem?_append]
      grind
  | _ => rfl

theorem keeps_handOut (hnumber : s.provider.numbers.lookup (nameKey name) = none)
    (hface : t.face = t) : s.Keeps (s.handOut (nameKey name) t) where
  context := rfl
  history := List.suffix_rfl
  content piece content hc := by
    rw [content?_handOut hface]
    split
    next other =>
      split
      next hk => simp [content?, hk, hnumber] at hc
      next => exact hc
    next number =>
      split
      next hn => simp [content?, face?, hn] at hc
      next => exact hc
    next => exact hc

theorem growth_handOut {asked : List Piece}
    (hnumber : s₁.provider.numbers.lookup (nameKey name) = none)
    (hname : nameKey t.name = nameKey name) (hface : t.face = t)
    (hassembled : Assembled source s s₁ t) (hg : Growth source s asked s₁) :
    Growth source s asked (s₁.handOut (nameKey name) t) := by
  have hkeeps := keeps_handOut hnumber hface
  have hassembled' := hassembled.widen List.suffix_rfl hkeeps
  refine hg.keep hkeeps rfl fun piece content hn hc => ?_
  rw [content?_handOut hface] at hc
  split at hc
  next other =>
    split at hc
    next hk =>
      cases hc
      refine .table (t := t) ?_ (hname.trans hk.symm) hassembled'
      simp [face?, handOut, hface]
    next => simp [hn] at hc
  next number =>
    split at hc
    next hn =>
      cases hc
      refine .face ?_ hassembled'
      simp [content?_handOut hface, hname, hn]
    next => simp [hn] at hc
  next => simp [hn] at hc

end Session

namespace Provider

inductive TableLoad (source : Source) (s : Session) (name : String) :
    Except SchemaError Table → Session → Prop where
  | noNames {e : SchemaError} {s₁ : Session} :
      tableCatalog.run source s = (.error e, s₁) → TableLoad source s name (.error e) s₁
  | notFound {names : Catalog String} {s₁ : Session} :
      tableCatalog.run source s = (.ok names, s₁) → names.get? name = none →
      TableLoad source s name (.error (.tableNotFound name)) s₁
  | noKey {names : Catalog String} {s₁ : Session} {table : String} {events : List Event}
      {e : SchemaError} :
      tableCatalog.run source s = (.ok names, s₁) → names.get? name = some table →
      (PrimaryKey.ofAnswer table (source.answer s₁.history
        (.primaryKeys s.provider.context.schema table)).items).result = .error e →
      TableLoad source s name (.error e)
        (s₁.asked (.primaryKeys s.provider.context.schema table) events)
  | noColumns {names : Catalog String} {s₁ s₂ : Session} {table : String} {events : List Event}
      {key : List String} {e : SchemaError} :
      tableCatalog.run source s = (.ok names, s₁) → names.get? name = some table →
      (PrimaryKey.ofAnswer table (source.answer s₁.history
        (.primaryKeys s.provider.context.schema table)).items).result = .ok key →
      columnCatalog.run source (s₁.asked (.primaryKeys s.provider.context.schema table) events) =
        (.error e, s₂) →
      TableLoad source s name (.error e) s₂
  | loaded {names : Catalog String} {s₁ s₂ : Session} {table : String} {events : List Event}
      {key : List String} {columns : ColumnCatalog} :
      tableCatalog.run source s = (.ok names, s₁) → names.get? name = some table →
      (PrimaryKey.ofAnswer table (source.answer s₁.history
        (.primaryKeys s.provider.context.schema table)).items).result = .ok key →
      columnCatalog.run source (s₁.asked (.primaryKeys s.provider.context.schema table) events) =
        (.ok columns, s₂) →
      TableLoad source s name
        (.ok ⟨table, key, (columns.columns? table).getD [], s.provider.context, none, none⟩)
        { s₂ with events := s₂.events ++ [.loadedTable table] }

theorem tableLoad_of_run {r : Except SchemaError Table}
    (h : (loadTable name).run source s = (r, s')) : TableLoad source s name r s' := by
  unfold loadTable at h
  rw [run_bind_ok run_get] at h
  rcases hnames : tableCatalog.run source s with ⟨e | names, s₁⟩
  · rw [run_bind_error hnames] at h
    cases h
    exact .noNames hnames
  rw [run_bind_ok hnames] at h
  split at h
  next hget =>
    cases h
    exact .notFound hnames hget
  next table hget =>
    obtain ⟨events, hload⟩ := s.provider.context.run_loadPrimaryKey table (s := s₁)
    cases hkey : (PrimaryKey.ofAnswer table (source.answer s₁.history
        (.primaryKeys s.provider.context.schema table)).items).result with
    | error e =>
        rw [hkey] at hload
        rw [run_bind_error hload] at h
        cases h
        exact .noKey hnames hget hkey
    | ok key =>
        rw [hkey] at hload
        rw [run_bind_ok hload] at h
        rcases hcolumns : columnCatalog.run source
          (s₁.asked (.primaryKeys s.provider.context.schema table) events) with ⟨e | columns, s₂⟩
        · rw [run_bind_error hcolumns] at h
          cases h
          exact .noColumns hnames hget hkey hcolumns
        · rw [run_bind_ok hcolumns, run_bind_ok (run_report _)] at h
          cases h
          exact .loaded hnames hget hkey hcolumns

namespace TableLoad

theorem leaves {r : Except SchemaError Table} (h : TableLoad source s name r s') :
    s.SameTables s' ∧ ∀ e, r = .error e → s'.provider.keptColumns = s.provider.keptColumns := by
  cases h with
  | noNames hn =>
      obtain ⟨hsame, hcolumns⟩ := tableCatalog_leaves hn
      exact ⟨hsame, fun _ _ => hcolumns⟩
  | notFound hn =>
      obtain ⟨hsame, hcolumns⟩ := tableCatalog_leaves hn
      exact ⟨hsame, fun _ _ => hcolumns⟩
  | noKey hn =>
      obtain ⟨hsame, hcolumns⟩ := tableCatalog_leaves hn
      exact ⟨hsame.trans (.asked _ _ _), fun _ _ => hcolumns⟩
  | @noColumns names s₁ _ table events key e hn hget hkey hc =>
      obtain ⟨hsame, hcolumns⟩ := tableCatalog_leaves hn
      obtain ⟨hsame', hcolumns'⟩ := columnCatalog_outcome hc
      refine ⟨(hsame.trans (.asked s₁ _ events)).trans hsame', fun _ _ => ?_⟩
      rw [hcolumns', ← hcolumns]
      exact (columnCatalog_error hc).symm
  | @loaded names s₁ s₂ table events key columns hn hget hkey hc =>
      obtain ⟨hsame, -⟩ := tableCatalog_leaves hn
      obtain ⟨hsame', -⟩ := columnCatalog_outcome hc
      have hreported : s₂.SameTables { s₂ with events := s₂.events ++ [.loadedTable table] } :=
        ⟨rfl, rfl, rfl, rfl⟩
      exact ⟨((hsame.trans (.asked s₁ _ events)).trans hsame').trans hreported, by simp⟩

theorem growth_asked {names : Catalog String} {table : String} (events : List Event)
    (hs : s.Sound) (hnumber : s.provider.numbers.lookup (nameKey name) = none)
    (hn : tableCatalog.run source s = (.ok names, s₁)) (hget : names.get? name = some table) :
    nameKey table = nameKey name ∧ table ∈ names.entries ∧ ∃ asked, asked.Nodup ∧
      Growth source s asked (s₁.asked (.primaryKeys s.provider.context.schema table) events) ∧
      ∀ piece ∈ asked, piece = .table table ∨ s₁.content? piece ≠ none := by
  obtain ⟨asked, hd, hg, hk, -⟩ := (tableCatalog_grows source s hs).of_run hn
  obtain ⟨hsame, -⟩ := tableCatalog_leaves hn
  obtain ⟨hmem, hkey⟩ := (hg.sound hs names (tableCatalog_ok hn)).get?_eq_some_iff.mp hget
  have hmissing : s₁.content? (.table table) = none := by
    simp [content?, hsame.numbers, hkey, hnumber]
  have hquery : s₁.query? (.table table) =
      some (.primaryKeys s.provider.context.schema table) := by
    simp [query?, hsame.context]
  refine ⟨hkey, hmem, asked ++ [.table table], ?_, hg.trans (.ask hmissing hquery events), ?_⟩
  · refine List.nodup_append.mpr ⟨hd, by simp, ?_⟩
    rintro piece hp _ hp' rfl
    rw [List.mem_singleton.mp hp'] at hp
    exact hk names rfl _ hp hmissing
  · intro piece hp
    rcases List.mem_append.mp hp with hp | hp
    · exact .inr (hk names rfl piece hp)
    · exact .inl (List.mem_singleton.mp hp)

theorem unread_key {names : Catalog String} {table : String} {events : List Event}
    {e : SchemaError} (hs : s.Sound) (hn : tableCatalog.run source s = (.ok names, s₁))
    (hkey : (PrimaryKey.ofAnswer table (source.answer s₁.history
      (.primaryKeys s.provider.context.schema table)).items).result = .error e) :
    Unread source s (s₁.asked (.primaryKeys s.provider.context.schema table) events)
      (.table table) := by
  obtain ⟨_, -, hg, -⟩ := (tableCatalog_grows source s hs).of_run hn
  rw [← hg.context] at hkey ⊢
  refine .key ⟨s₁.history, hg.history, List.suffix_rfl, fun key h => ?_⟩
  cases hkey.symm.trans h

theorem growth_columns {names : Catalog String} {table : String} {events : List Event}
    {r : Except SchemaError ColumnCatalog} (hs : s.Sound)
    (hnumber : s.provider.numbers.lookup (nameKey name) = none)
    (hn : tableCatalog.run source s = (.ok names, s₁)) (hget : names.get? name = some table)
    (hc : columnCatalog.run source
      (s₁.asked (.primaryKeys s.provider.context.schema table) events) = (r, s')) :
    (s₁.asked (.primaryKeys s.provider.context.schema table) events).Keeps s' ∧
      ∃ asked, asked.Nodup ∧ Growth source s asked s' ∧
        (∀ columns, r = .ok columns →
          ∀ piece ∈ asked, piece = .table table ∨ s'.content? piece ≠ none) ∧
        ∀ e, r = .error e → ∀ piece ∈ asked, s'.content? piece = none →
          Unread source s s' piece := by
  obtain ⟨-, -, asked, hd, hg, hk⟩ := growth_asked events hs hnumber hn hget
  have hnames : s₁.provider.keptNames = some names := tableCatalog_ok hn
  obtain ⟨asked', hsub, hb⟩ := columnCatalog_growsBy source (s := s₁.asked _ events) hnames
  obtain ⟨hg', hk', -⟩ := hb.of_run hc
  refine ⟨hg'.toKeeps, asked ++ asked', ?_, hg.trans hg', ?_, ?_⟩
  · refine List.nodup_append.mpr ⟨hd, hsub.nodup (by simp), ?_⟩
    rintro piece hp _ hp' rfl
    rcases hk piece hp with rfl | hkept
    · simpa using hsub.subset hp'
    · exact hkept (hg'.missing piece hp')
  · intro columns hr piece hp
    rcases List.mem_append.mp hp with hp | hp
    · exact (hk piece hp).imp_right fun hkept hnone => hkept (hg'.toKeeps.missing hnone)
    · exact .inr (hk' columns hr piece hp)
  · rintro e rfl piece hp hnone
    obtain ⟨_, -, hg₁, -⟩ := (tableCatalog_grows source s hs).of_run hn
    have hcolumns : Unread source s s' .columns :=
      (unread_columns (s := s₁.asked _ events) hnames hc).widen
        (hg₁.history.trans (List.suffix_cons _ s₁.history)) (.refl s')
    rcases List.mem_append.mp hp with hp | hp
    · rcases hk piece hp with rfl | hkept
      · exact .entry hcolumns
      · exact absurd (hg'.toKeeps.missing hnone) hkept
    · rwa [List.mem_singleton.mp (hsub.subset hp)]

theorem growth {r : Except SchemaError Table} (h : TableLoad source s name r s') (hs : s.Sound)
    (hnumber : s.provider.numbers.lookup (nameKey name) = none) :
    ∃ asked, asked.Nodup ∧ Growth source s asked s' ∧
      (∀ e, r = .error e → ∀ piece ∈ asked, s'.content? piece = none →
        Unread source s s' piece) ∧
      ∀ t, r = .ok t →
        nameKey t.name = nameKey name ∧ t.face = t ∧ Assembled source s s' t ∧
        ∀ piece ∈ asked, piece = .table t.name ∨ s'.content? piece ≠ none := by
  cases h with
  | noNames hn =>
      obtain ⟨asked, hd, hg, -, hu⟩ := (tableCatalog_grows source s hs).of_run hn
      exact ⟨asked, hd, hg, fun _ _ => hu, by simp⟩
  | notFound hn =>
      obtain ⟨asked, hd, hg, -, hu⟩ := (tableCatalog_grows source s hs).of_run hn
      exact ⟨asked, hd, hg, fun _ _ => hu, by simp⟩
  | @noKey _ _ _ events _ hn hget hkey =>
      obtain ⟨-, -, asked, hd, hg, hk⟩ := growth_asked events hs hnumber hn hget
      refine ⟨asked, hd, hg, fun _ _ piece hp hnone => ?_, by simp⟩
      obtain rfl | hkept := hk piece hp
      · exact unread_key hs hn hkey
      · exact absurd hnone hkept
  | noColumns hn hget _ hc =>
      obtain ⟨-, asked, hd, hg, -, hu⟩ := growth_columns hs hnumber hn hget hc
      exact ⟨asked, hd, hg, fun _ _ => hu _ rfl, by simp⟩
  | @loaded names s₁ s₂ table events key columns hn hget hkey hc =>
      obtain ⟨_, _, hg₁, _⟩ := (tableCatalog_grows source s hs).of_run hn
      obtain ⟨hname, hmem, -⟩ := growth_asked events hs hnumber hn hget
      obtain ⟨hkeeps, asked, hd, hg, hk, -⟩ := growth_columns hs hnumber hn hget hc
      obtain ⟨hsame, -⟩ := tableCatalog_leaves hn
      obtain ⟨hsame', hcolumns⟩ := columnCatalog_outcome hc
      have hnames : s₁.provider.keptNames = some names := tableCatalog_ok hn
      refine ⟨asked, hd, by simpa using hg.trans (.report source s₂ _), nofun, ?_⟩
      rintro _ ⟨⟩
      refine ⟨hname, rfl, ⟨?_, ?_, ?_, ?_⟩, hk columns rfl⟩
      · exact (hsame'.context.trans hsame.context).symm
      · exact ⟨names, hkeeps.keptNames hnames, hmem⟩
      · exact ⟨s₁.history, hg₁.history, hkeeps.history, hkey⟩
      · exact ⟨columns, hcolumns, rfl⟩

end TableLoad

theorem getTable_kept {number : Nat}
    (h : s.provider.numbers.lookup (nameKey name) = some number) :
    (getTable name).run source s = (.ok number, s) := by
  unfold getTable
  simp only [run_bind, run_get, h, run_pure]

theorem getTable_load (source : Source) (h : s.provider.numbers.lookup (nameKey name) = none) :
    (getTable name).run source s =
      match (loadTable name).run source s with
      | (.ok t, s₁) => (.ok s₁.handles.length, s₁.handOut (nameKey name) t)
      | (.error e, s₁) => (.error e, s₁) := by
  unfold getTable
  rw [run_bind_ok run_get]
  simp only [h]
  rw [run_bind]
  rcases (loadTable name).run source s with ⟨_ | t, s₁⟩ <;> rfl

theorem getTable_grows (name : String) : (getTable name).Grows := by
  intro source s hs
  cases hnumber : s.provider.numbers.lookup (nameKey name) with
  | some number => exact (growsAt_pure number).congr (getTable_kept hnumber)
  | none =>
      have hget := getTable_load source hnumber
      rcases hrun : (loadTable name).run source s with ⟨e | t, s₁⟩ <;> rw [hrun] at hget
      · obtain ⟨asked, hd, hg, hu, -⟩ := (tableLoad_of_run hrun).growth hs hnumber
        refine ⟨asked, hd, ?_, ?_, ?_⟩ <;> rw [hget]
        · exact hg
        · simp
        · exact hu e rfl
      · obtain ⟨asked, hd, hg, -, hok⟩ := (tableLoad_of_run hrun).growth hs hnumber
        obtain ⟨hname, hface, hassembled, hkept⟩ := hok t rfl
        obtain ⟨hsame, -⟩ := (tableLoad_of_run hrun).leaves
        rw [← hsame.numbers] at hnumber
        have hall : ∀ piece ∈ asked, (s₁.handOut (nameKey name) t).content? piece ≠ none := by
          intro piece hp
          rcases hkept piece hp with rfl | hkept
          · simp [content?_handOut hface, hname]
          · exact fun hn => hkept ((keeps_handOut hnumber hface).missing hn)
        refine ⟨asked, hd, ?_, ?_, ?_⟩ <;> rw [hget]
        · exact growth_handOut hnumber hname hface hassembled hg
        · exact fun _ _ => hall
        · exact fun piece hp hn => absurd hn (hall piece hp)

theorem getTable_error {e : SchemaError} (h : (getTable name).run source s = (.error e, s')) :
    s.SameTables s' ∧ s'.provider.keptColumns = s.provider.keptColumns := by
  cases hnumber : s.provider.numbers.lookup (nameKey name) with
  | some number => simp [getTable_kept hnumber] at h
  | none =>
      rw [getTable_load source hnumber] at h
      split at h
      next => simp at h
      next e' s₁ hrun =>
        cases h
        obtain ⟨hsame, hcolumns⟩ := (tableLoad_of_run hrun).leaves
        exact ⟨hsame, hcolumns e rfl⟩

theorem getTable_ok {number : Nat} (h : (getTable name).run source s = (.ok number, s')) :
    s'.provider.numbers.lookup (nameKey name) = some number := by
  cases hnumber : s.provider.numbers.lookup (nameKey name) with
  | some number' =>
      rw [getTable_kept hnumber] at h
      cases h
      exact hnumber
  | none =>
      rw [getTable_load source hnumber] at h
      split at h
      next t s₁ hrun =>
        cases h
        simp [Session.handOut]
      next => simp at h

end Provider

end DatabaseSchema
