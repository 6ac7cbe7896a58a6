import DatabaseSchema.Proofs.Columns
import DatabaseSchema.Proofs.Indexes
import DatabaseSchema.Proofs.Listwise
import DatabaseSchema.Proofs.PrimaryKey
import DatabaseSchema.Proofs.Serving
import DatabaseSchema.Source.Fixture

namespace DatabaseSchema

open Session Act

variable {α β : Type} {source : Source} {context : Context} {s s' : Session}

structure TableSnapshot.Canonical (p : Policy) (entry : List Column) (t : TableSnapshot) :
    Prop where
  flagged : PrimaryKey.Flagged t.primaryKey t.columns
  keyed : ∀ name ∈ t.primaryKey, ∃ c ∈ entry, nameKey c.name = nameKey name
  length : t.columns.length = entry.length
  indexes : Index.Grouped p t.indexes

structure SchemaSnapshot.Canonical (source : Source) (s : Session) (snapshot : SchemaSnapshot) :
    Prop where
  tableNames : Provider.tableNames.run source s = (.ok (snapshot.tables.map (·.name)), s)
  tablesDistinct : (snapshot.tables.map fun t => nameKey t.name).Nodup
  tablesKept : ∀ t ∈ snapshot.tables, s.provider.context.policy.isSystemTable t.name = false ∧
    s.provider.context.policy.isIgnoredTable t.name = false
  viewNames : Provider.viewNames.run source s = (.ok snapshot.views, s)
  viewsDistinct : (snapshot.views.map nameKey).Nodup
  tables : ∀ t ∈ snapshot.tables, ∃ columns entry, s.provider.keptColumns = some columns ∧
    columns.columns? t.name = some entry ∧ t.Canonical s.provider.context.policy entry

theorem forall₂_of_run_mapM {f : α → Act β} {R : Session → α → β → Prop}
    (hf : ∀ a, (f a).Grows) (hR : ∀ s s' a b, s.Keeps s' → R s a b → R s' a b) {items : List α}
    {results : List β} (h : Reached source context s)
    (hstep : ∀ a ∈ items, ∀ b s₁ s₂, Reached source context s₁ → s.Keeps s₁ →
      (f a).run source s₁ = (.ok b, s₂) → R s₂ a b)
    (hrun : (items.mapM f).run source s = (.ok results, s')) :
    List.Forall₂ (R s') items results := by
  induction items generalizing s results with
  | nil =>
      rw [List.mapM_nil] at hrun
      cases hrun
      exact .nil
  | cons a items ih =>
      rw [List.mapM_cons, run_bind_eq_ok] at hrun
      obtain ⟨b, s₁, hb, hrun⟩ := hrun
      obtain ⟨bs, s₂, hbs, hrun⟩ := run_bind_eq_ok.mp hrun
      cases hrun
      obtain ⟨hr, hk⟩ := h.of_run (hf a) hb
      obtain ⟨-, hk'⟩ := hr.of_run (Grows.mapM hf items) hbs
      -- what holds of the first item lasts while the others are worked on
      refine .cons (hR s₁ _ a b hk' (hstep a List.mem_cons_self b s s₁ h (.refl s) hb)) ?_
      refine ih hr (fun a ha b s₁' s₂' hr' hk' => ?_) hbs
      exact hstep a (List.mem_cons_of_mem _ ha) b s₁' s₂' hr' (hk.trans hk')

namespace Session.Reached

variable {number : Nat} {t : Table}

theorem entry (hp : context.policy.Plain) (h : Reached source context s)
    (ht : s.face? number = some t) :
    ∃ columns, s.provider.keptColumns = some columns ∧ columns.columns? t.name = some t.entry ∧
      (∀ c ∈ t.entry, c.primaryKey = false) ∧ (t.entry.map (nameKey ·.name)).Nodup := by
  have ha := h.assembled ht
  obtain ⟨names, hnames, hmem⟩ := ha.name
  obtain ⟨columns, hcolumns, hentry⟩ := ha.entry
  obtain ⟨items, hr⟩ : ∃ items,
      (ColumnCatalog.ofAnswer context.policy names items).result = .ok columns := by
    cases h.obtained (show s.content? .columns = some (.columns columns) by
      simp [content?, hcolumns]) with
    | columns hn hanswered =>
        obtain ⟨_, -, -, hr⟩ := hanswered
        cases hn.symm.trans hnames
        rw [h.context_eq] at hr
        exact ⟨_, hr⟩
  obtain ⟨entry, hlookup, hflags⟩ := (ColumnCatalog.unflagged_of_answer hp hr).columns?_eq_some hmem
  rw [hlookup] at hentry
  subst hentry
  exact ⟨columns, hcolumns, hlookup, hflags, ColumnCatalog.distinct_of_answer hp hr _ _ hlookup⟩

end Session.Reached

namespace Table

variable {number : Nat} {t : Table} {snapshot : TableSnapshot}

structure Shows (s : Session) (number : Nat) (snapshot : TableSnapshot) : Prop where
  face : ∃ t, s.face? number = some t ∧ snapshot.name = t.name ∧ snapshot.primaryKey = t.primaryKey
  columns : s.content? (.finalColumns number) = some (.finalColumns snapshot.columns)
  indexes : s.content? (.indexes number) = some (.indexes snapshot.indexes)

theorem Shows.keeps (h : Shows s number snapshot) (hk : s.Keeps s') : Shows s' number snapshot where
  face := by
    obtain ⟨t, ht, hname, hkey⟩ := h.face
    exact ⟨t, hk.face ht, hname, hkey⟩
  columns := hk.content _ _ h.columns
  indexes := hk.content _ _ h.indexes

theorem snapshotOf_shows (h : Reached source context s) (ht : s.face? number = some t)
    (hrun : (snapshotOf number).run source s = (.ok snapshot, s')) : Shows s' number snapshot := by
  obtain ⟨columns, s₁, hcolumns, hrun⟩ := run_bind_eq_ok.mp hrun
  obtain ⟨indexes, s₂, hindexes, hrun⟩ := run_bind_eq_ok.mp hrun
  obtain ⟨_, _, hget, hrun⟩ := run_bind_eq_ok.mp hrun
  cases hget
  cases hrun
  obtain ⟨hr, hk⟩ := h.of_run (columnsOf_grows number) hcolumns
  obtain ⟨hr', hk'⟩ := hr.of_run (indexesOf_grows number) hindexes
  obtain ⟨t₀, ht₀, -⟩ := Option.map_eq_some_iff.mp ht
  obtain ⟨t₁, ht₁, -⟩ := Option.map_eq_some_iff.mp (hk.face ht)
  obtain ⟨t₂, ht₂, -⟩ := Option.map_eq_some_iff.mp (hk'.face (hk.face ht))
  refine ⟨⟨t₂.face, ?_, ?_, ?_⟩, ?_, ?_⟩
  · simp [face?, ht₂]
  · simp [ht₂, Table.face]
  · simp [ht₂, Table.face]
  · exact hk'.content _ _ (columnsOf_ok ht₀ hcolumns)
  · exact indexesOf_ok ht₁ hindexes

theorem Shows.canonical (hp : context.policy.Plain) (h : Reached source context s)
    (hs : Shows s number snapshot) :
    ∃ columns entry, s.provider.keptColumns = some columns ∧
      columns.columns? snapshot.name = some entry ∧ snapshot.Canonical context.policy entry := by
  obtain ⟨t, ht, hname, hkey⟩ := hs.face
  obtain ⟨columns, hcolumns, hlookup, hflags, -⟩ := h.entry hp ht
  obtain ⟨hflagged, hkeyed, hlength⟩ : PrimaryKey.Flagged t.primaryKey snapshot.columns ∧
      (∀ name ∈ t.primaryKey, ∃ c ∈ t.entry, nameKey c.name = nameKey name) ∧
        snapshot.columns.length = t.entry.length := by
    cases h.obtained hs.columns with
    | finalColumns ht' ho =>
        cases ht.symm.trans ht'
        exact PrimaryKey.order_mark hflags ho
  have hgrouped : Index.Grouped context.policy snapshot.indexes := by
    cases h.obtained hs.indexes with
    | indexes ht' hanswered =>
        cases ht.symm.trans ht'
        obtain ⟨_, -, -, hr⟩ := hanswered
        rw [h.face_context ht] at hr
        exact Index.grouped_of_answer hr
  rw [← hname] at hlookup
  rw [← hkey] at hflagged hkeyed
  exact ⟨columns, t.entry, hcolumns, hlookup, hflagged, hkeyed, hlength, hgrouped⟩

end Table

namespace Provider

def Captures (s : Session) (name : String) (snapshot : TableSnapshot) : Prop :=
  snapshot.name = name ∧ ∃ number, Table.Shows s number snapshot

theorem tables_numbers {numbers : List Nat} (h : Reached source context s)
    (hrun : tables.run source s = (.ok numbers, s')) :
    ∃ names, s'.provider.keptNames = some names ∧
      List.Forall₂ (fun name number => ∃ t, s'.face? number = some t ∧ t.name = name)
        names.entries numbers := by
  obtain ⟨entries, s₁, hentries, hrun⟩ := run_bind_eq_ok.mp hrun
  obtain ⟨names, s₀, hnames, hentries⟩ := run_bind_eq_ok.mp hentries
  cases hentries
  obtain ⟨hr, -⟩ := h.of_run tableCatalog_grows hnames
  have hkept := tableCatalog_ok hnames
  obtain ⟨-, hk⟩ := hr.of_run (Grows.mapM getTable_grows names.entries) hrun
  refine ⟨names, hk.keptNames hkept, ?_⟩
  refine forall₂_of_run_mapM
    (R := fun s name number => ∃ t, s.face? number = some t ∧ t.name = name)
    getTable_grows ?_ hr ?_ hrun
  · rintro s s' name number hk ⟨t, ht, hname⟩
    exact ⟨t, hk.face ht, hname⟩
  · intro name hmem number s₁ s₂ hr hk hget
    obtain ⟨hr', hk'⟩ := hr.of_run (getTable_grows name) hget
    have hnumber : s₂.content? (.table name) = some (.number number) := by
      simp [content?, getTable_ok hget]
    cases hr'.obtained hnumber with
    | table ht hname ha =>
        obtain ⟨names', hnames', hmem'⟩ := ha.name
        have hnames₂ := hk'.keptNames (hk.keptNames hkept)
        cases hnames'.symm.trans hnames₂
        exact ⟨_, ht, (hr'.sound names hnames₂).eq_of_key hmem' hmem hname⟩

theorem snapshot_captures {snap : SchemaSnapshot} (h : Reached source context s)
    (hrun : Provider.snapshot.run source s = (.ok snap, s')) :
    ∃ names views, s'.provider.keptNames = some names ∧ s'.provider.keptViews = some views ∧
      snap.views = views.entries ∧ List.Forall₂ (Captures s') names.entries snap.tables := by
  obtain ⟨numbers, s₁, hnumbers, hrun⟩ := run_bind_eq_ok.mp hrun
  obtain ⟨snapshots, s₂, hsnapshots, hrun⟩ := run_bind_eq_ok.mp hrun
  obtain ⟨entries, s₃, hentries, hrun⟩ := run_bind_eq_ok.mp hrun
  obtain ⟨views, s₃', hviews, hentries⟩ := run_bind_eq_ok.mp hentries
  cases hentries
  obtain ⟨_, s₄, hreport, hrun⟩ := run_bind_eq_ok.mp hrun
  cases hrun
  obtain ⟨hr₁, -⟩ := h.of_run tables_grows hnumbers
  obtain ⟨hr₂, hk₂⟩ := hr₁.of_run (Grows.mapM Table.snapshotOf_grows numbers) hsnapshots
  obtain ⟨hr₃, hk₃⟩ := hr₂.of_run viewCatalog_grows hviews
  obtain ⟨-, hk₄⟩ := hr₃.of_run (grows_report _) hreport
  obtain ⟨names, hnames, htables⟩ := tables_numbers h hnumbers
  have hshows : List.Forall₂ (Table.Shows s₂) numbers snapshots := by
    refine forall₂_of_run_mapM Table.snapshotOf_grows (fun _ _ _ _ hk hs => hs.keeps hk) hr₁ ?_
      hsnapshots
    intro number hmem snapshot s₁' s₂' hr hk hsnapshot
    obtain ⟨name, -, t, ht, -⟩ := exists_of_mem_right htables number hmem
    exact Table.snapshotOf_shows hr (hk.face ht) hsnapshot
  have hk := hk₃.trans hk₄
  refine ⟨names, views, (hk₂.trans hk).keptNames hnames,
    hk₄.keptViews (viewCatalog_ok hviews), rfl, ?_⟩
  refine (forall₂_comp htables hshows).imp ?_
  rintro name snapshot ⟨number, ⟨t, ht, rfl⟩, hs⟩
  obtain ⟨t', ht', hname, -⟩ := hs.face
  cases (hk₂.face ht).symm.trans ht'
  exact ⟨hname, number, hs.keeps hk⟩

end Provider

theorem snapshot_canonical (source : Source) (context : Context) (hp : context.policy.Known)
    (requests : List Request) {snap : SchemaSnapshot} {s' : Session}
    (h : Provider.snapshot.run source ((start context).serveAll source requests) = (.ok snap, s')) :
    snap.Canonical source s' := by
  have hr := (Reached.start source context).serveAll requests
  obtain ⟨hr', -⟩ := hr.of_run Provider.snapshot_grows h
  obtain ⟨names, views, hnames, hviews, hv, hcaptures⟩ := Provider.snapshot_captures hr h
  have hentries : names.entries = snap.tables.map (·.name) := by
    rw [← List.forall₂_eq_eq_eq, List.forall₂_map_right_iff]
    exact hcaptures.imp fun _ _ hc => hc.1.symm
  have hwf := hr'.sound names hnames
  have hfiltered : ∀ name ∈ names.entries,
      s'.provider.context.policy.isSystemTable name = false ∧
        s'.provider.context.policy.isIgnoredTable name = false := by
    cases hr'.obtained (show s'.content? .tableNames = some (.names names) by
      simp [content?, hnames]) with
    | tableNames ha =>
        obtain ⟨_, -, -, hresult⟩ := ha
        exact Catalog.tableNames_filtered hresult
  have hviewsNodup : (views.entries.map nameKey).Nodup := by
    cases hr'.obtained (show s'.content? .views = some (.names views) by
      simp [content?, hviews]) with
    | views ha =>
        obtain ⟨_, -, -, hresult⟩ := ha
        exact (Catalog.viewNames_wellFormed hresult).nodup
  constructor
  case tableNames =>
    rw [Provider.tableNames, run_bind_ok (Provider.tableCatalog_kept hnames), run_pure, hentries]
  case tablesDistinct =>
    have hnodup := hwf.nodup
    rwa [hentries, List.map_map] at hnodup
  case tablesKept =>
    intro t ht
    exact hfiltered t.name (hentries ▸ List.mem_map_of_mem ht)
  case viewNames =>
    rw [Provider.viewNames, run_bind_ok (Provider.viewCatalog_kept hviews), run_pure, hv]
  case viewsDistinct => rwa [hv]
  case tables =>
    intro t ht
    obtain ⟨name, -, -, number, hs⟩ := exists_of_mem_right hcaptures t ht
    rw [hr'.context_eq]
    exact hs.canonical hp.plain hr'

theorem snapshot_canonical_orders :
    let source := (Fixture.build ordersCalls).source
    ∃ s', Policy.Known .conventional ∧
      Provider.snapshot.run source
        ((start { policy := .conventional }).serveAll source [.views, .table "ORDERS"]) =
          (.ok ordersSnapshot, s') ∧
      ordersSnapshot.Canonical source s' := by
  intro source
  have h : Provider.snapshot.run source
      ((start { policy := .conventional }).serveAll source [.views, .table "ORDERS"]) =
        (.ok ordersSnapshot, _) := Prod.ext (by decide +kernel) rfl
  exact ⟨_, .default, h, snapshot_canonical source _ .default _ h⟩

end DatabaseSchema
