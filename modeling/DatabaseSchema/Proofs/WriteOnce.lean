import DatabaseSchema.Proofs.Canonical

namespace DatabaseSchema

variable {source : Source} {s s' s'' : Session} {asked : List Piece}

namespace Session

def since (s s' : Session) : List Query :=
  s'.history.take (s'.history.length - s.history.length)

def Numbered (s : Session) : Prop :=
  ∀ number t, s.face? number = some t → s.provider.numbers.lookup (nameKey t.name) = some number

theorem numbered_start (context : Context) : (start context).Numbered := by
  intro number t ht
  simp [face?, start] at ht

theorem Growth.numbered (h : Growth source s asked s') (hs : s.Numbered) : s'.Numbered := by
  intro number t ht
  have hc' : s'.content? (.face number) = some (.face t) := by simp [content?, ht]
  suffices hn : s'.content? (.table t.name) = some (.number number) by simpa [content?] using hn
  cases hc : s.content? (.face number) with
  | none =>
      cases h.obtained hc hc' with
      | face hn _ => exact hn
  | some content =>
      have hsame := h.content _ _ hc
      rw [hc'] at hsame
      cases hsame
      have hold : s.face? number = some t := by simpa [content?] using hc
      exact h.content _ _ (by simp [content?, hs number t hold])

theorem Growth.of_mem_since (h : Growth source s asked s') {q : Query} (hq : q ∈ s.since s') :
    ∃ piece ∈ asked, s.content? piece = none ∧ s'.query? piece = some q := by
  obtain ⟨queries, hh, hmap⟩ := h.queries
  have hsince : s.since s' = queries.reverse := by
    simp [since, hh]
  rw [hsince, List.mem_reverse] at hq
  have hmem : some q ∈ asked.map s'.query? := hmap ▸ List.mem_map_of_mem hq
  obtain ⟨piece, hp, hpq⟩ := List.mem_map.mp hmem
  exact ⟨piece, hp, h.missing piece hp, hpq⟩

structure AsksNoMore (s s' : Session) : Prop where
  tableNames : s.provider.keptNames.isSome → ∀ schema kinds, .tables schema kinds ∈ s.since s' →
    s.provider.keptViews = none ∧ kinds = s.provider.context.policy.viewKinds
  views : s.provider.keptViews.isSome → ∀ schema kinds, .tables schema kinds ∈ s.since s' →
    s.provider.keptNames = none ∧ kinds = s.provider.context.policy.tableKinds
  columns : s.provider.keptColumns.isSome → ∀ schema, .columns schema ∉ s.since s'
  primaryKeys : ∀ name, (s.provider.numbers.lookup (nameKey name)).isSome →
    ∀ schema table, nameKey table = nameKey name → .primaryKeys schema table ∉ s.since s'
  indexes : ∀ (number : Nat) (t : Table), s.handles[number]? = some t → t.indexes.isSome →
    ∀ schema uniqueOnly approximate,
      .indexes schema t.name uniqueOnly approximate ∉ s.since s'

theorem Growth.asked_tables (h : Growth source s asked s') {schema : Option String}
    {kinds : List String} (hq : .tables schema kinds ∈ s.since s') :
    (s.provider.keptNames = none ∧ kinds = s.provider.context.policy.tableKinds) ∨
      (s.provider.keptViews = none ∧ kinds = s.provider.context.policy.viewKinds) := by
  obtain ⟨piece, -, hn, hp⟩ := h.of_mem_since hq
  cases piece with
  | tableNames =>
      obtain ⟨-, rfl⟩ := Query.tables.inj (Option.some.inj hp)
      exact .inl ⟨by simpa [content?] using hn, by rw [h.context]⟩
  | views =>
      obtain ⟨-, rfl⟩ := Query.tables.inj (Option.some.inj hp)
      exact .inr ⟨by simpa [content?] using hn, by rw [h.context]⟩
  | _ => simp [query?] at hp

theorem Growth.asksNoMore (h : Growth source s asked s') (hs : s.Numbered) : s.AsksNoMore s' where
  tableNames := by
    intro hk schema kinds hq
    obtain ⟨hn, -⟩ | hviews := h.asked_tables hq
    · simp [hn] at hk
    · exact hviews
  views := by
    intro hk schema kinds hq
    obtain hnames | ⟨hn, -⟩ := h.asked_tables hq
    · exact hnames
    · simp [hn] at hk
  columns := by
    intro hk schema hq
    obtain ⟨piece, -, hn, hp⟩ := h.of_mem_since hq
    cases piece with
    | columns =>
        obtain ⟨c, hc⟩ := Option.isSome_iff_exists.mp hk
        simp [content?, hc] at hn
    | _ => simp [query?] at hp
  primaryKeys := by
    intro name hk schema table hkey hq
    obtain ⟨piece, -, hn, hp⟩ := h.of_mem_since hq
    cases piece with
    | table other =>
        obtain ⟨-, rfl⟩ := Query.primaryKeys.inj (Option.some.inj hp)
        obtain ⟨number, hnumber⟩ := Option.isSome_iff_exists.mp hk
        simp [content?, hkey, hnumber] at hn
    | _ => simp [query?] at hp
  indexes := by
    intro number t ht hi schema uniqueOnly approximate hq
    obtain ⟨piece, -, hn, hp⟩ := h.of_mem_since hq
    cases piece with
    | indexes other =>
        obtain ⟨t', ht', hp⟩ := Option.map_eq_some_iff.mp hp
        obtain ⟨-, hname, -⟩ := Query.indexes.inj hp
        -- tables handed out under one name are one table
        have hface : s.face? number = some t.face := by simp [face?, ht]
        have hother := h.numbered hs other t' ht'
        have hnumber := h.numbered hs number t.face (h.toKeeps.face hface)
        rw [hname] at hother
        obtain rfl : other = number := Option.some.inj (hother.symm.trans hnumber)
        obtain ⟨indexes, hindexes⟩ := Option.isSome_iff_exists.mp hi
        simp [content?, ht, hindexes] at hn
    | _ => simp [query?] at hp

end Session

def Piece.HasTable (s : Session) : Piece → Prop
  | .finalColumns number | .indexes number => (s.face? number).isSome
  | _ => True

theorem Session.Keeps.hasTable {piece : Piece} (h : s.Keeps s') (hp : piece.HasTable s) :
    piece.HasTable s' := by
  cases piece with
  | finalColumns number | indexes number =>
      obtain ⟨t, ht⟩ := Option.isSome_iff_exists.mp hp
      exact Option.isSome_iff_exists.mpr ⟨t, h.face ht⟩
  | _ => trivial

theorem Session.Keeps.kept {piece : Piece} (h : s.Keeps s') (hc : (s.content? piece).isSome) :
    (s'.content? piece).isSome := by
  obtain ⟨content, hc⟩ := Option.isSome_iff_exists.mp hc
  exact Option.isSome_iff_exists.mpr ⟨content, h.content piece content hc⟩

namespace Act

variable {α β : Type} {x : Act α} {f : α → Act β} {piece : Piece}

def Secures (act : Act α) (piece : Piece) : Prop :=
  ∀ source s, s.Sound → piece.HasTable s → ∀ a s', act.run source s = (.ok a, s') →
    (s'.content? piece).isSome

theorem Grows.of_run {s₁ : Session} (h : x.Grows) (hs : s.Sound) {r : Except SchemaError α}
    (hrun : x.run source s = (r, s₁)) : s₁.Sound ∧ s.Keeps s₁ := by
  obtain ⟨asked, -, hg, -⟩ := (h source s hs).of_run hrun
  exact ⟨hg.sound hs, hg.toKeeps⟩

theorem Secures.bind (hx : x.Secures piece) (hgx : x.Grows) (hgf : ∀ a, (f a).Grows) :
    (x >>= f).Secures piece := by
  intro source s hs hp b s' hrun
  obtain ⟨a, s₁, hrun₁, hrun₂⟩ := run_bind_eq_ok.mp hrun
  have hs₁ := (hgx.of_run hs hrun₁).1
  exact ((hgf a).of_run hs₁ hrun₂).2.kept (hx source s hs hp a s₁ hrun₁)

theorem Grows.bind_secures (hx : x.Grows) (hf : ∀ a, (f a).Secures piece) :
    (x >>= f).Secures piece := by
  intro source s hs hp b s' hrun
  obtain ⟨a, s₁, hrun₁, hrun₂⟩ := run_bind_eq_ok.mp hrun
  obtain ⟨hs₁, hkeeps⟩ := hx.of_run hs hrun₁
  exact hf a source s₁ hs₁ (hkeeps.hasTable hp) b s' hrun₂

theorem secures_mapM {pieceOf : α → Piece} {as : List α} (hg : ∀ a, (f a).Grows)
    (hf : ∀ a, (f a).Secures (pieceOf a)) {a : α} (ha : a ∈ as) :
    (as.mapM f).Secures (pieceOf a) := by
  induction as with
  | nil => cases ha
  | cons a' as ih =>
      rw [List.mapM_cons]
      have hrest : ∀ b, (as.mapM f >>= fun bs => (pure (b :: bs) : Act (List β))).Grows := fun b =>
        (Grows.mapM hg as).bind fun bs => grows_pure _
      rcases List.mem_cons.mp ha with rfl | ha
      · exact (hf a).bind (hg a) hrest
      · exact (hg a').bind_secures fun b => (ih ha).bind (Grows.mapM hg as) fun bs => grows_pure _

end Act

open Act

namespace Provider

theorem tableCatalog_secures : tableCatalog.Secures .tableNames := by
  intro source s _ _ c s' hrun
  simp [Session.content?, tableCatalog_ok hrun]

theorem viewCatalog_secures : viewCatalog.Secures .views := by
  intro source s _ _ c s' hrun
  simp [Session.content?, viewCatalog_ok hrun]

theorem getTable_secures (name : String) : (getTable name).Secures (.table name) := by
  intro source s _ _ number s' hrun
  simp [Session.content?, getTable_ok hrun]

theorem tables_secures : tables.Secures .tableNames :=
  (tableCatalog_secures.bind tableCatalog_grows fun _ => grows_pure _).bind
    (tableCatalog_grows.bind fun _ => grows_pure _) fun names => Grows.mapM getTable_grows names

end Provider

namespace Table

theorem columnsOf_secures (number : Nat) : (columnsOf number).Secures (.finalColumns number) := by
  intro source s _ hp columns s' hrun
  obtain ⟨_, hface⟩ := Option.isSome_iff_exists.mp hp
  obtain ⟨t, ht, -⟩ := Option.map_eq_some_iff.mp hface
  rw [columnsOf_ok ht hrun]
  rfl

theorem indexesOf_secures (number : Nat) : (indexesOf number).Secures (.indexes number) := by
  intro source s _ hp indexes s' hrun
  obtain ⟨_, hface⟩ := Option.isSome_iff_exists.mp hp
  obtain ⟨t, ht, -⟩ := Option.map_eq_some_iff.mp hface
  rw [indexesOf_ok ht hrun]
  rfl

theorem snapshotOf_secures (number : Nat) :
    (snapshotOf number).Secures (.finalColumns number) ∧
      (snapshotOf number).Secures (.indexes number) := by
  constructor
  · refine (columnsOf_secures number).bind (columnsOf_grows number) fun columns => ?_
    exact (indexesOf_grows number).bind fun _ => grows_get.bind fun _ => grows_pure _
  · refine (columnsOf_grows number).bind_secures fun columns => ?_
    exact (indexesOf_secures number).bind (indexesOf_grows number) fun _ =>
      grows_get.bind fun _ => grows_pure _

end Table

namespace Provider

theorem snapshot_secures : snapshot.Secures .tableNames ∧ snapshot.Secures .views := by
  have hviews : ∀ tables : List TableSnapshot, (viewNames >>= fun views =>
      report [.capturedSnapshot tables.length views.length] >>= fun _ =>
        (pure { tables, views } : Act SchemaSnapshot)).Secures .views := fun tables =>
    (viewCatalog_secures.bind viewCatalog_grows fun _ => grows_pure _).bind
      (viewCatalog_grows.bind fun _ => grows_pure _) fun _ => (grows_report _).bind fun _ =>
        grows_pure _
  constructor
  · refine tables_secures.bind tables_grows fun numbers => ?_
    refine (Grows.mapM Table.snapshotOf_grows numbers).bind fun tables => ?_
    exact (viewCatalog_grows.bind fun _ => grows_pure _).bind fun _ =>
      (grows_report _).bind fun _ => grows_pure _
  · refine tables_grows.bind_secures fun numbers => ?_
    exact (Grows.mapM Table.snapshotOf_grows numbers).bind_secures hviews

theorem getView_secures (name : String) : (getView name).Secures .views := by
  refine viewCatalog_secures.bind viewCatalog_grows fun c => ?_
  split
  · exact grows_pure _
  · exact grows_throw _

end Provider

def TableRequest.needs (number : Nat) : TableRequest → List Piece
  | columns | column _ => [.finalColumns number]
  | indexes => [.indexes number]
  | snapshot => [.finalColumns number, .indexes number]

def Request.needs : Request → List Piece
  | isEmpty | tableExists _ | tableNames | tables => [.tableNames]
  | table name => [.table name]
  | viewExists _ | view _ | viewNames | views => [.views]
  | snapshot => [.tableNames, .views]
  | ofTable number request => request.needs number

theorem TableRequest.secures {number : Nat} {request : TableRequest} {piece : Piece}
    (h : piece ∈ request.needs number) : (request.act number).Secures piece := by
  cases request with
  | columns =>
      obtain rfl := List.mem_singleton.mp h
      exact (Table.columnsOf_secures number).bind (Table.columnsOf_grows number) fun _ =>
        grows_pure _
  | column name =>
      obtain rfl := List.mem_singleton.mp h
      exact ((Table.columnsOf_secures number).bind (Table.columnsOf_grows number) fun _ =>
        grows_pure _).bind (Table.columnOf?_grows number name) fun _ => grows_pure _
  | indexes =>
      obtain rfl := List.mem_singleton.mp h
      exact (Table.indexesOf_secures number).bind (Table.indexesOf_grows number) fun _ =>
        grows_pure _
  | snapshot =>
      obtain ⟨hcolumns, hindexes⟩ := Table.snapshotOf_secures number
      rcases List.mem_pair.mp h with rfl | rfl
      · exact hcolumns.bind (Table.snapshotOf_grows number) fun _ => grows_pure _
      · exact hindexes.bind (Table.snapshotOf_grows number) fun _ => grows_pure _

theorem Request.secures {request : Request} {piece : Piece} (h : piece ∈ request.needs) :
    request.act.Secures piece := by
  cases request with
  | isEmpty | tableExists | tableNames =>
      obtain rfl := List.mem_singleton.mp h
      exact (Provider.tableCatalog_secures.bind Provider.tableCatalog_grows fun _ =>
        grows_pure _).bind (Provider.tableCatalog_grows.bind fun _ => grows_pure _) fun _ =>
          grows_pure _
  | tables =>
      obtain rfl := List.mem_singleton.mp h
      exact Provider.tables_secures.bind Provider.tables_grows fun _ => grows_get.bind fun _ =>
        grows_pure _
  | table name =>
      obtain rfl := List.mem_singleton.mp h
      exact (Provider.getTable_secures name).bind (Provider.getTable_grows name) fun _ =>
        grows_get.bind fun _ => grows_pure _
  | viewExists | viewNames | views =>
      obtain rfl := List.mem_singleton.mp h
      exact (Provider.viewCatalog_secures.bind Provider.viewCatalog_grows fun _ =>
        grows_pure _).bind (Provider.viewCatalog_grows.bind fun _ => grows_pure _) fun _ =>
          grows_pure _
  | view name =>
      obtain rfl := List.mem_singleton.mp h
      exact (Provider.getView_secures name).bind (Provider.getView_grows name) fun _ =>
        grows_pure _
  | snapshot =>
      obtain ⟨hnames, hviews⟩ := Provider.snapshot_secures
      rcases List.mem_pair.mp h with rfl | rfl
      · exact hnames.bind Provider.snapshot_grows fun _ => grows_pure _
      · exact hviews.bind Provider.snapshot_grows fun _ => grows_pure _
  | ofTable number request => exact TableRequest.secures h

namespace Session

variable {context : Context}

structure KeepsOnce (source : Source) (s : Session) (request : Request) (s' : Session) : Prop where
  obtained : ∀ piece content, s.content? piece = none → s'.content? piece = some content →
    Obtained source s s' piece content
  asked : ∃ asked : List Piece, asked.Nodup ∧ (∀ piece ∈ asked, s.content? piece = none) ∧
    (s.since s').map some = (asked.map s'.query?).reverse ∧
    ∀ piece ∈ asked, (s'.content? piece).isSome ∨
      Unread source s s' piece ∧ ∃ e, (request.act.run source s).1 = .error e
  granted : ∀ reply, (request.act.run source s).1 = .ok reply →
    ∀ piece ∈ request.needs, piece.HasTable s → (s'.content? piece).isSome
  listed : request = .tables → ∀ reply, (request.act.run source s).1 = .ok reply →
    ∀ names, s'.provider.keptNames = some names → ∀ name ∈ names.entries,
      (s'.content? (.table name)).isSome
  captured : request = .snapshot → ∀ reply, (request.act.run source s).1 = .ok reply →
    ∀ names, s'.provider.keptNames = some names → ∀ name ∈ names.entries,
      ∃ number, s'.content? (.table name) = some (.number number) ∧
        (s'.content? (.finalColumns number)).isSome ∧ (s'.content? (.indexes number)).isSome
  catalogs : ∀ name, (s'.content? (.table name)).isSome →
    s'.provider.keptNames.isSome ∧ s'.provider.keptColumns.isSome
  failedLookup : ∀ name, request = .table name → ∀ e, (request.act.run source s).1 = .error e →
    s.SameTables s' ∧ s'.provider.keptColumns = s.provider.keptColumns

theorem serve_asked (hs : s.Sound) (request : Request) :
    let s' := s.serve source request
    ∃ asked : List Piece, asked.Nodup ∧ (∀ piece ∈ asked, s.content? piece = none) ∧
      (s.since s').map some = (asked.map s'.query?).reverse ∧
      ∀ piece ∈ asked, (s'.content? piece).isSome ∨
        Unread source s s' piece ∧ ∃ e, (request.act.run source s).1 = .error e := by
  intro s'
  obtain ⟨asked, hd, hg, hkept, hunread⟩ := request.act_grows source s hs
  obtain ⟨queries, hh, hmap⟩ := hg.queries
  refine ⟨asked, hd, hg.missing, ?_, fun piece hp => ?_⟩
  · have hsince : s.since s' = queries.reverse := by
      show List.take _ (request.act.run source s).2.history = _
      simp [s', serve, hh]
    rw [hsince, List.map_reverse, ← hmap]
    rfl
  · cases hc : s'.content? piece with
    | some content => exact .inl rfl
    | none =>
        cases hr : (request.act.run source s).1 with
        | ok reply => exact absurd hc (hkept reply hr piece hp)
        | error e => exact .inr ⟨hunread piece hp hc, e, rfl⟩

theorem serve_listed (hs : s.Sound) {reply : Reply}
    (hr : (Request.tables.act.run source s).1 = .ok reply) {names : Catalog String}
    (hnames : (s.serve source .tables).provider.keptNames = some names) {name : String}
    (hmem : name ∈ names.entries) : ((s.serve source .tables).content? (.table name)).isSome := by
  have hrun : Request.tables.act.run source s = (.ok reply, s.serve source .tables) :=
    Prod.ext hr rfl
  obtain ⟨numbers, s₁, htables, hrun⟩ := run_bind_eq_ok.mp hrun
  obtain ⟨entries, s₂, hentries, hnumbers⟩ := run_bind_eq_ok.mp htables
  obtain ⟨catalog, s₃, hcatalog, hentries⟩ := run_bind_eq_ok.mp hentries
  cases hentries
  obtain ⟨hs₂, -⟩ := Provider.tableCatalog_grows.of_run hs hcatalog
  obtain ⟨hs₁, hk⟩ := (Grows.mapM Provider.getTable_grows _).of_run hs₂ hnumbers
  obtain ⟨-, hk'⟩ := (grows_get.bind fun _ => grows_pure _).of_run hs₁ hrun
  have hsame := (hk'.keptNames (hk.keptNames (Provider.tableCatalog_ok hcatalog))).symm.trans hnames
  cases hsame
  exact hk'.kept (secures_mapM Provider.getTable_grows Provider.getTable_secures hmem source s₂ hs₂
    trivial numbers s₁ hnumbers)

theorem serve_captured (h : Reached source context s) (hn : s.Numbered) {reply : Reply}
    (hr : (Request.snapshot.act.run source s).1 = .ok reply) {names : Catalog String}
    (hnames : (s.serve source .snapshot).provider.keptNames = some names) {name : String}
    (hmem : name ∈ names.entries) :
    let s' := s.serve source .snapshot
    ∃ number, s'.content? (.table name) = some (.number number) ∧
      (s'.content? (.finalColumns number)).isSome ∧ (s'.content? (.indexes number)).isSome := by
  intro s'
  have hrun : Request.snapshot.act.run source s = (.ok reply, s') := Prod.ext hr rfl
  obtain ⟨snap, s₁, hsnap, hrun⟩ := run_bind_eq_ok.mp hrun
  cases hrun
  obtain ⟨asked, -, hg⟩ := serve_growth source h.sound .snapshot
  obtain ⟨names', _, hnames', -, -, hcaptured⟩ := Provider.snapshot_captures h hsnap
  cases hnames'.symm.trans hnames
  obtain ⟨snapshot, -, hname, number, hshows⟩ := exists_of_mem_left hcaptured name hmem
  obtain ⟨t, ht, hsame, -⟩ := hshows.face
  have hnumber : s'.provider.numbers.lookup (nameKey t.name) = some number :=
    hg.numbered hn number t ht
  rw [← hsame, hname] at hnumber
  exact ⟨number, by simp [content?, hnumber], Option.isSome_of_mem hshows.columns,
    Option.isSome_of_mem hshows.indexes⟩

theorem Reached.catalogs (h : Reached source context s) {name : String}
    (hc : (s.content? (.table name)).isSome) :
    s.provider.keptNames.isSome ∧ s.provider.keptColumns.isSome := by
  obtain ⟨content, hc⟩ := Option.isSome_iff_exists.mp hc
  cases h.obtained hc with
  | table _ _ ha =>
      obtain ⟨names, hnames, -⟩ := ha.name
      obtain ⟨columns, hcolumns, -⟩ := ha.entry
      exact ⟨Option.isSome_of_mem hnames, Option.isSome_of_mem hcolumns⟩

theorem serve_keepsOnce (h : Reached source context s) (hn : s.Numbered) (request : Request) :
    KeepsOnce source s request (s.serve source request) where
  obtained _ _ hmissing hc := by
    obtain ⟨asked, -, hg⟩ := serve_growth source h.sound request
    exact hg.obtained hmissing hc
  asked := serve_asked h.sound request
  granted reply hr piece hp htable :=
    Request.secures hp source s h.sound htable reply _ (Prod.ext hr rfl)
  listed := by
    rintro rfl reply hr names hnames name hmem
    exact serve_listed h.sound hr hnames hmem
  captured := by
    rintro rfl reply hr names hnames name hmem
    exact serve_captured h hn hr hnames hmem
  catalogs _ := (h.serveAll [request]).catalogs
  failedLookup := by
    rintro name rfl e hr
    rcases hrun : (Provider.getTable name).run source s with ⟨e' | number, s₁⟩
    · have hserve : s.serve source (.table name) = s₁ := by
        simp [serve, Request.act, Act.run_bind, hrun]
      rw [hserve]
      exact Provider.getTable_error hrun
    · simp [Request.act, Act.run_bind, Act.run_map, hrun, Except.map] at hr

theorem serveAll_numbered (hs : s.Sound) (hn : s.Numbered) (requests : List Request) :
    (s.serveAll source requests).Numbered := by
  obtain ⟨asked, hg⟩ := serveAll_growth source hs requests
  exact hg.numbered hn

theorem serveAll_keepsOnce (source : Source) (context : Context) (earlier : List Request)
    (request : Request) (later : List Request) :
    let s := (start context).serveAll source earlier
    let s' := s.serve source request
    let s'' := s'.serveAll source later
    KeepsOnce source s request s' ∧ s'.AsksNoMore s'' ∧ s'.Keeps s'' := by
  intro s s' s''
  have h : Reached source context s := (Reached.start source context).serveAll earlier
  have hn : s.Numbered := serveAll_numbered (sound_start context) (numbered_start context) earlier
  obtain ⟨asked, -, hg⟩ := serve_growth source h.sound request
  obtain ⟨asked', hg'⟩ := serveAll_growth source (hg.sound h.sound) later
  exact ⟨serve_keepsOnce h hn request, hg'.asksNoMore (hg.numbered hn), hg'.toKeeps⟩

end Session

end DatabaseSchema
