import DatabaseSchema.Proofs.Lookup

namespace DatabaseSchema

open Session Act

variable {source : Source} {s s' : Session} {number : Nat} {t : Table}

namespace Table

theorem columnsOf_missing (h : s.handles[number]? = none) :
    (columnsOf number).run source s = (.ok [], s) := by
  unfold columnsOf
  simp only [run_bind, run_get, h, run_pure]

theorem columnsOf_kept {columns : List Column} (h : s.handles[number]? = some t)
    (hc : t.columns = some columns) : (columnsOf number).run source s = (.ok columns, s) := by
  unfold columnsOf
  simp only [run_bind, run_get, h, hc, run_pure]

theorem columnsOf_load (source : Source) (h : s.handles[number]? = some t)
    (hc : t.columns = none) :
    let r := PrimaryKey.order t.name t.primaryKey (PrimaryKey.mark t.entry t.primaryKey)
    (columnsOf number).run source s = (r, s.keeping (keepFinalColumns number t) r) := by
  unfold columnsOf
  simp only [run_bind, run_get, h, hc]
  cases PrimaryKey.order t.name t.primaryKey (PrimaryKey.mark t.entry t.primaryKey) <;> rfl

theorem columnsOf_grows (number : Nat) : (columnsOf number).Grows := by
  intro source s hs
  cases ht : s.handles[number]? with
  | none => exact (growsAt_pure []).congr (columnsOf_missing ht)
  | some t =>
      cases hc : t.columns with
      | some columns => exact (growsAt_pure columns).congr (columnsOf_kept ht hc)
      | none =>
          have hrun := columnsOf_load source ht hc
          refine ⟨[], List.nodup_nil, ?_, by simp, by simp⟩
          rw [hrun]
          cases hr : PrimaryKey.order t.name t.primaryKey
              (PrimaryKey.mark t.entry t.primaryKey) with
          | error e => exact .refl source s
          | ok columns =>
              refine (adds_finalColumns ht hc columns).growth (.refl source s) ?_
              refine .finalColumns (t := t.face) ?_ hr
              exact (adds_finalColumns ht hc columns).keeps.face (by simp [face?, ht])

theorem columnsOf_ok {columns : List Column} (ht : s.handles[number]? = some t)
    (h : (columnsOf number).run source s = (.ok columns, s')) :
    s'.content? (.finalColumns number) = some (.finalColumns columns) := by
  cases hc : t.columns with
  | some columns' =>
      rw [columnsOf_kept ht hc] at h
      cases h
      simp [content?, ht, hc]
  | none =>
      rw [eq_of_run_keeping (columnsOf_load source ht hc) h]
      exact (adds_finalColumns ht hc columns).kept

theorem indexesOf_missing (h : s.handles[number]? = none) :
    (indexesOf number).run source s = (.ok [], s) := by
  unfold indexesOf
  simp only [run_bind, run_get, h, run_pure]

theorem indexesOf_kept {indexes : List Index} (h : s.handles[number]? = some t)
    (hi : t.indexes = some indexes) : (indexesOf number).run source s = (.ok indexes, s) := by
  unfold indexesOf
  simp only [run_bind, run_get, h, hi, run_pure]

theorem indexesOf_load (source : Source) (h : s.handles[number]? = some t)
    (hi : t.indexes = none) :
    ∃ events,
      let q := .indexes t.context.schema t.name false false
      let r := (Index.ofAnswer t.context.policy t.name (source.answer s.history q).items).result
      (indexesOf number).run source s = (r, (s.asked q events).keeping (keepIndexes number) r) := by
  obtain ⟨events, hload⟩ := t.context.run_loadIndexes t.name
    (s := { s with events := s.events ++ [.loadingIndexes t.name] })
  refine ⟨[.loadingIndexes t.name] ++ events, ?_⟩
  unfold indexesOf
  rw [run_bind_ok run_get]
  simp only [h, hi]
  rw [run_bind_ok (run_report _)]
  refine (run_keeping hload (keepIndexes number)).trans ?_
  simp only [Session.asked, List.append_assoc]

theorem indexesOf_grows (number : Nat) : (indexesOf number).Grows := by
  intro source s hs
  cases ht : s.handles[number]? with
  | none => exact (growsAt_pure []).congr (indexesOf_missing ht)
  | some t =>
      cases hi : t.indexes with
      | some indexes => exact (growsAt_pure indexes).congr (indexesOf_kept ht hi)
      | none =>
          obtain ⟨events, hrun⟩ := indexesOf_load source ht hi
          have hface : s.face? number = some t.face := by simp [face?, ht]
          have hn : s.content? (.indexes number) = none := by simp [content?, ht, hi]
          have hq : s.query? (.indexes number) =
              some (.indexes t.context.schema t.name false false) := by
            simp [query?, hface, Table.face]
          refine ⟨[_], by simp, growsBy_load hrun hn hq (fun indexes hr => ?_) fun hfail => ?_⟩
          · have hadd := adds_indexes (s := s.asked (.indexes t.context.schema t.name false false)
              events) ht hi indexes
            refine ⟨_, hadd, .indexes (t := t.face) (hadd.keeps.face hface) ?_⟩
            exact ⟨s.history, List.suffix_rfl, List.suffix_rfl, hr⟩
          · exact .indexes (t := t.face) hface
              ⟨s.history, List.suffix_rfl, List.suffix_rfl, hfail⟩

theorem indexesOf_ok {indexes : List Index} (ht : s.handles[number]? = some t)
    (h : (indexesOf number).run source s = (.ok indexes, s')) :
    s'.content? (.indexes number) = some (.indexes indexes) := by
  cases hi : t.indexes with
  | some indexes' =>
      rw [indexesOf_kept ht hi] at h
      cases h
      simp [content?, ht, hi]
  | none =>
      obtain ⟨events, hrun⟩ := indexesOf_load source ht hi
      rw [eq_of_run_keeping hrun h]
      exact (adds_indexes (s := s.asked _ events) ht hi indexes).kept

theorem columnOf?_grows (number : Nat) (name : String) : (columnOf? number name).Grows :=
  (columnsOf_grows number).bind fun _ => grows_pure _

theorem snapshotOf_grows (number : Nat) : (snapshotOf number).Grows :=
  (columnsOf_grows number).bind fun _ => (indexesOf_grows number).bind fun _ =>
    grows_get.bind fun _ => grows_pure _

end Table

namespace Provider

theorem tables_grows : tables.Grows :=
  (tableCatalog_grows.bind fun _ => grows_pure _).bind fun names => Grows.mapM getTable_grows names

theorem getView_grows (name : String) : (getView name).Grows := by
  refine viewCatalog_grows.bind fun c => ?_
  split
  · exact grows_pure _
  · exact grows_throw _

theorem snapshot_grows : snapshot.Grows :=
  tables_grows.bind fun numbers => (Grows.mapM Table.snapshotOf_grows numbers).bind fun _ =>
    (viewCatalog_grows.bind fun _ => grows_pure _).bind fun _ =>
      (grows_report _).bind fun _ => grows_pure _

end Provider

open Provider

theorem TableRequest.act_grows (number : Nat) (request : TableRequest) :
    (request.act number).Grows := by
  cases request with
  | columns => exact (Table.columnsOf_grows number).bind fun _ => grows_pure _
  | column name => exact (Table.columnOf?_grows number name).bind fun _ => grows_pure _
  | indexes => exact (Table.indexesOf_grows number).bind fun _ => grows_pure _
  | snapshot => exact (Table.snapshotOf_grows number).bind fun _ => grows_pure _

theorem Request.act_grows (request : Request) : request.act.Grows := by
  cases request with
  | isEmpty | tableExists | tableNames =>
      exact (tableCatalog_grows.bind fun _ => grows_pure _).bind fun _ => grows_pure _
  | viewExists | viewNames | views =>
      exact (viewCatalog_grows.bind fun _ => grows_pure _).bind fun _ => grows_pure _
  | tables => exact tables_grows.bind fun _ => grows_get.bind fun _ => grows_pure _
  | table name => exact (getTable_grows name).bind fun _ => grows_get.bind fun _ => grows_pure _
  | view name => exact (getView_grows name).bind fun _ => grows_pure _
  | snapshot => exact snapshot_grows.bind fun _ => grows_pure _
  | ofTable number request => exact request.act_grows number

namespace Session

theorem serve_growth (source : Source) (hs : s.Sound) (request : Request) :
    ∃ asked, asked.Nodup ∧ Growth source s asked (s.serve source request) := by
  obtain ⟨asked, hd, hb⟩ := request.act_grows source s hs
  exact ⟨asked, hd, hb.growth⟩

theorem serveAll_growth (source : Source) (hs : s.Sound) (requests : List Request) :
    ∃ asked, Growth source s asked (s.serveAll source requests) := by
  induction requests generalizing s with
  | nil => exact ⟨[], .refl source s⟩
  | cons request requests ih =>
      obtain ⟨asked, -, hg⟩ := serve_growth source hs request
      obtain ⟨asked', hg'⟩ := ih (hg.sound hs)
      exact ⟨asked ++ asked', hg.trans hg'⟩

variable {context : Context}

def Reached (source : Source) (context : Context) (s : Session) : Prop :=
  ∃ asked, Growth source (start context) asked s

namespace Reached

theorem start (source : Source) (context : Context) : Reached source context (start context) :=
  ⟨[], .refl source _⟩

theorem step {asked : List Piece} (h : Reached source context s)
    (hg : Growth source s asked s') : Reached source context s' := by
  obtain ⟨asked', hg'⟩ := h
  exact ⟨asked' ++ asked, hg'.trans hg⟩

theorem sound (h : Reached source context s) : s.Sound := by
  obtain ⟨asked, hg⟩ := h
  exact hg.sound (sound_start context)

theorem serveAll (h : Reached source context s) (requests : List Request) :
    Reached source context (s.serveAll source requests) := by
  obtain ⟨asked, hg⟩ := serveAll_growth source h.sound requests
  exact h.step hg

theorem of_run {act : Act α} {r : Except SchemaError α} (h : Reached source context s)
    (hg : act.Grows) (hrun : act.run source s = (r, s')) :
    Reached source context s' ∧ s.Keeps s' := by
  obtain ⟨asked, -, hgrowth, -⟩ := (hg source s h.sound).of_run hrun
  exact ⟨h.step hgrowth, hgrowth.toKeeps⟩

theorem context_eq (h : Reached source context s) : s.provider.context = context := by
  obtain ⟨asked, hg⟩ := h
  exact hg.context

theorem obtained {piece : Piece} {content : Content} (h : Reached source context s)
    (hc : s.content? piece = some content) :
    Obtained source (Session.start context) s piece content := by
  obtain ⟨asked, hg⟩ := h
  refine hg.obtained ?_ hc
  cases piece <;> simp [content?, face?, Session.start]

theorem assembled (h : Reached source context s) (ht : s.face? number = some t) :
    Assembled source (Session.start context) s t := by
  cases h.obtained (show s.content? (.face number) = some (.face t) by simp [content?, ht]) with
  | face _ ha => exact ha

theorem face_context (h : Reached source context s) (ht : s.face? number = some t) :
    t.context = context :=
  (h.assembled ht).context.trans h.context_eq

end Reached

end Session

end DatabaseSchema
