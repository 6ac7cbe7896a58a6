import DatabaseSchema.Proofs.Uncached

namespace DatabaseSchema

open Session Act

variable {α β : Type} {source source' : Source} {answers answers' : Query → Answer}
  {context : Context} {s s' : Session}

variable (source source') in
def ReadsSame (history : List Query) (q : Query) (f : Items → Logged α) : Prop :=
  (f (source'.answer history q).items).result = (f (source.answer history q).items).result

-- Sources over which every piece that a session still lacks is read alike, whatever session of
-- the first source it is.
structure LoadAlike (source source' : Source) (context : Context) : Prop where
  tables : ∀ s, Reached source context s →
    ReadsSame source source' s.history (.tables context.schema context.policy.tableKinds)
      (Catalog.tableNames context.policy)
  columns : ∀ s names, Reached source context s → s.provider.keptNames = some names →
    ReadsSame source source' s.history (.columns context.schema)
      (ColumnCatalog.ofAnswer context.policy names)
  views : ∀ s, Reached source context s →
    ReadsSame source source' s.history (.tables context.schema context.policy.viewKinds)
      (Catalog.viewNames context.policy)
  primaryKey : ∀ s names table, Reached source context s → s.provider.keptNames = some names →
    table ∈ names.entries →
    ReadsSame source source' s.history (.primaryKeys context.schema table)
      (PrimaryKey.ofAnswer table)
  indexes : ∀ s names table, Reached source context s → s.provider.keptNames = some names →
    table ∈ names.entries →
    ReadsSame source source' s.history (.indexes context.schema table false false)
      (Index.ofAnswer context.policy table)

structure ReadAlike (answers answers' : Query → Answer) (context : Context) : Prop where
  tables : Uncached.tableCatalog answers' context = Uncached.tableCatalog answers context
  columns : Uncached.columnCatalog answers' context = Uncached.columnCatalog answers context
  views : Uncached.viewCatalog answers' context = Uncached.viewCatalog answers context
  primaryKey : ∀ names, Uncached.tableCatalog answers context = .ok names →
    ∀ table ∈ names.entries,
      (PrimaryKey.ofAnswer table (answers' (.primaryKeys context.schema table)).items).result =
        (PrimaryKey.ofAnswer table (answers (.primaryKeys context.schema table)).items).result
  indexes : ∀ names, Uncached.tableCatalog answers context = .ok names →
    ∀ table ∈ names.entries,
      (Index.ofAnswer context.policy table
          (answers' (.indexes context.schema table false false)).items).result =
        (Index.ofAnswer context.policy table
          (answers (.indexes context.schema table false false)).items).result

namespace Session

def Alike (s s' : Session) : Prop :=
  ∃ events, s' = { s with events }

namespace Alike

theorem refl (s : Session) : s.Alike s := ⟨s.events, rfl⟩

theorem asked (h : s.Alike s') (q : Query) (events events' : List Event) :
    (s.asked q events).Alike (s'.asked q events') := by
  obtain ⟨_, rfl⟩ := h
  exact ⟨_, rfl⟩

end Alike

end Session

namespace Act

variable (source source') in
structure AgreesAt (act : Act α) (s s' : Session) : Prop where
  outcome : (act.run source' s').1 = (act.run source s).1
  alike : (act.run source s).2.Alike (act.run source' s').2

variable (source source' context) in
structure Agrees (act : Act α) : Prop where
  grows : act.Grows
  agreesAt : ∀ s s', Reached source context s → s.Alike s' → act.AgreesAt source source' s s'

theorem agreesAt_of_run {act : Act α} {r r' : Except SchemaError α} {s₁ s₁' : Session}
    (hrun : act.run source s = (r, s₁)) (hrun' : act.run source' s' = (r', s₁')) (hr : r' = r)
    (h : s₁.Alike s₁') : act.AgreesAt source source' s s' := by
  refine ⟨?_, ?_⟩ <;> rw [hrun, hrun']
  · exact hr
  · exact h

theorem AgreesAt.congr {act act' : Act α} {s₁ s₁' : Session}
    (hrun : act.run source s = act'.run source s₁)
    (hrun' : act.run source' s' = act'.run source' s₁')
    (h : act'.AgreesAt source source' s₁ s₁') : act.AgreesAt source source' s s' := by
  obtain ⟨ho, ha⟩ := h
  rw [← hrun, ← hrun'] at ho ha
  exact ⟨ho, ha⟩

theorem AgreesAt.bind {x : Act α} {f : α → Act β} (hx : x.AgreesAt source source' s s')
    (hf : ∀ a s₁ s₁', x.run source s = (.ok a, s₁) → s₁.Alike s₁' →
      (f a).AgreesAt source source' s₁ s₁') : (x >>= f).AgreesAt source source' s s' := by
  obtain ⟨ho, ha⟩ := hx
  rcases hrun : x.run source s with ⟨r, s₁⟩
  rcases hrun' : x.run source' s' with ⟨r', s₁'⟩
  rw [hrun, hrun'] at ho ha
  cases ho
  cases r with
  | error e => exact agreesAt_of_run (run_bind_error hrun f) (run_bind_error hrun' f) rfl ha
  | ok a => exact (hf a s₁ s₁' hrun ha).congr (run_bind_ok hrun f) (run_bind_ok hrun' f)

theorem agreesAt_pure (a : α) (h : s.Alike s') : (pure a : Act α).AgreesAt source source' s s' :=
  ⟨rfl, h⟩

theorem agrees_pure (a : α) : (pure a : Act α).Agrees source source' context :=
  ⟨grows_pure a, fun _ _ _ h => agreesAt_pure a h⟩

theorem agreesAt_throw (e : SchemaError) (h : s.Alike s') :
    (throw e : Act α).AgreesAt source source' s s' :=
  ⟨rfl, h⟩

theorem agrees_throw (e : SchemaError) : (throw e : Act α).Agrees source source' context :=
  ⟨grows_throw e, fun _ _ _ h => agreesAt_throw e h⟩

theorem agreesAt_modify {f : Session → Session}
    (hf : ∀ s events, ∃ events', f { s with events } = { f s with events := events' })
    (h : s.Alike s') : (modify f : Act Unit).AgreesAt source source' s s' := by
  obtain ⟨events, rfl⟩ := h
  exact ⟨rfl, hf s events⟩

theorem agreesAt_report (events : List Event) (h : s.Alike s') :
    (report events).AgreesAt source source' s s' :=
  agreesAt_modify (fun _ _ => ⟨_, rfl⟩) h

theorem agreesAt_modifySelf (f : Provider → Provider) (h : s.Alike s') :
    (Provider.modifySelf f).AgreesAt source source' s s' :=
  agreesAt_modify (fun _ _ => ⟨_, rfl⟩) h

theorem AgreesAt.get_bind {f : Session → Act α} (hevents : ∀ s events, f { s with events } = f s)
    (hf : (f s).AgreesAt source source' s s') (h : s.Alike s') :
    (get >>= f).AgreesAt source source' s s' := by
  obtain ⟨events, rfl⟩ := h
  refine hf.congr (run_bind_ok run_get f) ?_
  rw [run_bind_ok run_get f, hevents]

theorem Agrees.bind {x : Act α} {f : α → Act β} (hx : x.Agrees source source' context)
    (hf : ∀ a, (f a).Agrees source source' context) :
    (x >>= f).Agrees source source' context := by
  refine ⟨hx.grows.bind fun a => (hf a).grows, fun s s' hr h => ?_⟩
  refine (hx.agreesAt s s' hr h).bind fun a s₁ s₁' hrun h₁ => ?_
  exact (hf a).agreesAt s₁ s₁' (hr.of_run hx.grows hrun).1 h₁

theorem Agrees.mapM {f : α → Act β} (hf : ∀ a, (f a).Agrees source source' context)
    (items : List α) : (items.mapM f).Agrees source source' context := by
  induction items with
  | nil =>
      rw [List.mapM_nil]
      exact agrees_pure []
  | cons a items ih =>
      rw [List.mapM_cons]
      exact (hf a).bind fun b => ih.bind fun bs => agrees_pure (b :: bs)

end Act

theorem agreesAt_load (q : Query) (f : Items → Logged α)
    (hf : ReadsSame source source' s.history q f) (h : s.Alike s') :
    (ask q >>= fun items => perform (f items)).AgreesAt source source' s s' := by
  refine agreesAt_of_run (run_load q f) (run_load q f) ?_ (h.asked q _ _)
  obtain ⟨_, rfl⟩ := h
  exact hf

namespace Provider

variable (h : LoadAlike source source' context)

include h

theorem tableCatalog_agrees : tableCatalog.Agrees source source' context := by
  refine ⟨tableCatalog_grows, fun s s' hr hs => ?_⟩
  obtain rfl := hr.context_eq
  refine AgreesAt.get_bind (fun _ _ => rfl) ?_ hs
  dsimp only
  split
  next c _ => exact agreesAt_pure c hs
  next =>
    refine (agreesAt_load _ (Catalog.tableNames _) (h.tables s hr) hs).bind fun c _ _ _ hs => ?_
    exact (agreesAt_modifySelf _ hs).bind fun _ _ _ _ hs => agreesAt_pure c hs

theorem columnCatalog_agrees : columnCatalog.Agrees source source' context := by
  refine ⟨columnCatalog_grows, fun s s' hr hs => ?_⟩
  obtain rfl := hr.context_eq
  refine AgreesAt.get_bind (fun _ _ => rfl) ?_ hs
  dsimp only
  split
  next c _ => exact agreesAt_pure c hs
  next =>
    have ha := (tableCatalog_agrees h).agreesAt s s' hr hs
    refine ha.bind fun names s₁ _ hrun hs => ?_
    have hread := h.columns s₁ names (hr.of_run tableCatalog_grows hrun).1 (tableCatalog_ok hrun)
    refine (agreesAt_load _ (ColumnCatalog.ofAnswer _ names) hread hs).bind fun c _ _ _ hs => ?_
    exact (agreesAt_modifySelf _ hs).bind fun _ _ _ _ hs => agreesAt_pure c hs

theorem viewCatalog_agrees : viewCatalog.Agrees source source' context := by
  refine ⟨viewCatalog_grows, fun s s' hr hs => ?_⟩
  obtain rfl := hr.context_eq
  refine AgreesAt.get_bind (fun _ _ => rfl) ?_ hs
  dsimp only
  split
  next c _ => exact agreesAt_pure c hs
  next =>
    refine (agreesAt_load _ (Catalog.viewNames _) (h.views s hr) hs).bind fun c _ _ _ hs => ?_
    exact (agreesAt_modifySelf _ hs).bind fun _ _ _ _ hs => agreesAt_pure c hs

theorem loadTable_agreesAt {name : String} (hr : Reached source context s)
    (hnumber : s.provider.numbers.lookup (nameKey name) = none) (hs : s.Alike s') :
    (loadTable name).AgreesAt source source' s s' := by
  obtain rfl := hr.context_eq
  refine AgreesAt.get_bind (fun _ _ => rfl) ?_ hs
  have hnames := (tableCatalog_agrees h).agreesAt s s' hr hs
  refine hnames.bind fun names s₁ _ hrun hs => ?_
  have hr₁ := (hr.of_run tableCatalog_grows hrun).1
  have hkept := tableCatalog_ok hrun
  dsimp only
  split
  next => exact agreesAt_throw _ hs
  next table hget =>
    have hmem := ((hr₁.sound names hkept).get?_eq_some_iff.mp hget).1
    refine (agreesAt_load _ _ (h.primaryKey s₁ names table hr₁ hkept hmem) hs).bind
      fun key s₂ _ hload hs => ?_
    have hr₂ : Reached source s.provider.context s₂ := by
      rw [run_load] at hload
      obtain ⟨-, rfl⟩ := Prod.mk.inj hload
      obtain ⟨-, -, asked, -, hg, -⟩ := TableLoad.growth_asked _ hr.sound hnumber hrun hget
      exact hr.step hg
    have hcolumns := (columnCatalog_agrees h).agreesAt s₂ _ hr₂ hs
    refine hcolumns.bind fun columns _ _ _ hs => ?_
    exact (agreesAt_report _ hs).bind fun _ _ _ _ hs => agreesAt_pure _ hs

theorem getTable_agrees (name : String) : (getTable name).Agrees source source' context := by
  refine ⟨getTable_grows name, fun s s' hr hs => ?_⟩
  refine AgreesAt.get_bind (fun _ _ => rfl) ?_ hs
  dsimp only
  split
  next number _ => exact agreesAt_pure number hs
  next hnumber =>
    refine (loadTable_agreesAt h hr hnumber hs).bind fun t s₁ _ _ hs => ?_
    refine AgreesAt.get_bind (fun _ _ => rfl) ?_ hs
    refine (agreesAt_modify (fun _ _ => ⟨_, rfl⟩) hs).bind fun _ _ _ _ hs => ?_
    exact (agreesAt_modifySelf _ hs).bind fun _ _ _ _ hs => agreesAt_pure _ hs

theorem tables_agrees : Provider.tables.Agrees source source' context :=
  ((tableCatalog_agrees h).bind fun _ => agrees_pure _).bind fun names =>
    Agrees.mapM (getTable_agrees h) names

theorem getView_agrees (name : String) : (getView name).Agrees source source' context := by
  refine (viewCatalog_agrees h).bind fun c => ?_
  split
  · exact agrees_pure _
  · exact agrees_throw _

end Provider

namespace Table

theorem columnsOf_agrees (number : Nat) : (columnsOf number).Agrees source source' context := by
  refine ⟨columnsOf_grows number, fun s s' hr hs => ?_⟩
  refine AgreesAt.get_bind (fun _ _ => rfl) ?_ hs
  split
  next => exact agreesAt_pure _ hs
  next t _ =>
    split
    next columns _ => exact agreesAt_pure columns hs
    next =>
      split
      next e _ => exact agreesAt_throw e hs
      next columns _ =>
        refine (agreesAt_modify (fun _ _ => ⟨_, rfl⟩) hs).bind fun _ _ _ _ hs => ?_
        exact agreesAt_pure columns hs

variable (h : LoadAlike source source' context)

include h

theorem indexesOf_agrees (number : Nat) : (indexesOf number).Agrees source source' context := by
  refine ⟨indexesOf_grows number, fun s s' hr hs => ?_⟩
  refine AgreesAt.get_bind (fun _ _ => rfl) ?_ hs
  split
  next => exact agreesAt_pure _ hs
  next t ht =>
    split
    next indexes _ => exact agreesAt_pure indexes hs
    next =>
      have hface : s.face? number = some t.face := by simp [face?, ht]
      obtain ⟨names, hkept, hmem⟩ := (hr.assembled hface).name
      have hread := h.indexes s names t.name hr hkept hmem
      have hcontext := hr.face_context hface
      rw [← show t.context = context from hcontext] at hread
      refine (agreesAt_report _ hs).bind fun _ s₁ _ hrun hs => ?_
      have hhistory : s₁.history = s.history := by
        rw [run_report] at hrun
        obtain ⟨-, rfl⟩ := Prod.mk.inj hrun
        rfl
      rw [← hhistory] at hread
      refine (agreesAt_load _ _ hread hs).bind fun indexes _ _ _ hs => ?_
      refine (agreesAt_modify (fun _ _ => ⟨_, rfl⟩) hs).bind fun _ _ _ _ hs => ?_
      exact agreesAt_pure indexes hs

theorem snapshotOf_agrees (number : Nat) : (snapshotOf number).Agrees source source' context := by
  refine (columnsOf_agrees number).bind fun columns => ?_
  refine (indexesOf_agrees h number).bind fun indexes => ?_
  refine ⟨grows_get.bind fun _ => grows_pure _, fun s s' _ hs => ?_⟩
  exact AgreesAt.get_bind (fun _ _ => rfl) (agreesAt_pure _ hs) hs

end Table

namespace LoadAlike

variable (h : LoadAlike source source' context)

include h

theorem snapshot_agrees : Provider.snapshot.Agrees source source' context := by
  refine (Provider.tables_agrees h).bind fun numbers => ?_
  refine (Agrees.mapM (Table.snapshotOf_agrees h) numbers).bind fun tables => ?_
  refine ((Provider.viewCatalog_agrees h).bind fun _ => agrees_pure _).bind fun views => ?_
  refine ⟨(grows_report _).bind fun _ => grows_pure _, fun s s' _ hs => ?_⟩
  exact (agreesAt_report _ hs).bind fun _ _ _ _ hs => agreesAt_pure _ hs

theorem tableRequest_agrees (number : Nat) (request : TableRequest) :
    (request.act number).Agrees source source' context := by
  cases request with
  | columns => exact (Table.columnsOf_agrees number).bind fun _ => agrees_pure _
  | column name =>
      exact ((Table.columnsOf_agrees number).bind fun _ => agrees_pure _).bind
        fun _ => agrees_pure _
  | indexes => exact (Table.indexesOf_agrees h number).bind fun _ => agrees_pure _
  | snapshot => exact (Table.snapshotOf_agrees h number).bind fun _ => agrees_pure _

theorem request_agrees (request : Request) : request.act.Agrees source source' context := by
  cases request with
  | isEmpty | tableExists | tableNames =>
      exact ((Provider.tableCatalog_agrees h).bind fun _ => agrees_pure _).bind
        fun _ => agrees_pure _
  | viewExists | viewNames | views =>
      exact ((Provider.viewCatalog_agrees h).bind fun _ => agrees_pure _).bind
        fun _ => agrees_pure _
  | tables =>
      refine (Provider.tables_agrees h).bind fun numbers => ?_
      refine ⟨grows_get.bind fun _ => grows_pure _, fun s s' _ hs => ?_⟩
      exact AgreesAt.get_bind (fun _ _ => rfl) (agreesAt_pure _ hs) hs
  | table name =>
      refine (Provider.getTable_agrees h name).bind fun number => ?_
      refine ⟨grows_get.bind fun _ => grows_pure _, fun s s' _ hs => ?_⟩
      exact AgreesAt.get_bind (fun _ _ => rfl) (agreesAt_pure _ hs) hs
  | view name => exact (Provider.getView_agrees h name).bind fun _ => agrees_pure _
  | snapshot => exact h.snapshot_agrees.bind fun _ => agrees_pure _
  | ofTable number request => exact h.tableRequest_agrees number request

theorem replies_agree (requests : List Request) (hr : Reached source context s)
    (hs : s.Alike s') :
    s'.replies source' requests = s.replies source requests ∧
      (s.serveAll source requests).Alike (s'.serveAll source' requests) := by
  induction requests generalizing s s' with
  | nil => exact ⟨rfl, hs⟩
  | cons request requests ih =>
      obtain ⟨ho, ha⟩ := (h.request_agrees request).agreesAt s s' hr hs
      obtain ⟨hreplies, hserved⟩ := ih (hr.serveAll [request]) ha
      exact ⟨List.cons_eq_cons.mpr ⟨ho, hreplies⟩, hserved⟩

end LoadAlike

theorem readsSame_interrupted (failure? : List Query → Query → Option String)
    (history : List Query) {q : Query} {f : Items → Logged α}
    (hf : (f (answers' q).items).result = (f (answers q).items).result) :
    ReadsSame (.interrupted answers failure?) (.interrupted answers' failure?) history q f := by
  unfold ReadsSame
  cases hfail : failure? history q with
  | some message => simp only [Source.interrupted, hfail]
  | none => simpa only [Source.interrupted, hfail] using hf

theorem ReadAlike.loadAlike (h : ReadAlike answers answers' context)
    (failure? : List Query → Query → Option String) :
    LoadAlike (.interrupted answers failure?) (.interrupted answers' failure?) context where
  tables s _ := readsSame_interrupted failure? s.history h.tables
  columns s names hr hkept := by
    have hread := h.columns
    unfold Uncached.columnCatalog at hread
    rw [h.tables, hr.tableCatalog_eq hkept, ok_bind, ok_bind] at hread
    exact readsSame_interrupted failure? s.history hread
  views s _ := readsSame_interrupted failure? s.history h.views
  primaryKey s names table hr hkept hmem :=
    readsSame_interrupted failure? s.history
      (h.primaryKey names (hr.tableCatalog_eq hkept) table hmem)
  indexes s names table hr hkept hmem :=
    readsSame_interrupted failure? s.history
      (h.indexes names (hr.tableCatalog_eq hkept) table hmem)

theorem Session.replies_agree (h : ReadAlike answers answers' context)
    (failure? : List Query → Query → Option String) (requests : List Request)
    (hr : Reached (.interrupted answers failure?) context s) (hs : s.Alike s') :
    s'.replies (.interrupted answers' failure?) requests =
        s.replies (.interrupted answers failure?) requests ∧
      (s.serveAll (.interrupted answers failure?) requests).Alike
        (s'.serveAll (.interrupted answers' failure?) requests) :=
  (h.loadAlike failure?).replies_agree requests hr hs

end DatabaseSchema
