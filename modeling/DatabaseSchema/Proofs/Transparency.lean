import DatabaseSchema.Proofs.Tracking

namespace DatabaseSchema

open Session Act

variable {answers : Query → Answer} {failure? : List Query → Query → Option String}
  {context : Context} {s : Session}

theorem map_face_eq {numbers : List Nat} {ts : List Table}
    (h : List.Forall₂ (Provider.Numbers s) numbers ts) : numbers.map s.face? = ts.map some := by
  induction h with
  | nil => rfl
  | cons hnumber _ ih => rw [List.map_cons, List.map_cons, hnumber, ih]

theorem TableRequest.act_tracks {number : Nat} {t : Table}
    (h : Reached (.interrupted answers failure?) context s) (ht : s.face? number = some t)
    (request : TableRequest) :
    Tracks answers failure? context (request.act number) (Uncached.reply answers t request) Same
      s := by
  cases request with
  | columns => exact (Table.columnsOf_tracks h ht).map fun _ _ _ => congrArg Reply.columns
  | column name =>
      have hreply : Uncached.reply answers t (.column name) =
          (Uncached.finalColumns t >>= fun columns => pure (columns.find? (·.isNamed name))) >>=
            fun column => pure (.column column) := by
        rw [Uncached.reply]
        cases Uncached.finalColumns t <;> rfl
      rw [hreply]
      exact ((Table.columnsOf_tracks h ht).map fun _ _ _ => congrArg _).map fun _ _ _ => congrArg _
  | indexes => exact (Table.indexesOf_tracks h ht).map fun _ _ _ => congrArg Reply.indexes
  | snapshot => exact (Table.snapshotOf_tracks h ht).map fun _ _ _ => congrArg Reply.table

def Request.IsOfProvider (request : Request) : Prop :=
  ∀ number r, request ≠ .ofTable number r

theorem Request.act_tracks (answers : Query → Answer) (context : Context) {request : Request}
    (hr : request.IsOfProvider) :
    ∃ ideal : Except SchemaError Reply, ∀ failure? s,
      Reached (.interrupted answers failure?) context s →
      Tracks answers failure? context request.act ideal Same s := by
  cases request with
  | isEmpty =>
      exact ⟨(Uncached.tableCatalog answers context >>= _) >>= _, fun _ _ h =>
        ((Provider.tableCatalog_tracks h).map fun _ _ _ => congrArg _).map fun _ _ _ =>
          congrArg Reply.flag⟩
  | tableExists name =>
      exact ⟨(Uncached.tableCatalog answers context >>= _) >>= _, fun _ _ h =>
        ((Provider.tableCatalog_tracks h).map fun _ _ _ => congrArg (Catalog.contains · name)).map
          fun _ _ _ => congrArg Reply.flag⟩
  | tableNames =>
      exact ⟨_, fun _ _ h => (Provider.tableNames_tracks h).map fun _ _ _ => congrArg Reply.names⟩
  | tables =>
      refine ⟨Uncached.tables answers context >>= fun ts => pure (.tables (ts.map some)), ?_⟩
      intro _ s h
      refine (Provider.tables_tracks h).bind fun numbers ts s₁ _ hr _ hnumbers => ?_
      refine Tracks.get_bind (tracks_pure hr ?_)
      exact congrArg Reply.tables (map_face_eq hnumbers)
  | table name =>
      refine ⟨Uncached.table answers context name >>= fun t => pure (.tables [some t]), ?_⟩
      intro _ s h
      refine (Provider.getTable_tracks name h).bind fun number t s₁ _ hr _ hnumber => ?_
      refine Tracks.get_bind (tracks_pure hr ?_)
      rw [show s₁.face? number = some t from hnumber]
  | viewExists name =>
      exact ⟨(Uncached.viewCatalog answers context >>= _) >>= _, fun _ _ h =>
        ((Provider.viewCatalog_tracks h).map fun _ _ _ => congrArg (Catalog.contains · name)).map
          fun _ _ _ => congrArg Reply.flag⟩
  | view name =>
      exact ⟨_, fun _ _ h => (Provider.getView_tracks name h).map fun _ _ _ => congrArg Reply.view⟩
  | viewNames =>
      exact ⟨_, fun _ _ h => (Provider.viewNames_tracks h).map fun _ _ _ => congrArg Reply.names⟩
  | views =>
      exact ⟨(Uncached.viewCatalog answers context >>= _) >>= _, fun _ _ h =>
        ((Provider.viewCatalog_tracks h).map fun _ _ _ => congrArg fun c : Catalog String =>
          c.entries.map View.database).map fun _ _ _ => congrArg Reply.views⟩
  | snapshot =>
      exact ⟨_, fun _ _ h => (Provider.snapshot_tracks h).map fun _ _ _ => congrArg Reply.schema⟩
  | ofTable number r => exact absurd rfl (hr number r)

-- How a new provider is asked for the same: by the same request, or by the request of a table
-- under the name that the table at hand goes by.
inductive Request.Renews (s : Session) : Request → Act Reply → Prop where
  | ofProvider {request : Request} : request.IsOfProvider → Renews s request request.act
  | ofTable {number : Nat} {t : Table} {name : String} {request : TableRequest} :
      s.face? number = some t → nameKey name = nameKey t.name →
      Renews s (.ofTable number request)
        (Provider.getTable name >>= fun number => request.act number)

theorem Request.Renews.tracks {request : Request} {fresh : Act Reply}
    (hr : request.Renews s fresh) (h : Reached (.interrupted answers failure?) context s) :
    ∃ ideal, Tracks answers failure? context request.act ideal Same s ∧
      Tracks answers (fun _ _ => none) context fresh ideal Same (start context) := by
  cases hr with
  | ofProvider hp =>
      obtain ⟨ideal, hideal⟩ := Request.act_tracks answers context hp
      exact ⟨ideal, hideal _ _ h, hideal _ _ (.start _ context)⟩
  | @ofTable number t name request ht hname =>
      have htable : Uncached.table answers context name = .ok t :=
        Uncached.table_congr answers context hname.symm (h.table_eq ht)
      have hfresh : Tracks answers (fun _ _ => none) context
          (Provider.getTable name >>= fun number => request.act number)
          (Uncached.table answers context name >>= fun t => Uncached.reply answers t request)
          Same (start context) :=
        (Provider.getTable_tracks name (.start _ context)).bind
          fun number t s₁ _ hr _ hnumber => request.act_tracks hr hnumber
      rw [htable, ok_bind] at hfresh
      exact ⟨_, request.act_tracks h ht, hfresh⟩

theorem Act.Meets.eq_of_never {α : Type} {s s' : Session} {ideal r : Except SchemaError α}
    (h : Meets (fun _ _ => none) s s' (· = ·) ideal r) : r = ideal := by
  cases h with
  | ok hi hR => rw [hi, hR]
  | error hi => rw [hi]
  | interrupted hi =>
      obtain ⟨-, -, hf⟩ := hi
      simp at hf

theorem caching_transparent (answers : Query → Answer)
    (failure? : List Query → Query → Option String) (context : Context) (requests : List Request)
    {request : Request} {fresh : Act Reply}
    (h : request.Renews ((start context).serveAll (.interrupted answers failure?) requests) fresh) :
    let s := (start context).serveAll (.interrupted answers failure?) requests
    let outcome := request.act.run (.interrupted answers failure?) s
    outcome.1 = (fresh.run (.steady answers) (start context)).1 ∨
      ∃ e, outcome.1 = .error e ∧ Interrupted failure? s outcome.2 e := by
  intro s outcome
  have hreached : Reached (.interrupted answers failure?) context s :=
    (Reached.start _ context).serveAll requests
  -- both outcomes are held against what the answers alone give
  obtain ⟨ideal, ht, hfresh⟩ := h.tracks hreached
  have hideal : (fresh.run (.steady answers) (start context)).1 = ideal := by
    rw [← Source.interrupted_never]
    exact hfresh.meets.eq_of_never
  rw [hideal]
  have hm := ht.meets
  generalize (request.act.run (.interrupted answers failure?) s).1 = r at hm
  cases hm with
  | ok hi hR => exact .inl (by rw [hi, ← hR])
  | error hi => exact .inl (by rw [hi])
  | interrupted hi => exact .inr ⟨_, rfl, hi⟩

theorem caching_transparent_orders :
    let answers := (Fixture.build ordersCalls).answers
    let failure? : List Query → Query → Option String := fun asked _ =>
      if asked.isEmpty then some "down" else none
    let s := (start { policy := .conventional }).serveAll (.interrupted answers failure?)
      [.table "ORDERS", .table "ORDERS"]
    let fresh := Provider.getTable "orders" >>= fun number => TableRequest.columns.act number
    let outcome := (Request.ofTable 0 .columns).act.run (.interrupted answers failure?) s
    (Request.ofTable 0 .columns).Renews s fresh ∧
      (outcome.1 = (fresh.run (.steady answers) (start { policy := .conventional })).1 ∨
        ∃ e, outcome.1 = .error e ∧ Interrupted failure? s outcome.2 e) := by
  intro answers failure? s fresh outcome
  have hface : (s.face? 0).map (·.name) = some "Orders" := by decide +kernel
  obtain ⟨t, ht, hname⟩ := Option.map_eq_some_iff.mp hface
  have hkey : nameKey "orders" = nameKey t.name := by
    rw [hname]
    decide +kernel
  have hrenews : (Request.ofTable 0 .columns).Renews s fresh := .ofTable ht hkey
  exact ⟨hrenews, caching_transparent answers failure? _ _ hrenews⟩

end DatabaseSchema
