import DatabaseSchema.Proofs.Handles
import DatabaseSchema.Request

namespace DatabaseSchema

open Session Act

variable {α β γ δ : Type} {answers : Query → Answer} {old : List Table} {s s' : Session}

def Provider.shift (count : Nat) (p : Provider) : Provider :=
  { p with numbers := p.numbers.map fun entry => (entry.1, count + entry.2) }

theorem Provider.lookup_shift (count : Nat) (p : Provider) (key : String) :
    (p.shift count).numbers.lookup key = (p.numbers.lookup key).map (count + ·) := by
  unfold shift
  dsimp only
  induction p.numbers with
  | nil => rfl
  | cons entry entries ih =>
      rw [List.map_cons, List.lookup_cons, List.lookup_cons, ih]
      cases key == entry.1 <;> rfl

-- The first session goes on from old tables as the second one does from none.
structure Session.Follows (old : List Table) (s s' : Session) : Prop where
  provider : s.provider = s'.provider.shift old.length
  handles : s.handles = old ++ s'.handles

namespace Session.Follows

theorem asked (h : Follows old s s') (q : Query) (events events' : List Event) :
    Follows old (s.asked q events) (s'.asked q events') :=
  ⟨h.provider, h.handles⟩

theorem handle? (h : Follows old s s') (number : Nat) :
    s.handles[old.length + number]? = s'.handles[number]? := by
  rw [h.handles, List.getElem?_append_right (Nat.le_add_right _ _), Nat.add_sub_cancel_left]

theorem face? (h : Follows old s s') (number : Nat) :
    s.face? (old.length + number) = s'.face? number := by
  rw [Session.face?, h.handle?, Session.face?]

theorem set (h : Follows old s s') (number : Nat) (t : Table) :
    Follows old { s with handles := s.handles.set (old.length + number) t }
      { s' with handles := s'.handles.set number t } := by
  refine ⟨h.provider, ?_⟩
  show s.handles.set _ t = old ++ s'.handles.set number t
  rw [h.handles, List.set_append_right _ _ (Nat.le_add_right _ _), Nat.add_sub_cancel_left]

theorem modify (h : Follows old s s') (number : Nat) (f : Table → Table) :
    Follows old { s with handles := s.handles.modify (old.length + number) f }
      { s' with handles := s'.handles.modify number f } := by
  cases ht : s'.handles[number]? with
  | none =>
      have hn : s.handles[old.length + number]? = none := by rw [h.handle?, ht]
      rw [List.modify_eq_set_getElem?, List.modify_eq_set_getElem?, hn, ht]
      exact h
  | some t =>
      have hs : s.handles[old.length + number]? = some t := by rw [h.handle?, ht]
      rw [List.modify_eq_set_getElem?, List.modify_eq_set_getElem?, hs, ht]
      exact h.set number (f t)

end Session.Follows

namespace Act

variable (answers old) in
structure FollowsAt (act : Act β) (act' : Act α) (g : α → β) (s s' : Session) : Prop where
  outcome : (act.run (.steady answers) s).1 = (act'.run (.steady answers) s').1.map g
  follows : Follows old (act.run (.steady answers) s).2 (act'.run (.steady answers) s').2

variable {g : α → β} {k : γ → δ}

theorem followsAt_of_run {act : Act β} {act' : Act α} {r : Except SchemaError β}
    {r' : Except SchemaError α} {s₁ s₁' : Session} (hrun : act.run (.steady answers) s = (r, s₁))
    (hrun' : act'.run (.steady answers) s' = (r', s₁')) (hr : r = r'.map g)
    (h : Follows old s₁ s₁') : act.FollowsAt answers old act' g s s' := by
  refine ⟨?_, ?_⟩ <;> rw [hrun, hrun']
  · exact hr
  · exact h

theorem FollowsAt.congr {act act₁ : Act β} {act' act₁' : Act α} {s₁ s₁' : Session}
    (hrun : act.run (.steady answers) s = act₁.run (.steady answers) s₁)
    (hrun' : act'.run (.steady answers) s' = act₁'.run (.steady answers) s₁')
    (h : act₁.FollowsAt answers old act₁' g s₁ s₁') : act.FollowsAt answers old act' g s s' := by
  obtain ⟨ho, hf⟩ := h
  rw [← hrun, ← hrun'] at ho hf
  exact ⟨ho, hf⟩

theorem FollowsAt.bind {x : Act β} {x' : Act α} {f : β → Act δ} {f' : α → Act γ}
    (hx : x.FollowsAt answers old x' g s s')
    (hf : ∀ a s₁ s₁', Follows old s₁ s₁' → (f (g a)).FollowsAt answers old (f' a) k s₁ s₁') :
    (x >>= f).FollowsAt answers old (x' >>= f') k s s' := by
  obtain ⟨ho, hfollows⟩ := hx
  rcases hrun : x.run (.steady answers) s with ⟨r, s₁⟩
  rcases hrun' : x'.run (.steady answers) s' with ⟨r', s₁'⟩
  rw [hrun, hrun'] at ho hfollows
  cases r' with
  | error e =>
      rw [show r = .error e from ho] at hrun
      exact followsAt_of_run (run_bind_error hrun f) (run_bind_error hrun' f') rfl hfollows
  | ok a =>
      rw [show r = .ok (g a) from ho] at hrun
      exact (hf a s₁ s₁' hfollows).congr (run_bind_ok hrun f) (run_bind_ok hrun' f')

theorem followsAt_pure (g : α → β) (a : α) (h : Follows old s s') :
    (pure (g a) : Act β).FollowsAt answers old (pure a) g s s' :=
  ⟨rfl, h⟩

theorem followsAt_throw (g : α → β) (e : SchemaError) (h : Follows old s s') :
    (throw e : Act β).FollowsAt answers old (throw e) g s s' :=
  ⟨rfl, h⟩

theorem followsAt_modify {f f' : Session → Session} (h : Follows old (f s) (f' s')) :
    (modify f : Act Unit).FollowsAt answers old (modify f') id s s' :=
  ⟨rfl, h⟩

theorem followsAt_modifySelf {f f' : Provider → Provider}
    (hf : ∀ p : Provider, f (p.shift old.length) = (f' p).shift old.length)
    (h : Follows old s s') :
    (Provider.modifySelf f).FollowsAt answers old (Provider.modifySelf f') id s s' := by
  refine followsAt_modify ⟨?_, h.handles⟩
  show f s.provider = _
  rw [h.provider, hf]

theorem followsAt_report (events : List Event) (h : Follows old s s') :
    (report events).FollowsAt answers old (report events) id s s' :=
  followsAt_modify ⟨h.provider, h.handles⟩

theorem followsAt_load (q : Query) (f : Items → Logged α) (h : Follows old s s') :
    (ask q >>= fun items => perform (f items)).FollowsAt answers old
      (ask q >>= fun items => perform (f items)) id s s' := by
  refine followsAt_of_run (run_load q f) (run_load q f) ?_ (h.asked q _ _)
  exact (Except.map_id ▸ rfl)

theorem FollowsAt.keep {x x' : Act α} (f : α → Provider → Provider)
    (hf : ∀ a p, f a (p.shift old.length) = (f a p).shift old.length)
    (hx : x.FollowsAt answers old x' id s s') :
    (x >>= fun a => Provider.modifySelf (f a) >>= fun _ => pure a).FollowsAt answers old
      (x' >>= fun a => Provider.modifySelf (f a) >>= fun _ => pure a) id s s' :=
  hx.bind fun a _ _ h => (followsAt_modifySelf (hf a) h).bind fun _ _ _ h => followsAt_pure id a h

theorem FollowsAt.get_bind {f : Session → Act β} {f' : Session → Act α}
    (hf : (f s).FollowsAt answers old (f' s') g s s') :
    (get >>= f).FollowsAt answers old (get >>= f') g s s' :=
  hf.congr (run_bind_ok run_get f) (run_bind_ok run_get f')

theorem FollowsAt.map {x x' : Act α} {f : α → β} (hx : x.FollowsAt answers old x' id s s') :
    (x >>= fun a => pure (f a)).FollowsAt answers old (x' >>= fun a => pure (f a)) id s s' :=
  hx.bind fun a _ _ h => followsAt_pure id (f a) h

theorem followsAt_mapM {f : β → Act δ} {f' : α → Act γ}
    (hf : ∀ a s s', Follows old s s' → (f (g a)).FollowsAt answers old (f' a) k s s')
    (items : List α) (h : Follows old s s') :
    ((items.map g).mapM f).FollowsAt answers old (items.mapM f') (List.map k) s s' := by
  induction items generalizing s s' with
  | nil =>
      rw [List.map_nil, List.mapM_nil, List.mapM_nil]
      exact followsAt_pure (List.map k) [] h
  | cons a items ih =>
      rw [List.map_cons, List.mapM_cons, List.mapM_cons]
      refine (hf a s s' h).bind fun b _ _ h => ?_
      exact (ih h).bind fun bs _ _ h => followsAt_pure (List.map k) (b :: bs) h

end Act

namespace Provider

theorem tableCatalog_follows (h : Follows old s s') :
    tableCatalog.FollowsAt answers old tableCatalog id s s' := by
  refine FollowsAt.get_bind ?_
  rw [h.provider]
  dsimp only [shift]
  split
  next c _ => exact followsAt_pure id c h
  next => exact (followsAt_load _ (Catalog.tableNames _) h).keep _ fun _ _ => rfl

theorem columnCatalog_follows (h : Follows old s s') :
    columnCatalog.FollowsAt answers old columnCatalog id s s' := by
  refine FollowsAt.get_bind ?_
  rw [h.provider]
  dsimp only [shift]
  split
  next c _ => exact followsAt_pure id c h
  next =>
    refine (tableCatalog_follows h).bind fun names _ _ h => ?_
    exact (followsAt_load _ (ColumnCatalog.ofAnswer _ names) h).keep _ fun _ _ => rfl

theorem viewCatalog_follows (h : Follows old s s') :
    viewCatalog.FollowsAt answers old viewCatalog id s s' := by
  refine FollowsAt.get_bind ?_
  rw [h.provider]
  dsimp only [shift]
  split
  next c _ => exact followsAt_pure id c h
  next => exact (followsAt_load _ (Catalog.viewNames _) h).keep _ fun _ _ => rfl

theorem getView_follows (name : String) (h : Follows old s s') :
    (getView name).FollowsAt answers old (getView name) id s s' := by
  refine (viewCatalog_follows h).bind fun c _ _ h => ?_
  dsimp only [id]
  split
  next name _ => exact followsAt_pure id (View.database name) h
  next => exact followsAt_throw id _ h

theorem loadTable_follows (name : String) (h : Follows old s s') :
    (loadTable name).FollowsAt answers old (loadTable name) id s s' := by
  refine FollowsAt.get_bind ?_
  rw [h.provider]
  dsimp only [shift]
  refine (tableCatalog_follows h).bind fun names _ _ h => ?_
  dsimp only [id]
  split
  next => exact followsAt_throw id _ h
  next table _ =>
    refine (followsAt_load _ (PrimaryKey.ofAnswer table) h).bind fun key _ _ h => ?_
    refine (columnCatalog_follows h).bind fun columns _ _ h => ?_
    exact (followsAt_report _ h).bind fun _ _ _ h => followsAt_pure id _ h

theorem getTable_follows (name : String) (h : Follows old s s') :
    (getTable name).FollowsAt answers old (getTable name) (old.length + ·) s s' := by
  refine FollowsAt.get_bind ?_
  dsimp only
  rw [h.provider, lookup_shift]
  cases s'.provider.numbers.lookup (nameKey name) with
  | some number => exact followsAt_pure (old.length + ·) number h
  | none =>
      refine (loadTable_follows name h).bind fun t s₁ s₁' h => ?_
      refine FollowsAt.get_bind ?_
      have hlength : s₁.handles.length = old.length + s₁'.handles.length := by
        rw [h.handles, List.length_append]
      rw [hlength]
      refine (followsAt_modify ⟨h.provider, ?_⟩).bind fun _ _ _ h => ?_
      · rw [h.handles, List.append_assoc]
        rfl
      · refine (followsAt_modifySelf ?_ h).bind fun _ _ _ h => ?_
        · exact fun _ => rfl
        · exact followsAt_pure (old.length + ·) s₁'.handles.length h

theorem tables_follows (h : Follows old s s') :
    Provider.tables.FollowsAt answers old Provider.tables (List.map (old.length + ·)) s s' := by
  refine (tableCatalog_follows h).map.bind fun names _ _ h => ?_
  have hmapM : ((names.map id).mapM getTable).FollowsAt answers old (names.mapM getTable)
      (List.map (old.length + ·)) _ _ :=
    followsAt_mapM (fun name _ _ h => getTable_follows name h) names h
  rwa [List.map_id] at hmapM

end Provider

namespace Table

theorem columnsOf_follows (number : Nat) (h : Follows old s s') :
    (columnsOf (old.length + number)).FollowsAt answers old (columnsOf number) id s s' := by
  refine FollowsAt.get_bind ?_
  rw [h.handle?]
  split
  next => exact followsAt_pure id [] h
  next t _ =>
    split
    next columns _ => exact followsAt_pure id columns h
    next =>
      split
      next e _ => exact followsAt_throw id e h
      next columns _ =>
        exact (followsAt_modify (h.set number _)).bind fun _ _ _ h => followsAt_pure id columns h

theorem indexesOf_follows (number : Nat) (h : Follows old s s') :
    (indexesOf (old.length + number)).FollowsAt answers old (indexesOf number) id s s' := by
  refine FollowsAt.get_bind ?_
  rw [h.handle?]
  split
  next => exact followsAt_pure id [] h
  next t _ =>
    split
    next indexes _ => exact followsAt_pure id indexes h
    next =>
      refine (followsAt_report _ h).bind fun _ _ _ h => ?_
      refine (followsAt_load _ (Index.ofAnswer _ _) h).bind fun indexes _ _ h => ?_
      refine (followsAt_modify (h.modify number _)).bind fun _ _ _ h => ?_
      exact followsAt_pure id indexes h

theorem snapshotOf_follows (number : Nat) (h : Follows old s s') :
    (snapshotOf (old.length + number)).FollowsAt answers old (snapshotOf number) id s s' := by
  refine (columnsOf_follows number h).bind fun columns _ _ h => ?_
  refine (indexesOf_follows number h).bind fun indexes _ _ h => ?_
  refine FollowsAt.get_bind ?_
  rw [h.handle?]
  exact followsAt_pure id _ h

end Table

theorem Provider.snapshot_follows (h : Follows old s s') :
    Provider.snapshot.FollowsAt answers old Provider.snapshot id s s' := by
  refine (tables_follows h).bind fun numbers _ _ h => ?_
  have htables : ((numbers.map (old.length + ·)).mapM Table.snapshotOf).FollowsAt answers old
      (numbers.mapM Table.snapshotOf) (List.map id) _ _ :=
    followsAt_mapM (fun number _ _ h => Table.snapshotOf_follows number h) numbers h
  refine htables.bind fun tables _ _ h => ?_
  rw [List.map_id]
  refine (viewCatalog_follows h).map.bind fun views _ _ h => ?_
  exact (followsAt_report _ h).bind fun _ _ _ h => followsAt_pure id _ h

theorem TableRequest.act_follows (number : Nat) (request : TableRequest) (h : Follows old s s') :
    (request.act (old.length + number)).FollowsAt answers old (request.act number) id s s' := by
  cases request with
  | columns => exact (Table.columnsOf_follows number h).map
  | column name => exact (Table.columnsOf_follows number h).map.map
  | indexes => exact (Table.indexesOf_follows number h).map
  | snapshot => exact (Table.snapshotOf_follows number h).map

-- The request as it is made of a provider that has handed out no tables when this one has handed
-- out some number of them. There is none if the request is of one of those.
def Request.renumbered? (count : Nat) : Request → Option Request
  | .ofTable number request =>
      if number < count then none else some (.ofTable (number - count) request)
  | request => some request

open Provider in
theorem Request.act_follows {request request' : Request}
    (hr : request.renumbered? old.length = some request') (h : Follows old s s') :
    request.act.FollowsAt answers old request'.act id s s' := by
  cases request with
  | ofTable number request =>
      simp only [renumbered?, Option.ite_none_left_eq_some, Option.some.injEq, Nat.not_lt] at hr
      obtain ⟨hle, rfl⟩ := hr
      obtain ⟨number, rfl⟩ := Nat.exists_eq_add_of_le hle
      rw [Nat.add_sub_cancel_left]
      exact request.act_follows number h
  | isEmpty | tableExists | tableNames =>
      cases hr
      exact (tableCatalog_follows h).map.map
  | viewExists | viewNames | views =>
      cases hr
      exact (viewCatalog_follows h).map.map
  | tables =>
      cases hr
      refine (tables_follows h).bind fun numbers s₁ s₁' h => FollowsAt.get_bind ?_
      have hfaces : (numbers.map (old.length + ·)).map s₁.face? = numbers.map s₁'.face? := by
        rw [List.map_map]
        exact List.map_congr_left fun number _ => h.face? number
      rw [hfaces]
      exact followsAt_pure id _ h
  | table name =>
      cases hr
      refine (getTable_follows name h).bind fun number s₁ s₁' h => FollowsAt.get_bind ?_
      rw [h.face?]
      exact followsAt_pure id _ h
  | view name =>
      cases hr
      exact (getView_follows name h).map
  | snapshot =>
      cases hr
      exact (snapshot_follows h).map

end DatabaseSchema
