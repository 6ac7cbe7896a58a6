import DatabaseSchema.Request

namespace DatabaseSchema

variable {α β : Type} {source : Source} {s s' : Session}

namespace Act

@[simp] theorem run_pure (a : α) : (pure a : Act α).run source s = (.ok a, s) := rfl

@[simp] theorem run_throw (e : SchemaError) : (throw e : Act α).run source s = (.error e, s) := rfl

@[simp] theorem run_get : (get : Act Session).run source s = (.ok s, s) := rfl

@[simp] theorem run_read : (read : Act Source).run source s = (.ok source, s) := rfl

@[simp] theorem run_set : (set s' : Act Unit).run source s = (.ok (), s') := rfl

@[simp] theorem run_modify (f : Session → Session) :
    (modify f : Act Unit).run source s = (.ok (), f s) := rfl

theorem run_bind (x : Act α) (f : α → Act β) :
    (x >>= f).run source s =
      match x.run source s with
      | (.ok a, s') => (f a).run source s'
      | (.error e, s') => (.error e, s') := by
  simp only [Act.run, bind, ReaderT.bind, ExceptT.bind, ExceptT.mk, StateT.bind, ExceptT.bindCont]
  rcases x source s with ⟨_ | a, s'⟩ <;> rfl

theorem run_bind_ok {x : Act α} {a : α} (h : x.run source s = (.ok a, s')) (f : α → Act β) :
    (x >>= f).run source s = (f a).run source s' := by
  rw [run_bind, h]

theorem run_bind_error {x : Act α} {e : SchemaError} (h : x.run source s = (.error e, s'))
    (f : α → Act β) : (x >>= f).run source s = (.error e, s') := by
  rw [run_bind, h]

theorem run_bind_eq_ok {x : Act α} {f : α → Act β} {b : β} :
    (x >>= f).run source s = (.ok b, s') ↔
      ∃ a s₁, x.run source s = (.ok a, s₁) ∧ (f a).run source s₁ = (.ok b, s') := by
  rw [run_bind]
  rcases x.run source s with ⟨e | a, s₁⟩
  · simp
  · simp [and_assoc]

theorem run_map (f : α → β) (x : Act α) :
    (f <$> x).run source s = ((x.run source s).1.map f, (x.run source s).2) := by
  rw [map_eq_pure_bind, run_bind]
  rcases x.run source s with ⟨_ | a, s'⟩ <;> rfl

theorem result_map_eq_ok {f : α → β} {x : Act α} {b : β} :
    ((x >>= fun a => pure (f a)).run source s).1 = .ok b ↔
      ∃ a, (x.run source s).1 = .ok a ∧ f a = b := by
  rw [run_bind]
  rcases x.run source s with ⟨_ | a, s'⟩ <;> simp

end Act

open Act

@[simp] theorem run_report (events : List Event) :
    (report events).run source s = (.ok (), { s with events := s.events ++ events }) := rfl

theorem run_ask (q : Query) :
    (ask q).run source s =
      (.ok (source.answer s.history q).items,
        { s with
          history := q :: s.history
          events := s.events ++ (source.answer s.history q).events }) := by
  unfold ask
  simp only [run_bind, run_get, run_read, run_set, run_pure]

theorem run_perform (x : Logged α) :
    (perform x).run source s = (x.result, { s with events := s.events ++ x.events }) := by
  unfold perform
  simp only [run_bind, run_report]
  cases x.result <;> rfl

def Session.asked (s : Session) (q : Query) (events : List Event) : Session :=
  { s with history := q :: s.history, events := s.events ++ events }

theorem run_load (q : Query) (f : Items → Logged α) :
    (ask q >>= fun items => perform (f items)).run source s =
      ((f (source.answer s.history q).items).result,
        s.asked q ((source.answer s.history q).events
          ++ (f (source.answer s.history q).items).events)) := by
  rw [run_bind, run_ask]
  simp only [run_perform, List.append_assoc, Session.asked]

namespace Context

variable (c : Context)

theorem run_loadTableNames :
    ∃ events, c.loadTableNames.run source s =
      ((Catalog.tableNames c.policy
          (source.answer s.history (.tables c.schema c.policy.tableKinds)).items).result,
        s.asked (.tables c.schema c.policy.tableKinds) events) :=
  ⟨_, run_load _ _⟩

theorem run_loadColumns (names : Catalog String) :
    ∃ events, (c.loadColumns names).run source s =
      ((ColumnCatalog.ofAnswer c.policy names
          (source.answer s.history (.columns c.schema)).items).result,
        s.asked (.columns c.schema) events) :=
  ⟨_, run_load _ _⟩

theorem run_loadViews :
    ∃ events, c.loadViews.run source s =
      ((Catalog.viewNames c.policy
          (source.answer s.history (.tables c.schema c.policy.viewKinds)).items).result,
        s.asked (.tables c.schema c.policy.viewKinds) events) :=
  ⟨_, run_load _ _⟩

theorem run_loadPrimaryKey (table : String) :
    ∃ events, (c.loadPrimaryKey table).run source s =
      ((PrimaryKey.ofAnswer table
          (source.answer s.history (.primaryKeys c.schema table)).items).result,
        s.asked (.primaryKeys c.schema table) events) :=
  ⟨_, run_load _ _⟩

theorem run_loadIndexes (table : String) :
    ∃ events, (c.loadIndexes table).run source s =
      ((Index.ofAnswer c.policy table
          (source.answer s.history (.indexes c.schema table false false)).items).result,
        s.asked (.indexes c.schema table false false) events) :=
  ⟨_, run_load _ _⟩

end Context

end DatabaseSchema
