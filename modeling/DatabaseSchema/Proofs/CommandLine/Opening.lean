import DatabaseSchema.CommandLine

namespace DatabaseSchema

variable {α β : Type} {w : Shown}

namespace Work

@[simp] theorem run_pure (a : α) : (pure a : Work α).run w = (.ok a, w) := rfl

@[simp] theorem run_report (events : List Event) :
    (report events).run w = (.ok (), { w with events := w.events ++ events }) := rfl

@[simp] theorem run_print (text : String) :
    (print text).run w = (.ok (), { w with output := w.output ++ text }) := rfl

theorem run_bind (x : Work α) (f : α → Work β) :
    (x >>= f).run w =
      match x.run w with
      | (.ok a, w') => (f a).run w'
      | (.error e, w') => (.error e, w') := by
  simp only [ExceptT.run, bind, ExceptT.bind, ExceptT.mk, StateT.bind, ExceptT.bindCont]
  rcases x w with ⟨_ | a, w'⟩ <;> rfl

theorem run_read (act : Act α) (source : Source) (s : Session) :
    (read act source s).run w = ((act.run source s).1.mapError .schema,
      { w with events := w.events ++ (act.run source s).2.events }) := by
  unfold read
  rcases act.run source s with ⟨_ | a, s'⟩ <;> rfl

def Quiet (x : Work α) : Prop :=
  ∀ w, (x.run w).2.output = w.output

theorem Quiet.bind {x : Work α} {f : α → Work β} (hx : x.Quiet) (hf : ∀ a, (f a).Quiet) :
    (x >>= f).Quiet := by
  intro w
  have hw := hx w
  rw [run_bind]
  rcases hrun : x.run w with ⟨_ | a, w'⟩ <;> rw [hrun] at hw
  · exact hw
  · exact (hf a w').trans hw

end Work

open Work

namespace Invocation

variable {i : Invocation} {host : Host}
  {r : Except CommandError (Source × Session)}

inductive Opening (i : Invocation) (host : Host) :
    Except CommandError (Source × Session) → Prop where
  | settings {f : SettingsError} : i.settings host.environment host.files = .error f →
      Opening i host (.error (.settings f))
  | policy {s : Settings} {f : SettingsError} : i.settings host.environment host.files = .ok s →
      s.metadata.policy host.sizeLimit = .error f → Opening i host (.error (.settings f))
  | connection {s : Settings} {p : StandardPolicy} {f : CommandError} :
      i.settings host.environment host.files = .ok s →
        s.metadata.policy host.sizeLimit = .ok p →
          ((i.connect host.environment s).run {}).1 = .error f → Opening i host (.error f)
  | source {s : Settings} {p : StandardPolicy} {c : Connection} {f : ConnectionError} :
      i.settings host.environment host.files = .ok s →
        s.metadata.policy host.sizeLimit = .ok p →
          ((i.connect host.environment s).run {}).1 = .ok c →
            c.source host.databases = .error f → Opening i host (.error (.connection f))
  | opened {s : Settings} {p : StandardPolicy} {c : Connection} {source : Source} :
      i.settings host.environment host.files = .ok s →
        s.metadata.policy host.sizeLimit = .ok p →
          ((i.connect host.environment s).run {}).1 = .ok c →
            c.source host.databases = .ok source →
              Opening i host (.ok (source, c.session p.toPolicy))

end Invocation

end DatabaseSchema
