import DatabaseSchema.Proofs.CommandLine.Opening
import DatabaseSchema.Proofs.Failure
import DatabaseSchema.Proofs.Folding
import DatabaseSchema.Sqlite.Disk

namespace DatabaseSchema

open Session Act CommandLine

variable {α : Type} {host : Host} {args : List String} {i : Invocation} {source : Source}
  {s : Session}

def Command.text : Command → Act String
  | tables => return String.join ((← Provider.tableNames).map (· ++ "\n"))
  | views => return String.join ((← Provider.viewNames).map (· ++ "\n"))
  | describe name => do
      let t ← (do Table.snapshotOf (← Provider.getTable name))
      return t.text
  | dump .text => return (← Provider.snapshot).text
  | dump .json => return (← Provider.snapshot).jsonText ++ "\n"

theorem Work.run_printLines (lines : List String) (w : Shown) :
    (lines.forM printLine).run w = (print (String.join (lines.map (· ++ "\n")))).run w := by
  induction lines generalizing w with
  | nil => simp
  | cons line lines ih =>
      show (printLine line >>= fun _ => lines.forM printLine).run w = _
      rw [run_bind, printLine, run_print]
      simp only [ih, run_print, List.map_cons, String.join_cons, String.append_assoc]

theorem Work.run_read_bind {act : Act α} {f : α → Work Unit} {text : α → String}
    (hf : ∀ a w, (f a).run w = (print (text a)).run w) (w : Shown) :
    (read act source s >>= f).run w =
      (read (act >>= fun a => pure (text a)) source s >>= print).run w := by
  rw [run_bind, run_bind, run_read, run_read, Act.run_bind]
  rcases act.run source s with ⟨_ | a, s'⟩
  · rfl
  · exact hf a _

theorem Command.run_perform (c : Command) (w : Shown) :
    (c.perform source s).run w = (Work.read c.text source s >>= Work.print).run w := by
  cases c with
  | tables => exact Work.run_read_bind Work.run_printLines w
  | views => exact Work.run_read_bind Work.run_printLines w
  | describe name => exact Work.run_read_bind (fun _ _ => rfl) w
  | dump format =>
      cases format with
      | text => exact Work.run_read_bind (fun _ _ => rfl) w
      | json => exact Work.run_read_bind (fun _ _ => rfl) w

namespace Invocation

theorem Opening.start (h : i.Opening host (.ok (source, s))) : ∃ context, s = start context := by
  obtain _ | _ | _ | _ | _ := h
  exact ⟨_, rfl⟩

end Invocation

namespace Invocation

def Captures (i : Invocation) (host : Host) (snap : SchemaSnapshot) : Prop :=
  ∃ source s, i.Opening host (.ok (source, s)) ∧
    (Provider.snapshot.run source s).1 = .ok snap

end Invocation

end DatabaseSchema
