import DatabaseSchema.Error
import DatabaseSchema.Snapshot
import DatabaseSchema.Text

namespace DatabaseSchema

inductive Level where
  | debug
  | info
  deriving DecidableEq, Repr

def Level.name : Level → String
  | debug => "DEBUG"
  | info => "INFO"

inductive Event where
  | foundTable (name kind schema : String) (system ignored : Bool)
  | loadedTableNames (count : Nat)
  | foundColumn (column : Column) (table : String)
  | loadedColumns (tables : Nat)
  | foundView (name : String)
  | loadedViews (count : Nat)
  | foundPrimaryKey (columns : List String) (table : String)
  | loadingIndexes (table : String)
  | ignoringIndex (index table : String)
  | foundIndex (index : Index) (table : String)
  | skippingExpressionIndex (index table : String)
  | loadedTable (table : String)
  | capturedSnapshot (tables views : Nat)
  | openingDatabase (path : String)
  | usingConnection (name : String)
  deriving DecidableEq, Repr

namespace Event

def level : Event → Level
  | loadedTableNames _ | loadedColumns _ | loadedViews _ | capturedSnapshot .. => .info
  | _ => .debug

def text : Event → String
  | foundTable name kind schema system ignored =>
      "Found table [" ++ name ++ "] of type [" ++ kind ++ "] in schema [" ++ schema ++ "]"
        ++ (if system then " - SYSTEM TABLE" else "") ++ (if ignored then " - IGNORED" else "")
  | loadedTableNames count => "Loaded " ++ toString count ++ " table names"
  | foundColumn column table => "Found column [" ++ column.display ++ "] on table [" ++ table ++ "]"
  | loadedColumns tables => "Loaded columns for " ++ toString tables ++ " tables"
  | foundView name => "Found view [" ++ name ++ "]"
  | loadedViews count => "Loaded " ++ toString count ++ " views"
  | foundPrimaryKey columns table =>
      "Found primary key " ++ Text.quotedList columns ++ " on table [" ++ table ++ "]"
  | loadingIndexes table => "Loading indexes for table [" ++ table ++ "]"
  | ignoringIndex index table => "Ignoring index [" ++ index ++ "] on table [" ++ table ++ "]"
  | foundIndex index table => "Found index " ++ index.display ++ " on table [" ++ table ++ "]"
  | skippingExpressionIndex index table =>
      "Skipping expression index [" ++ index ++ "] on table [" ++ table ++ "]"
  | loadedTable table => "Loaded table [" ++ table ++ "]"
  | capturedSnapshot tables views =>
      "Captured schema snapshot: " ++ toString tables ++ " tables, " ++ toString views ++ " views"
  | openingDatabase path => "Opening sqlite database " ++ path
  | usingConnection name => "Using connection [" ++ name ++ "]"

def line (e : Event) : String :=
  e.level.name ++ " " ++ e.text

end Event

theorem bind_eq_ok {x : Except ε α} {f : α → Except ε β} {b : β} :
    x >>= f = .ok b ↔ ∃ a, x = .ok a ∧ f a = .ok b := by
  cases x <;> simp [bind, Except.bind]

@[simp] theorem ok_bind (a : α) (f : α → Except ε β) : (Except.ok a >>= f) = f a := rfl

@[simp] theorem error_bind (e : ε) (f : α → Except ε β) :
    (Except.error e >>= f) = Except.error e := rfl

theorem mapM_eq_ok {f : α → Except ε β} {g : α → β} {items : List α}
    (h : ∀ a ∈ items, f a = .ok (g a)) : items.mapM f = .ok (items.map g) := by
  induction items with
  | nil => rfl
  | cons a items ih =>
      rw [List.mapM_cons, h a List.mem_cons_self, ok_bind,
        ih fun b hb => h b (List.mem_cons_of_mem a hb)]
      rfl

structure Logged (α : Type) where
  result : Except SchemaError α
  events : List Event := []

namespace Logged

def bind (x : Logged α) (f : α → Logged β) : Logged β :=
  match x.result with
  | .ok a => ⟨(f a).result, x.events ++ (f a).events⟩
  | .error e => ⟨.error e, x.events⟩

instance : Monad Logged where
  pure a := ⟨.ok a, []⟩
  bind := bind

def emit (e : Event) : Logged Unit := ⟨.ok (), [e]⟩

def emitAll (es : List Event) : Logged Unit := ⟨.ok (), es⟩

def fail (e : SchemaError) : Logged α := ⟨.error e, []⟩

def ofExcept (r : Except SchemaError α) : Logged α := ⟨r, []⟩

@[simp] theorem result_pure (a : α) : (pure a : Logged α).result = .ok a := rfl

@[simp] theorem result_bind (x : Logged α) (f : α → Logged β) :
    (x >>= f).result = x.result >>= fun a => (f a).result := by
  show (bind x f).result = _
  unfold bind
  cases x.result <;> rfl

@[simp] theorem result_emit (e : Event) : (emit e).result = .ok () := rfl

@[simp] theorem result_emitAll (es : List Event) : (emitAll es).result = .ok () := rfl

@[simp] theorem result_fail (e : SchemaError) : (fail e : Logged α).result = .error e := rfl

@[simp] theorem result_ofExcept (r : Except SchemaError α) : (ofExcept r).result = r := rfl

theorem result_foldlM (f : β → α → Logged β) (items : List α) (b : β) :
    (items.foldlM f b).result = items.foldlM (fun b a => (f b a).result) b := by
  induction items generalizing b with
  | nil => rfl
  | cons a items ih => simp only [List.foldlM_cons, result_bind, ih]

theorem map_bind (x : Logged α) (f : α → Logged β) (g : β → γ) :
    g <$> (x >>= f) = x >>= fun a => g <$> f a := by
  rcases x with ⟨_ | a, events⟩
  · rfl
  · show Logged.bind (Logged.bind _ f) _ = Logged.bind _ fun a => Logged.bind (f a) _
    simp only [Logged.bind]
    cases (f a).result with
    | error e => rfl
    | ok b => simp

theorem bind_congr {x : Logged α} {f g : α → Logged β}
    (h : ∀ a, x.result = .ok a → f a = g a) : x >>= f = x >>= g := by
  rcases x with ⟨_ | a, events⟩
  · rfl
  · show Logged.bind _ f = Logged.bind _ g
    simp only [Logged.bind, h a rfl]

theorem bind_map_left (x : Logged α) (g : α → β) (f : β → Logged γ) :
    (g <$> x) >>= f = x >>= fun a => f (g a) := by
  rcases x with ⟨_ | a, events⟩
  · rfl
  · show Logged.bind (Logged.bind _ _) f = Logged.bind _ fun a => f (g a)
    simp [Logged.bind]

theorem foldlM_invariant {P : β → Prop} {f : β → α → Logged β}
    (step : ∀ b a b', P b → (f b a).result = .ok b' → P b') {items : List α} {b b' : β}
    (hb : P b) (h : (items.foldlM f b).result = .ok b') : P b' := by
  induction items generalizing b with
  | nil =>
      cases h
      exact hb
  | cons a items ih =>
      rw [List.foldlM_cons, result_bind, bind_eq_ok] at h
      obtain ⟨c, hc, h⟩ := h
      exact ih (step b a c hb hc) h

end Logged

end DatabaseSchema
