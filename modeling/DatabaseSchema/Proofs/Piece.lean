import DatabaseSchema.Proofs.Act
import DatabaseSchema.Proofs.Catalog

namespace DatabaseSchema

-- The places of a session where something is kept once it is known. Those of tables go by
-- spellings of their names, those of what belongs to a table by its number.
inductive Piece where
  | tableNames
  | columns
  | views
  | table (name : String)
  | face (number : Nat)
  | finalColumns (number : Nat)
  | indexes (number : Nat)
  deriving DecidableEq, Repr

inductive Content where
  | names (c : Catalog String)
  | columns (c : ColumnCatalog)
  | number (n : Nat)
  | face (t : Table)
  | finalColumns (columns : List Column)
  | indexes (indexes : List Index)

variable {source : Source} {s s₁ s₂ s' : Session} {piece : Piece} {content : Content}

namespace Session

def content? (s : Session) : Piece → Option Content
  | .tableNames => s.provider.keptNames.map .names
  | .columns => s.provider.keptColumns.map .columns
  | .views => s.provider.keptViews.map .names
  | .table name => (s.provider.numbers.lookup (nameKey name)).map .number
  | .face number => (s.face? number).map .face
  | .finalColumns number => (s.handles[number]?.bind (·.columns)).map .finalColumns
  | .indexes number => (s.handles[number]?.bind (·.indexes)).map .indexes

def query? (s : Session) : Piece → Option Query
  | .tableNames =>
      some (.tables s.provider.context.schema s.provider.context.policy.tableKinds)
  | .columns => some (.columns s.provider.context.schema)
  | .views => some (.tables s.provider.context.schema s.provider.context.policy.viewKinds)
  | .table name => some (.primaryKeys s.provider.context.schema name)
  | .indexes number => (s.face? number).map fun t => .indexes t.context.schema t.name false false
  | .face _ | .finalColumns _ => none

structure Keeps (s s' : Session) : Prop where
  context : s'.provider.context = s.provider.context
  history : s.history <:+ s'.history
  content : ∀ piece content, s.content? piece = some content → s'.content? piece = some content

namespace Keeps

theorem refl (s : Session) : s.Keeps s :=
  ⟨rfl, List.suffix_rfl, fun _ _ => id⟩

theorem trans (h : s.Keeps s₁) (h' : s₁.Keeps s₂) : s.Keeps s₂ :=
  ⟨h'.context.trans h.context, h.history.trans h'.history,
    fun piece content hc => h'.content piece content (h.content piece content hc)⟩

theorem missing (h : s.Keeps s') (hn : s'.content? piece = none) : s.content? piece = none := by
  cases hc : s.content? piece with
  | none => rfl
  | some content => simp [h.content piece content hc] at hn

theorem keptNames (h : s.Keeps s') {c : Catalog String} (hc : s.provider.keptNames = some c) :
    s'.provider.keptNames = some c := by
  have hk := h.content .tableNames (.names c) (by simp [content?, hc])
  simpa [content?] using hk

theorem keptColumns (h : s.Keeps s') {c : ColumnCatalog} (hc : s.provider.keptColumns = some c) :
    s'.provider.keptColumns = some c := by
  have hk := h.content .columns (.columns c) (by simp [content?, hc])
  simpa [content?] using hk

theorem keptViews (h : s.Keeps s') {c : Catalog String} (hc : s.provider.keptViews = some c) :
    s'.provider.keptViews = some c := by
  have hk := h.content .views (.names c) (by simp [content?, hc])
  simpa [content?] using hk

theorem face (h : s.Keeps s') {number : Nat} {t : Table} (ht : s.face? number = some t) :
    s'.face? number = some t := by
  have hk := h.content (.face number) (.face t) (by simp [content?, ht])
  simpa [content?] using hk

theorem query (h : s.Keeps s') {q : Query} (hq : s.query? piece = some q) :
    s'.query? piece = some q := by
  cases piece with
  | indexes number =>
      obtain ⟨t, ht, hqt⟩ := Option.map_eq_some_iff.mp hq
      simpa [query?, h.face ht] using hqt
  | face number => simp [query?] at hq
  | finalColumns number => simp [query?] at hq
  | _ => simpa [query?, h.context] using hq

theorem map_query (h : s.Keeps s') {asked : List Piece} {queries : List Query}
    (hq : asked.map s.query? = queries.map some) :
    asked.map s'.query? = queries.map some := by
  rw [← hq]
  refine List.map_congr_left fun piece hp => ?_
  have hmem : s.query? piece ∈ queries.map some := hq ▸ List.mem_map_of_mem hp
  obtain ⟨q, -, hs⟩ := List.mem_map.mp hmem
  rw [← hs]
  exact h.query hs.symm

end Keeps

def Answered (source : Source) (s s' : Session) (q : Query) (P : Items → Prop) : Prop :=
  ∃ history, s.history <:+ history ∧ q :: history <:+ s'.history ∧
    P (source.answer history q).items

theorem Answered.widen {q : Query} {P : Items → Prop} {t t' : Session}
    (h : Answered source s s' q P) (hl : t.history <:+ s.history)
    (hr : s'.history <:+ t'.history) : Answered source t t' q P := by
  obtain ⟨history, hs, hq, hp⟩ := h
  exact ⟨history, hl.trans hs, hq.trans hr, hp⟩

structure Assembled (source : Source) (s s' : Session) (t : Table) : Prop where
  context : t.context = s'.provider.context
  name : ∃ names, s'.provider.keptNames = some names ∧ t.name ∈ names.entries
  key : Answered source s s' (.primaryKeys t.context.schema t.name)
    fun items => (PrimaryKey.ofAnswer t.name items).result = .ok t.primaryKey
  entry : ∃ c, s'.provider.keptColumns = some c ∧ t.entry = (c.columns? t.name).getD []

theorem Assembled.widen {t : Table} (h : Assembled source s s₁ t) {r : Session}
    (hl : r.history <:+ s.history) (hk : s₁.Keeps s₂) : Assembled source r s₂ t where
  context := h.context.trans hk.context.symm
  name := by
    obtain ⟨names, hn, hmem⟩ := h.name
    exact ⟨names, hk.keptNames hn, hmem⟩
  key := h.key.widen hl hk.history
  entry := by
    obtain ⟨c, hc, he⟩ := h.entry
    exact ⟨c, hk.keptColumns hc, he⟩

inductive Obtained (source : Source) (s s' : Session) : Piece → Content → Prop where
  | tableNames {c : Catalog String} :
      Answered source s s'
        (.tables s'.provider.context.schema s'.provider.context.policy.tableKinds)
        (fun items => (Catalog.tableNames s'.provider.context.policy items).result = .ok c) →
      Obtained source s s' .tableNames (.names c)
  | columns {names : Catalog String} {c : ColumnCatalog} :
      s'.provider.keptNames = some names →
      Answered source s s' (.columns s'.provider.context.schema)
        (fun items =>
          (ColumnCatalog.ofAnswer s'.provider.context.policy names items).result = .ok c) →
      Obtained source s s' .columns (.columns c)
  | views {c : Catalog String} :
      Answered source s s'
        (.tables s'.provider.context.schema s'.provider.context.policy.viewKinds)
        (fun items => (Catalog.viewNames s'.provider.context.policy items).result = .ok c) →
      Obtained source s s' .views (.names c)
  | table {name : String} {number : Nat} {t : Table} :
      s'.face? number = some t → nameKey t.name = nameKey name → Assembled source s s' t →
      Obtained source s s' (.table name) (.number number)
  | face {number : Nat} {t : Table} :
      s'.content? (.table t.name) = some (.number number) → Assembled source s s' t →
      Obtained source s s' (.face number) (.face t)
  | finalColumns {number : Nat} {t : Table} {columns : List Column} :
      s'.face? number = some t →
      PrimaryKey.order t.name t.primaryKey (PrimaryKey.mark t.entry t.primaryKey) = .ok columns →
      Obtained source s s' (.finalColumns number) (.finalColumns columns)
  | indexes {number : Nat} {t : Table} {indexes : List Index} :
      s'.face? number = some t →
      Answered source s s' (.indexes t.context.schema t.name false false)
        (fun items => (Index.ofAnswer t.context.policy t.name items).result = .ok indexes) →
      Obtained source s s' (.indexes number) (.indexes indexes)

theorem Obtained.widen (h : Obtained source s s₁ piece content) {r : Session}
    (hl : r.history <:+ s.history) (hk : s₁.Keeps s₂) : Obtained source r s₂ piece content := by
  cases h with
  | tableNames ha =>
      refine .tableNames ?_
      rw [hk.context]
      exact ha.widen hl hk.history
  | columns hn ha =>
      refine .columns (hk.keptNames hn) ?_
      rw [hk.context]
      exact ha.widen hl hk.history
  | views ha =>
      refine .views ?_
      rw [hk.context]
      exact ha.widen hl hk.history
  | table hf hname ha => exact .table (hk.face hf) hname (ha.widen hl hk)
  | face hn ha => exact .face (hk.content _ _ hn) (ha.widen hl hk)
  | finalColumns hf ho => exact .finalColumns (hk.face hf) ho
  | indexes hf ha => exact .indexes (hk.face hf) (ha.widen hl hk.history)

-- Between two sessions a piece was asked for and could not be read. A table cannot be read either
-- where the columns cannot.
inductive Unread (source : Source) (s s' : Session) : Piece → Prop where
  | tableNames :
      Answered source s s'
        (.tables s'.provider.context.schema s'.provider.context.policy.tableKinds)
        (fun items => ∀ c,
          (Catalog.tableNames s'.provider.context.policy items).result ≠ .ok c) →
      Unread source s s' .tableNames
  | columns {names : Catalog String} :
      s'.provider.keptNames = some names →
      Answered source s s' (.columns s'.provider.context.schema)
        (fun items => ∀ c,
          (ColumnCatalog.ofAnswer s'.provider.context.policy names items).result ≠ .ok c) →
      Unread source s s' .columns
  | views :
      Answered source s s'
        (.tables s'.provider.context.schema s'.provider.context.policy.viewKinds)
        (fun items => ∀ c,
          (Catalog.viewNames s'.provider.context.policy items).result ≠ .ok c) →
      Unread source s s' .views
  | key {table : String} :
      Answered source s s' (.primaryKeys s'.provider.context.schema table)
        (fun items => ∀ key, (PrimaryKey.ofAnswer table items).result ≠ .ok key) →
      Unread source s s' (.table table)
  | entry {table : String} : Unread source s s' .columns → Unread source s s' (.table table)
  | indexes {number : Nat} {t : Table} :
      s'.face? number = some t →
      Answered source s s' (.indexes t.context.schema t.name false false)
        (fun items => ∀ indexes,
          (Index.ofAnswer t.context.policy t.name items).result ≠ .ok indexes) →
      Unread source s s' (.indexes number)

theorem Unread.widen (h : Unread source s s₁ piece) {r : Session}
    (hl : r.history <:+ s.history) (hk : s₁.Keeps s₂) : Unread source r s₂ piece := by
  induction h with
  | tableNames ha =>
      refine .tableNames ?_
      rw [hk.context]
      exact ha.widen hl hk.history
  | columns hn ha =>
      refine .columns (hk.keptNames hn) ?_
      rw [hk.context]
      exact ha.widen hl hk.history
  | views ha =>
      refine .views ?_
      rw [hk.context]
      exact ha.widen hl hk.history
  | key ha =>
      refine .key ?_
      rw [hk.context]
      exact ha.widen hl hk.history
  | entry _ ih => exact .entry ih
  | indexes hf ha => exact .indexes (hk.face hf) (ha.widen hl hk.history)

-- How a session grows while it asks for pieces: each new content was obtained on the way, and the
-- new queries are for those pieces, which were not kept.
structure Growth (source : Source) (s : Session) (asked : List Piece) (s' : Session) : Prop
    extends s.Keeps s' where
  obtained : ∀ {piece content}, s.content? piece = none → s'.content? piece = some content →
    Obtained source s s' piece content
  missing : ∀ piece ∈ asked, s.content? piece = none
  queries : ∃ queries : List Query, s'.history = queries.reverse ++ s.history ∧
    asked.map s'.query? = queries.map some

namespace Growth

variable {asked asked₁ asked₂ : List Piece}

theorem refl (source : Source) (s : Session) : Growth source s [] s where
  toKeeps := .refl s
  obtained hn hc := by simp [hn] at hc
  missing := by simp
  queries := ⟨[], by simp⟩

theorem trans (h : Growth source s asked₁ s₁) (h' : Growth source s₁ asked₂ s₂) :
    Growth source s (asked₁ ++ asked₂) s₂ where
  toKeeps := h.toKeeps.trans h'.toKeeps
  obtained := by
    intro piece content hn hc
    cases hm : s₁.content? piece with
    | none => exact (h'.obtained hm hc).widen h.history (.refl s₂)
    | some content' =>
        have heq : content' = content := Option.some.inj ((h'.content _ _ hm).symm.trans hc)
        subst heq
        exact (h.obtained hn hm).widen List.suffix_rfl h'.toKeeps
  missing := by
    intro piece hp
    rcases List.mem_append.mp hp with hp | hp
    · exact h.missing piece hp
    · exact h.toKeeps.missing (h'.missing piece hp)
  queries := by
    obtain ⟨q₁, hh₁, hq₁⟩ := h.queries
    obtain ⟨q₂, hh₂, hq₂⟩ := h'.queries
    refine ⟨q₁ ++ q₂, by simp [hh₁, hh₂], ?_⟩
    rw [List.map_append, List.map_append, h'.toKeeps.map_query hq₁, hq₂]

theorem ask {q : Query} (hn : s.content? piece = none) (hq : s.query? piece = some q)
    (events : List Event) : Growth source s [piece] (s.asked q events) where
  context := rfl
  history := List.suffix_cons q s.history
  content _ _ := id
  obtained hn hc := by
    rw [show (s.asked q events).content? _ = s.content? _ from rfl, hn] at hc
    simp at hc
  missing := by simpa using hn
  queries := ⟨[q], rfl, congrArg (fun q? => [q?]) hq⟩

theorem report (source : Source) (s : Session) (events : List Event) :
    Growth source s [] { s with events := s.events ++ events } where
  context := rfl
  history := List.suffix_rfl
  content _ _ := id
  obtained hn hc := by
    rw [show Session.content? { s with events := s.events ++ events } _ = s.content? _ from rfl,
      hn] at hc
    simp at hc
  missing := by simp
  queries := ⟨[], rfl, rfl⟩

theorem keep (h : Growth source s asked s₁) (hk : s₁.Keeps s₂)
    (hh : s₂.history = s₁.history)
    (ho : ∀ piece content, s₁.content? piece = none → s₂.content? piece = some content →
      Obtained source s s₂ piece content) : Growth source s asked s₂ where
  toKeeps := h.toKeeps.trans hk
  obtained := by
    intro piece content hn hc
    cases hm : s₁.content? piece with
    | none => exact ho piece content hm hc
    | some content' =>
        have heq : content' = content := Option.some.inj ((hk.content _ _ hm).symm.trans hc)
        subst heq
        exact (h.obtained hn hm).widen List.suffix_rfl hk
  missing := h.missing
  queries := by
    obtain ⟨queries, hq, hm⟩ := h.queries
    exact ⟨queries, hh.trans hq, hk.map_query hm⟩

end Growth

structure SameTables (s s' : Session) : Prop where
  context : s'.provider.context = s.provider.context
  views : s'.provider.keptViews = s.provider.keptViews
  numbers : s'.provider.numbers = s.provider.numbers
  handles : s'.handles = s.handles

theorem SameTables.refl (s : Session) : s.SameTables s := ⟨rfl, rfl, rfl, rfl⟩

theorem SameTables.trans (h : s.SameTables s₁) (h' : s₁.SameTables s₂) : s.SameTables s₂ :=
  ⟨h'.context.trans h.context, h'.views.trans h.views, h'.numbers.trans h.numbers,
    h'.handles.trans h.handles⟩

theorem SameTables.asked (s : Session) (q : Query) (events : List Event) :
    s.SameTables (s.asked q events) := ⟨rfl, rfl, rfl, rfl⟩

def keepNames (s : Session) (c : Catalog String) : Session :=
  { s with provider := { s.provider with keptNames := some c } }

def keepColumns (s : Session) (c : ColumnCatalog) : Session :=
  { s with provider := { s.provider with keptColumns := some c } }

def keepViews (s : Session) (c : Catalog String) : Session :=
  { s with provider := { s.provider with keptViews := some c } }

def keepFinalColumns (number : Nat) (t : Table) (s : Session) (columns : List Column) : Session :=
  { s with handles := s.handles.set number { t with columns := some columns } }

def keepIndexes (number : Nat) (s : Session) (indexes : List Index) : Session :=
  { s with handles := s.handles.modify number ({ · with indexes := some indexes }) }

def keeping (s : Session) (keep : Session → α → Session) : Except SchemaError α → Session
  | .ok a => keep s a
  | .error _ => s

theorem history_keeping (keep : Session → α → Session)
    (hk : ∀ s a, (keep s a).history = s.history) (r : Except SchemaError α) :
    (s.keeping keep r).history = s.history := by
  cases r with
  | ok a => exact hk s a
  | error e => rfl

theorem run_keeping {load : Act α} {r : Except SchemaError α}
    (h : load.run source s = (r, s₁)) (keep : Session → α → Session) :
    (load >>= fun a => do
      modify (keep · a)
      return a).run source s = (r, s₁.keeping keep r) := by
  rw [Act.run_bind, h]
  cases r <;> rfl

theorem eq_of_run_keeping {act : Act α} {r : Except SchemaError α} {keep : Session → α → Session}
    {a : α} (hrun : act.run source s = (r, s₁.keeping keep r))
    (h : act.run source s = (.ok a, s')) : s' = keep s₁ a := by
  obtain ⟨rfl, rfl⟩ := Prod.mk.inj (hrun.symm.trans h)
  rfl

structure Adds (s s' : Session) (piece : Piece) (content : Content) : Prop where
  context : s'.provider.context = s.provider.context
  history : s'.history = s.history
  missing : s.content? piece = none
  content : ∀ p, s'.content? p = if p = piece then some content else s.content? p

namespace Adds

theorem keeps (h : s.Adds s' piece content) : s.Keeps s' where
  context := h.context
  history := h.history ▸ List.suffix_rfl
  content p c hc := by
    rw [h.content p, if_neg (by rintro rfl; simp [h.missing] at hc), hc]

theorem kept (h : s.Adds s' piece content) : s'.content? piece = some content := by
  rw [h.content piece, if_pos rfl]

theorem growth {asked : List Piece} (h : s₁.Adds s' piece content)
    (hg : Growth source s asked s₁) (ho : Obtained source s s' piece content) :
    Growth source s asked s' := by
  refine hg.keep h.keeps h.history fun p c hn hc => ?_
  rw [h.content p] at hc
  split at hc
  next hp =>
    subst hp
    cases hc
    exact ho
  next => simp [hn] at hc

end Adds

theorem adds_tableNames (h : s.provider.keptNames = none) (c : Catalog String) :
    s.Adds (s.keepNames c) .tableNames (.names c) where
  context := rfl
  history := rfl
  missing := by simp [content?, h]
  content p := by cases p <;> simp [content?, face?, keepNames]

theorem adds_columns (h : s.provider.keptColumns = none) (c : ColumnCatalog) :
    s.Adds (s.keepColumns c) .columns (.columns c) where
  context := rfl
  history := rfl
  missing := by simp [content?, h]
  content p := by cases p <;> simp [content?, face?, keepColumns]

theorem adds_views (h : s.provider.keptViews = none) (c : Catalog String) :
    s.Adds (s.keepViews c) .views (.names c) where
  context := rfl
  history := rfl
  missing := by simp [content?, h]
  content p := by cases p <;> simp [content?, face?, keepViews]

theorem adds_finalColumns {number : Nat} {t : Table} (ht : s.handles[number]? = some t)
    (h : t.columns = none) (columns : List Column) :
    s.Adds (keepFinalColumns number t s columns) (.finalColumns number)
      (.finalColumns columns) where
  context := rfl
  history := rfl
  missing := by simp [content?, ht, h]
  content p := by
    obtain ⟨hlt, hget⟩ := List.getElem?_eq_some_iff.mp ht
    cases p with
    | face n =>
        by_cases hn : number = n
        · subst hn
          simp [content?, keepFinalColumns, face?, hlt, hget, Table.face]
        · simp [content?, keepFinalColumns, face?, List.getElem?_set_ne hn]
    | finalColumns n =>
        by_cases hn : number = n
        · subst hn
          simp [content?, keepFinalColumns, hlt]
        · simp [content?, keepFinalColumns, List.getElem?_set_ne hn, Ne.symm hn]
    | indexes n =>
        by_cases hn : number = n
        · subst hn
          simp [content?, keepFinalColumns, hlt, hget]
        · simp [content?, keepFinalColumns, List.getElem?_set_ne hn]
    | _ => simp [content?, keepFinalColumns]

theorem adds_indexes {number : Nat} {t : Table} (ht : s.handles[number]? = some t)
    (h : t.indexes = none) (indexes : List Index) :
    s.Adds (keepIndexes number s indexes) (.indexes number) (.indexes indexes) where
  context := rfl
  history := rfl
  missing := by simp [content?, ht, h]
  content p := by
    cases p with
    | face n =>
        by_cases hn : number = n
        · subst hn
          simp [content?, keepIndexes, face?, ht, Table.face]
        · simp [content?, keepIndexes, face?, hn]
    | finalColumns n =>
        by_cases hn : number = n
        · subst hn
          simp [content?, keepIndexes, ht]
        · simp [content?, keepIndexes, hn]
    | indexes n =>
        by_cases hn : number = n
        · subst hn
          simp [content?, keepIndexes, ht]
        · simp [content?, keepIndexes, hn, Ne.symm hn]
    | _ => simp [content?, keepIndexes]

end Session

end DatabaseSchema
