import DatabaseSchema.Proofs.Sqlite.ColumnRows
import DatabaseSchema.Sqlite.Database

namespace DatabaseSchema.Sqlite

variable {d d' : Database} {s s' : Schema} {name : String}
  {statement : Statement}

theorem sameAscii_iff {a b : String} :
    Text.sameAscii a b = true ↔ a.map Char.toLower = b.map Char.toLower :=
  beq_iff_eq

theorem isSystemName_of_sameAscii {a b : String} (h : Text.sameAscii a b = true) :
    isSystemName a = isSystemName b := by
  rw [isSystemName, isSystemName, sameAscii_iff.mp h]

theorem schema?_updateSchema (h : d.schema? name = some s) (hname : s'.name = s.name) :
    (d.updateSchema s.name fun _ => s').schema? name = some s' := by
  obtain ⟨hs, before, after, hschemas, hbefore⟩ := List.find?_eq_some_iff_append.mp h
  refine List.find?_eq_some_iff_append.mpr
    ⟨hname ▸ hs, before, after.map fun r => if Text.sameAscii r.name s.name then s' else r, ?_,
      hbefore⟩
  have hkept : before.map (fun r => if Text.sameAscii r.name s.name then s' else r) = before := by
    refine (List.map_congr_left fun r hr => if_neg fun hsame => ?_).trans (List.map_id before)
    have hother := hbefore r hr
    rw [sameAscii_iff.mpr ((sameAscii_iff.mp hsame).trans (sameAscii_iff.mp hs))] at hother
    cases hother
  show d.schemas.map _ = _
  rw [hschemas, List.map_append, List.map_cons, hkept, if_pos (sameAscii_iff.mpr rfl)]

def StoredObject.entry (o : StoredObject) : MasterEntry := ⟨o.name, o.kind, some o.sql⟩

def Schema.entries (s : Schema) : List MasterEntry :=
  (s.objects.map StoredObject.entry).mergeSort fun a b => a.name ≤ b.name

section Answers

variable (hs : d.schema? name = some s)

include hs

theorem master_eq : d.pragmas.master name = .ok s.entries := by
  show d.master name = _
  rw [Database.master, hs]
  rfl

theorem tableInfo_eq (table : String) :
    d.pragmas.tableInfo name table = .ok (((s.object? table).map (·.columns)).getD []) := by
  show d.tableInfo name table = _
  rw [Database.tableInfo, Database.objectOf?, Database.requireSchema, hs]
  rfl

end Answers

def Schema.Reserved (s : Schema) : Prop :=
  ∀ o ∈ s.objects, isSystemName o.name = true → ∀ i ∈ o.columns, i.key = 0

inductive Schema.Becomes (s s' : Schema) : Prop where
  | table {t : TableDefinition} : s.createTable t = some s' → Becomes s s'
  | view {name : String} : s.createView name = some s' → Becomes s s'
  | index {i : IndexDefinition} : s.createIndex i = some s' → Becomes s s'
  | noIndex {name : String} : s.dropIndex name = some s' → Becomes s s'
  | noObject {kind : ObjectKind} {name : String} : s.dropObject kind name = some s' → Becomes s s'

namespace Database

theorem mem_of_schema? (h : d.schema? name = some s) : s ∈ d.schemas :=
  List.mem_of_find?_eq_some h

theorem mem_of_locate? {database : Option String} {holds : Schema → Bool}
    (h : d.locate? database holds = some s) : s ∈ d.schemas := by
  cases database with
  | some name => exact mem_of_schema? (Option.filter_eq_some_iff.mp h).1
  | none =>
      have hmem := List.mem_of_find?_eq_some h
      rcases List.mem_append.mp hmem with hmem | hmem
      · exact (List.mem_filter.mp hmem).1
      · exact (List.mem_filter.mp hmem).1

theorem mem_of_indexSchema? {database : Option String} {table : String}
    (h : d.indexSchema? database table = some s) : s ∈ d.schemas := by
  cases database with
  | some name => exact mem_of_schema? h
  | none =>
      simp only [indexSchema?] at h
      split at h
      next s' hs =>
        cases h
        exact mem_of_schema? (Option.filter_eq_some_iff.mp hs).1
      next => exact mem_of_schema? h

theorem execute_cases (h : d.execute statement = some d') :
    (∃ name, d' = ⟨d.schemas ++ [⟨name, []⟩]⟩) ∨
      ∃ s ∈ d.schemas, ∃ s', s.Becomes s' ∧ d' = d.updateSchema s.name fun _ => s' := by
  cases statement with
  | attach name =>
      simp only [execute] at h
      split at h
      next => cases h
      next => exact .inl ⟨name, (Option.some.inj h).symm⟩
  | createTable database t =>
      obtain ⟨s, hs, h⟩ := Option.bind_eq_some_iff.mp h
      obtain ⟨s', hs', rfl⟩ := Option.map_eq_some_iff.mp h
      exact .inr ⟨s, mem_of_schema? hs, s', .table hs', rfl⟩
  | createView database name =>
      obtain ⟨s, hs, h⟩ := Option.bind_eq_some_iff.mp h
      obtain ⟨s', hs', rfl⟩ := Option.map_eq_some_iff.mp h
      exact .inr ⟨s, mem_of_schema? hs, s', .view hs', rfl⟩
  | createIndex database i =>
      obtain ⟨s, hs, h⟩ := Option.bind_eq_some_iff.mp h
      obtain ⟨s', hs', rfl⟩ := Option.map_eq_some_iff.mp h
      exact .inr ⟨s, mem_of_indexSchema? hs, s', .index hs', rfl⟩
  | drop database kind name =>
      cases kind <;>
        (obtain ⟨s, hs, h⟩ := Option.bind_eq_some_iff.mp h
         obtain ⟨s', hs', rfl⟩ := Option.map_eq_some_iff.mp h)
      case table => exact .inr ⟨s, mem_of_locate? hs, s', .noObject hs', rfl⟩
      case index => exact .inr ⟨s, mem_of_locate? hs, s', .noIndex hs', rfl⟩
      case view => exact .inr ⟨s, mem_of_locate? hs, s', .noObject hs', rfl⟩

end Database

namespace Schema

theorem Reserved.of_objects (h : s.Reserved) (hsame : ∀ o' ∈ s'.objects,
    (∃ o ∈ s.objects, o'.name = o.name ∧ o'.columns = o.columns) ∨
      isSystemName o'.name = false ∨ ∀ i ∈ o'.columns, i.key = 0) : s'.Reserved := by
  intro o' ho' hsystem
  obtain ⟨o, ho, hname, hcolumns⟩ | hname | hkeys := hsame o' ho'
  · rw [hcolumns]
    exact h o ho (hname ▸ hsystem)
  · rw [hname] at hsystem
    cases hsystem
  · exact hkeys

theorem isSystemName_of_isFree (h : s.isFree name = true) : isSystemName name = false := by
  simp only [isFree, Bool.and_eq_true, Bool.not_eq_true'] at h
  exact h.2

theorem createTable_eq_some {t : TableDefinition} (h : s.createTable t = some s') :
    s.isFree t.name = true ∧ s'.name = s.name ∧
      ∃ further ⊆ [sequenceTable], s'.objects = s.objects ++ t.stored :: further := by
  unfold createTable at h
  split at h
  next hfree =>
    cases h
    refine ⟨(Bool.and_eq_true_iff.mp hfree).1, rfl, _, ?_, List.append_assoc _ _ _⟩
    split
    · exact List.Subset.refl _
    · exact List.nil_subset _
  next => cases h

theorem createView_eq_some (h : s.createView name = some s') :
    s.isFree name = true ∧ s'.objects = s.objects ++ [viewObject name] := by
  unfold createView at h
  split at h
  next hfree =>
    cases h
    exact ⟨hfree, rfl⟩
  next => cases h

def Retains (s s' : Schema) : Prop :=
  ∀ o' ∈ s'.objects, ∃ o ∈ s.objects, o'.name = o.name ∧ o'.columns = o.columns

theorem retains_of_createIndex {i : IndexDefinition} (h : s.createIndex i = some s') :
    s.Retains s' := by
  obtain ⟨o, -, h⟩ := Option.bind_eq_some_iff.mp h
  split at h
  next => cases h
  next =>
    obtain ⟨columns, -, h⟩ := Option.bind_eq_some_iff.mp h
    cases h
    intro o' ho'
    obtain ⟨o₀, ho₀, rfl⟩ := List.mem_map.mp ho'
    refine ⟨o₀, ho₀, ?_⟩
    split
    next => exact ⟨rfl, rfl⟩
    next => exact ⟨rfl, rfl⟩

theorem retains_of_dropIndex (h : s.dropIndex name = some s') : s.Retains s' := by
  unfold dropIndex at h
  simp only at h
  split at h
  next =>
    cases h
    intro o' ho'
    obtain ⟨o, ho, rfl⟩ := List.mem_map.mp ho'
    exact ⟨o, ho, rfl, rfl⟩
  next => cases h

theorem retains_of_dropObject {kind : ObjectKind} (h : s.dropObject kind name = some s') :
    s.Retains s' := by
  obtain ⟨o, -, h⟩ := Option.bind_eq_some_iff.mp h
  split at h
  next =>
    cases h
    exact fun o' ho' => ⟨o', (List.mem_filter.mp ho').1, rfl, rfl⟩
  next => cases h

theorem Becomes.reserved (h : s.Becomes s') (hr : s.Reserved) : s'.Reserved := by
  refine hr.of_objects fun o' ho' => ?_
  cases h with
  | table h =>
      obtain ⟨hfree, -, further, hfurther, hobjects⟩ := createTable_eq_some h
      rw [hobjects] at ho'
      rcases List.mem_append.mp ho' with ho' | ho'
      · exact .inl ⟨o', ho', rfl, rfl⟩
      rcases List.mem_cons.mp ho' with rfl | ho'
      · exact .inr (.inl (isSystemName_of_isFree hfree))
      · rw [List.mem_singleton.mp (hfurther ho')]
        exact .inr (.inr (by decide))
  | view h =>
      obtain ⟨hfree, hobjects⟩ := createView_eq_some h
      rw [hobjects] at ho'
      rcases List.mem_append.mp ho' with ho' | ho'
      · exact .inl ⟨o', ho', rfl, rfl⟩
      · rw [List.mem_singleton.mp ho']
        exact .inr (.inl (isSystemName_of_isFree hfree))
  | index h => exact .inl (retains_of_createIndex h o' ho')
  | noIndex h => exact .inl (retains_of_dropIndex h o' ho')
  | noObject h => exact .inl (retains_of_dropObject h o' ho')

end Schema

def Database.Reserved (d : Database) : Prop := ∀ s ∈ d.schemas, s.Reserved

theorem Database.execute_reserved (h : d.execute statement = some d') (hr : d.Reserved) :
    d'.Reserved := by
  intro s' hs'
  obtain ⟨name, rfl⟩ | ⟨s, hs, s₁, hbecomes, rfl⟩ := Database.execute_cases h
  · rcases List.mem_append.mp hs' with hs' | hs'
    · exact hr s' hs'
    · rw [List.mem_singleton.mp hs']
      exact nofun
  · obtain ⟨s₂, hs₂, rfl⟩ := List.mem_map.mp hs'
    split
    next => exact hbecomes.reserved (hr s hs)
    next => exact hr s₂ hs₂

theorem Database.build_reserved (statements : List Statement) :
    (Database.build statements).Reserved := by
  induction statements using List.reverseRecOn with
  | nil =>
      intro s hs
      rcases List.mem_pair.mp hs with rfl | rfl
      · exact nofun
      · exact nofun
  | append_singleton statements statement ih =>
      rw [Database.build, List.foldl_append, List.foldl_cons, List.foldl_nil]
      show ((Database.build statements).execute statement |>.getD _).Reserved
      cases h : (Database.build statements).execute statement with
      | some d => exact Database.execute_reserved h ih
      | none => exact ih

end DatabaseSchema.Sqlite
