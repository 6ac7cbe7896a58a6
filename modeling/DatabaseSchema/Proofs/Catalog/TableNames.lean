import DatabaseSchema.Proofs.Act
import DatabaseSchema.Proofs.Catalog
import DatabaseSchema.Proofs.Columns
import DatabaseSchema.Proofs.Listwise
import DatabaseSchema.Proofs.RowGroups

namespace DatabaseSchema

theorem Policy.Known.tableName_eq {p : Policy} (h : p.Known) : p.tableName = Row.tableName := by
  cases h <;> rfl

def Row.tableDetails (r : Row) : Except CellError (Option String × Option String) := do
  let schema ← r.text? TableRow.schema
  let kind ← r.text? TableRow.kind
  return (schema, kind)

namespace Catalog

variable {p : Policy} {c : Catalog String} {name entry : String} {items before : List Item}
  {item : Item} {r : Row} {details : Option String × Option String} {e : SchemaError}

def keptName? (p : Policy) (r : Row) : Option String :=
  match r.tableName with
  | .ok name => if p.isSystemTable name || p.isIgnoredTable name then none else some name
  | .error _ => none

def keptNames (p : Policy) (items : List Item) : List String :=
  keysOf (keptName? p) items

inductive Refused (p : Policy) : Refusal Item SchemaError where
  | failed {before : List Item} (message : String) :
      Refused p before (.error message) (.query .tables (.source message))
  | name {before : List Item} {r : Row} {e : CellError} :
      r.tableName = .error e → Refused p before (.ok r) (.query .tables (.cell e))
  | details {before : List Item} {r : Row} {name : String} {e : CellError} :
      r.tableName = .ok name → r.tableDetails = .error e →
      Refused p before (.ok r) (.read (.table name) e)
  | taken {before : List Item} {r : Row} {details : Option String × Option String}
      {name entry : String} :
      keptName? p r = some name → r.tableDetails = .ok details →
      entry ∈ keptNames p before → nameKey entry = nameKey name →
      Refused p before (.ok r) (.duplicateName .table name)

def Readable (item : Item) : Prop :=
  ∃ r name details, item = .ok r ∧ r.tableName = .ok name ∧ r.tableDetails = .ok details

structure Listable (p : Policy) (items : List Item) : Prop where
  readable : ∀ item ∈ items, Readable item
  distinct : ((keptNames p items).map nameKey).Nodup

structure Lists (p : Policy) (items : List Item) (c : Catalog String) : Prop where
  kind : c.kind = .table
  wellFormed : c.WellFormed
  entries : c.entries = keptNames p items

theorem keptName?_eq_some_iff :
    keptName? p r = some name ↔
      r.tableName = .ok name ∧ p.isSystemTable name = false ∧ p.isIgnoredTable name = false := by
  unfold keptName?
  constructor
  · intro h
    split at h
    next other hother =>
      obtain ⟨hkept, hname⟩ := Option.ite_none_left_eq_some.mp h
      cases hname
      exact ⟨hother, by simpa using hkept⟩
    next => cases h
  · rintro ⟨hname, hsystem, hignored⟩
    simp [hname, hsystem, hignored]

theorem keptNames_append (items after : List Item) :
    keptNames p (items ++ after) = keptNames p items ++ keptNames p after := by
  simp [keptNames, keysOf, Item.rows]

theorem keptNames_kept (items : List Item) (h : keptName? p r = some name) :
    keptNames p (items ++ [.ok r]) = keptNames p items ++ [name] :=
  keysOf_row items h

theorem keptNames_other (items : List Item) (h : keptName? p r = none) :
    keptNames p (items ++ [.ok r]) = keptNames p items :=
  keysOf_other items h

theorem addTable_row (hp : p.tableName = Row.tableName) :
    (addTable p c (.ok r)).result = Subject.tables.check r.tableName >>= fun name =>
      (Part.table name).check r.tableDetails >>= fun _ =>
        if (p.isSystemTable name || p.isIgnoredTable name) = true then .ok c
        else c.insert name name := by
  unfold addTable Row.tableDetails
  simp only [Logged.result_bind, Logged.result_ofExcept, Logged.result_emit, Subject.row, ok_bind,
    hp]
  refine congrArg _ (funext fun name => ?_)
  cases r.text? TableRow.schema with
  | error e => rfl
  | ok schema =>
      cases r.text? TableRow.kind with
      | error e => rfl
      | ok kind => cases (p.isSystemTable name || p.isIgnoredTable name) <;> rfl

theorem addTable_skipped (hp : p.tableName = Row.tableName) (hname : r.tableName = .ok name)
    (hdetails : r.tableDetails = .ok details) (h : keptName? p r = none) :
    (addTable p c (.ok r)).result = .ok c := by
  have hout : (p.isSystemTable name || p.isIgnoredTable name) = true := by
    by_contra hkept
    simp [keptName?, hname, hkept] at h
  rw [addTable_row hp, hname, hdetails]
  simp only [Subject.check, Part.check, ok_bind]
  rw [if_pos hout]

theorem addTable_kept (hp : p.tableName = Row.tableName) (h : keptName? p r = some name)
    (hdetails : r.tableDetails = .ok details) :
    (addTable p c (.ok r)).result = c.insert name name := by
  obtain ⟨hname, hsystem, hignored⟩ := keptName?_eq_some_iff.mp h
  rw [addTable_row hp, hname, hdetails]
  simp [Subject.check, Part.check, hsystem, hignored]

theorem lists_nil (p : Policy) : Lists p [] (empty .table) where
  kind := rfl
  wellFormed := wellFormed_empty .table
  entries := rfl

theorem Lists.skip (h : Lists p before c) (hr : keptName? p r = none) :
    Lists p (before ++ [.ok r]) c where
  kind := h.kind
  wellFormed := h.wellFormed
  entries := by rw [keptNames_other before hr, h.entries]

theorem addTable_outcome (hp : p.tableName = Row.tableName) (h : Lists p before c) :
    (∃ c', (addTable p c item).result = .ok c' ∧ Lists p (before ++ [item]) c') ∨
      ∃ e, (addTable p c item).result = .error e ∧ Refused p before item e := by
  cases item with
  | error message => exact .inr ⟨_, rfl, .failed message⟩
  | ok r =>
      cases hname : r.tableName with
      | error e => exact .inr ⟨_, by rw [addTable_row hp, hname]; rfl, .name hname⟩
      | ok name =>
          cases hdetails : r.tableDetails with
          | error e =>
              refine .inr ⟨_, ?_, .details hname hdetails⟩
              rw [addTable_row hp, hname, hdetails]
              rfl
          | ok details =>
              cases hkept : keptName? p r with
              | none => exact .inl ⟨c, addTable_skipped hp hname hdetails hkept, h.skip hkept⟩
              | some name =>
                  rw [addTable_kept hp hkept hdetails]
                  by_cases htaken : ∃ entry ∈ c.entries, nameKey entry = nameKey name
                  · obtain ⟨entry, hentry, hkey⟩ := htaken
                    refine .inr ⟨_, h.wellFormed.insert_taken hentry hkey, ?_⟩
                    rw [h.kind]
                    exact .taken hkept hdetails (h.entries ▸ hentry) hkey
                  · obtain ⟨c', hc', hwf, hentries⟩ := h.wellFormed.insert_fresh
                      fun entry hentry hkey => htaken ⟨entry, hentry, hkey⟩
                    obtain ⟨-, rfl⟩ := insert_eq_ok.mp hc'
                    refine .inl ⟨_, hc', h.kind, hwf, ?_⟩
                    rw [hentries, h.entries, keptNames_kept before hkept]

theorem addTable_refused (hp : p.tableName = Row.tableName) (h : Lists p before c)
    (hr : Refused p before item e) : (addTable p c item).result = .error e := by
  cases hr with
  | failed message => rfl
  | name hname =>
      rw [addTable_row hp, hname]
      rfl
  | details hname hdetails =>
      rw [addTable_row hp, hname, hdetails]
      rfl
  | taken hkept hdetails hentry hkey =>
      rw [addTable_kept hp hkept hdetails, h.wellFormed.insert_taken (h.entries ▸ hentry) hkey,
        h.kind]

theorem addTable_governed (hp : p.tableName = Row.tableName) :
    (Refused p).Governs (fun c item => (addTable p c item).result) (Lists p) where
  outcome h := addTable_outcome hp h
  refused h := addTable_refused hp h

theorem listable_nil (p : Policy) : Listable p [] where
  readable := by simp
  distinct := by simp [keptNames, keysOf, Item.rows]

theorem Listable.of_append {after : List Item} (h : Listable p (items ++ after)) :
    Listable p items where
  readable item hitem := h.readable item (List.mem_append_left after hitem)
  distinct := by
    have hdistinct := h.distinct
    rw [keptNames_append, List.map_append] at hdistinct
    exact hdistinct.of_append_left

theorem Listable.not_refused (h : Listable p (items ++ [item])) : ¬Refused p items item e := by
  intro hr
  obtain ⟨r, name, details, rfl, hname, hdetails⟩ :=
    h.readable item (List.mem_append_right items (List.mem_singleton.mpr rfl))
  cases hr with
  | name he => cases he.symm.trans hname
  | details _ he => cases he.symm.trans hdetails
  | taken hkept _ hentry hkey =>
      have hdistinct := h.distinct
      rw [keptNames_kept items hkept, List.map_append, List.map_singleton,
        List.nodup_append] at hdistinct
      exact hdistinct.2.2 _ (List.mem_map_of_mem hentry) _ (List.mem_singleton.mpr rfl) hkey

theorem readable_of_not_refused (hr : ∀ e, ¬Refused p items item e) : Readable item := by
  cases item with
  | error message => exact absurd (.failed message) (hr _)
  | ok r =>
      cases hname : r.tableName with
      | error e => exact absurd (.name hname) (hr _)
      | ok name =>
          cases hdetails : r.tableDetails with
          | error e => exact absurd (.details hname hdetails) (hr _)
          | ok details => exact ⟨r, name, details, rfl, hname, hdetails⟩

theorem Listable.concat (h : Listable p items) (hr : ∀ e, ¬Refused p items item e) :
    Listable p (items ++ [item]) := by
  have hreadable := readable_of_not_refused hr
  constructor
  case readable => exact List.forall_mem_append.mpr ⟨h.readable, by simpa using hreadable⟩
  case distinct =>
    obtain ⟨r, name, details, rfl, hname, hdetails⟩ := hreadable
    cases hkept : keptName? p r with
    | none =>
        rw [keptNames_other items hkept]
        exact h.distinct
    | some name =>
        rw [keptNames_kept items hkept, List.map_append, List.map_singleton,
          ← List.concat_eq_append]
        refine List.Nodup.concat (fun htaken => ?_) h.distinct
        obtain ⟨entry, hentry, hkey⟩ := List.mem_map.mp htaken
        exact hr _ (.taken hkept hdetails hentry hkey)

theorem accepts_refused_iff : (Refused p).Accepts items ↔ Listable p items := by
  -- from the end: whether a name is taken is a matter of the items before it
  induction items using List.reverseRecOn with
  | nil => exact iff_of_true (Refusal.accepts_nil _) (listable_nil p)
  | append_singleton items item ih =>
      rw [Refusal.accepts_concat_iff, ih]
      exact ⟨fun h => h.1.concat h.2, fun h => ⟨h.of_append, fun e => h.not_refused⟩⟩

theorem result_tableNames (p : Policy) (answer : Items) :
    (tableNames p answer).result = Subject.tables.items answer >>= fun items =>
      items.foldlM (fun c item => (addTable p c item).result) (empty .table) := by
  unfold tableNames
  simp only [Logged.result_bind, Logged.result_ofExcept, Logged.result_foldlM]
  refine congrArg _ (funext fun items => ?_)
  cases items.foldlM (fun c item => (addTable p c item).result) (empty .table) <;> rfl

theorem tableNames_skipped (hp : p.tableName = Row.tableName) (hname : r.tableName = .ok name)
    (hdetails : r.tableDetails = .ok details) (h : keptName? p r = none)
    (before after : List Item) :
    (tableNames p (.ok (before ++ .ok r :: after))).result =
      (tableNames p (.ok (before ++ after))).result := by
  simp only [result_tableNames, Subject.items, ok_bind, List.foldlM_append, List.foldlM_cons,
    addTable_skipped hp hname hdetails h]

end Catalog

open Catalog

theorem Context.loadTableNames_listed {context : Context} (hp : context.policy.Known)
    (source : Source) (s : Session) :
    let policy := context.policy
    let answer := (source.answer s.history (.tables context.schema policy.tableKinds)).items
    let result := (context.loadTableNames.run source s).1
    ((∃ c, result = .ok c) ↔ ∃ items, answer = .ok items ∧ Listable policy items) ∧
      (∀ c, result = .ok c → ∃ items, answer = .ok items ∧ Lists policy items c) ∧
      (∀ e, result = .error e ↔
        (∃ message, answer = .error message ∧ e = .query .tables (.source message)) ∨
          ∃ before item after, answer = .ok (before ++ item :: after) ∧
            Listable policy before ∧ Refused policy before item e) ∧
      ∀ before after r, Readable (.ok r) → keptName? policy r = none →
        (tableNames policy (.ok (before ++ .ok r :: after))).result =
          (tableNames policy (.ok (before ++ after))).result := by
  intro policy answer result
  have hgoverned := addTable_governed (p := policy) hp.tableName_eq
  have hstart := lists_nil policy
  have hresult : result = Subject.tables.items answer >>= fun items =>
      items.foldlM (fun c item => (addTable policy c item).result) (empty .table) := by
    obtain ⟨events, hrun⟩ := context.run_loadTableNames
    rw [← result_tableNames]
    exact congrArg Prod.fst hrun
  refine ⟨?_, fun c hc => ?_, fun e => ?_, ?_⟩
  · rw [hresult]
    cases answer with
    | error message => exact iff_of_false nofun nofun
    | ok items =>
        rw [Subject.items, ok_bind, hgoverned.exists_foldlM_eq_ok_iff hstart, accepts_refused_iff]
        simp
  · obtain ⟨items, hitems, hfold⟩ := bind_eq_ok.mp (hresult.symm.trans hc)
    exact ⟨items, Subject.items_eq_ok.mp hitems, hgoverned.of_foldlM hstart hfold⟩
  · rw [hresult]
    cases answer with
    | error message => simp [Subject.items, eq_comm]
    | ok items =>
        rw [Subject.items, ok_bind, hgoverned.foldlM_eq_error_iff hstart]
        simp only [Refusal.Stops, accepts_refused_iff]
        simp
  · rintro before after r ⟨_, name, details, ⟨⟩, hname, hdetails⟩ hkept
    exact tableNames_skipped hp.tableName_eq hname hdetails hkept before after

theorem Context.loadTableNames_listed_ignored :
    let row (name : String) : Item := .ok ⟨[.null, .text name, .text "TABLE"]⟩
    let context : Context :=
      { policy := StandardPolicy.toPolicy { ignoredTables := Pattern.parse? .ofSize true "^TMP_" } }
    let before := [row "tmp_a", row "Orders", row "TMP_A"]
    let result (items : List Item) :=
      (context.loadTableNames.run ⟨fun _ _ => ⟨.ok items, []⟩⟩ (.start context)).1
    context.policy.Known ∧
      (∃ c, result before = .ok c ∧ Listable context.policy before ∧ c.entries = ["Orders"]) ∧
      Readable (row "tmp_a") ∧
      ∃ before' item after, before ++ [row "ORDERS"] = before' ++ item :: after ∧
        Listable context.policy before' ∧
        Refused context.policy before' item (.duplicateName .table "ORDERS") := by
  intro row context before result
  have hknown : context.policy.Known := .standard _
  have hentries : (result before).toOption.map (·.entries) = some ["Orders"] := by decide +kernel
  have htaken : result (before ++ [row "ORDERS"]) = .error (.duplicateName .table "ORDERS") := by
    decide +kernel
  obtain ⟨hlistable, -⟩ :=
    loadTableNames_listed hknown ⟨fun _ _ => ⟨.ok before, []⟩⟩ (.start context)
  obtain ⟨-, -, hrefused, -⟩ :=
    loadTableNames_listed hknown ⟨fun _ _ => ⟨.ok (before ++ [row "ORDERS"]), []⟩⟩ (.start context)
  refine ⟨hknown, ?_, ⟨_, _, _, rfl, rfl, rfl⟩, ?_⟩
  · cases hc : result before with
    | error e =>
        rw [hc] at hentries
        cases hentries
    | ok c =>
        obtain ⟨_, ⟨⟩, hlistable⟩ := hlistable.mp ⟨c, hc⟩
        rw [hc] at hentries
        exact ⟨c, rfl, hlistable, Option.some.inj hentries⟩
  · obtain ⟨_, ⟨⟩, -⟩ | ⟨before', item, after, hitems, hstops⟩ := (hrefused _).mp htaken
    exact ⟨before', item, after, Except.ok.inj hitems, hstops⟩

end DatabaseSchema
