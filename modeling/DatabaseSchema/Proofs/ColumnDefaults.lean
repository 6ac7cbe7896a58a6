import DatabaseSchema.Proofs.Act
import DatabaseSchema.Proofs.Columns.Conversion
import DatabaseSchema.Proofs.DefaultPolicies
import Mathlib.Data.List.Induction

namespace DatabaseSchema

namespace StandardPolicy

variable {p : StandardPolicy} {column name value : String}

inductive Call where
  | systemTables (pattern : Pattern)
  | ignoredTables (pattern : Pattern)
  | ignoredIndexes (pattern : Option Pattern)
  | keyIndexName (name : String)
  | columnDefault (column value : String)
  | noColumnDefaults

def Call.apply (p : StandardPolicy) : Call → StandardPolicy
  | systemTables pattern => { p with systemTables := some pattern }
  | ignoredTables pattern => { p with ignoredTables := some pattern }
  | ignoredIndexes pattern => { p with ignoredIndexes := pattern }
  | keyIndexName name => { p with keyIndexName := name }
  | columnDefault column value => p.withColumnDefault column value
  | noColumnDefaults => p.withoutColumnDefaults

def ofCalls (calls : List Call) : StandardPolicy := calls.foldl Call.apply {}

def Call.Spares (column : String) : Call → Prop
  | columnDefault name _ => nameKey name ≠ nameKey column
  | noColumnDefaults => False
  | _ => True

def LastSet (calls : List Call) (column value : String) : Prop :=
  ∃ before name after, calls = before ++ .columnDefault name value :: after ∧
    nameKey name = nameKey column ∧ ∀ call ∈ after, call.Spares column

inductive DefaultsTo (initial : String) (calls : List Call) (column : String) : String → Prop where
  | set {value : String} : LastSet calls column value → DefaultsTo initial calls column value
  | kept : (∀ value, ¬LastSet calls column value) → .noColumnDefaults ∉ calls →
      DefaultsTo initial calls column initial
  | dropped : (∀ value, ¬LastSet calls column value) → .noColumnDefaults ∈ calls →
      DefaultsTo initial calls column ""

variable {calls : List Call} {call : Call} {initial : String}

theorem columnDefault_set (h : nameKey name = nameKey column) :
    (p.withColumnDefault name value).columnDefault column = value := by
  simp [columnDefault, withColumnDefault, h]

theorem columnDefault_dropped : p.withoutColumnDefaults.columnDefault column = "" := rfl

theorem columnDefault_spared (h : call.Spares column) :
    (call.apply p).columnDefault column = p.columnDefault column := by
  cases call with
  | columnDefault name value =>
      have hb : (nameKey column == nameKey name) = false := by simpa using Ne.symm h
      simp [columnDefault, Call.apply, withColumnDefault, List.lookup_cons, hb]
  | noColumnDefaults => exact h.elim
  | systemTables | ignoredTables | ignoredIndexes | keyIndexName => rfl

theorem not_lastSet_nil : ¬LastSet [] column value := by
  rintro ⟨before, name, after, heq, -⟩
  simp at heq

theorem lastSet_concat_iff :
    LastSet (calls ++ [call]) column value ↔
      (∃ name, call = .columnDefault name value ∧ nameKey name = nameKey column) ∨
        (call.Spares column ∧ LastSet calls column value) := by
  constructor
  · rintro ⟨before, name, after, heq, hkey, hspares⟩
    obtain rfl | ⟨rest, last, rfl⟩ := List.eq_nil_or_concat after
    · obtain ⟨-, hlast⟩ := List.append_inj' heq rfl
      exact .inl ⟨name, by simpa using hlast, hkey⟩
    · have heq' : calls ++ [call] = (before ++ .columnDefault name value :: rest) ++ [last] := by
        simpa using heq
      obtain ⟨rfl, hlast⟩ := List.append_inj' heq' rfl
      obtain rfl : call = last := by simpa using hlast
      refine .inr ⟨hspares call (by simp), before, name, rest, rfl, hkey, fun c hc => ?_⟩
      exact hspares c (by simp [hc])
  · rintro (⟨name, rfl, hkey⟩ | ⟨hspares, before, name, after, rfl, hkey, hafter⟩)
    · exact ⟨calls, name, [], rfl, hkey, nofun⟩
    · refine ⟨before, name, after ++ [call], by simp, hkey, fun c hc => ?_⟩
      rcases List.mem_append.mp hc with hc | hc
      · exact hafter c hc
      · rw [List.mem_singleton.mp hc]
        exact hspares

theorem exists_lastSet (hkept : .noColumnDefaults ∉ calls)
    (hcall : ∃ call ∈ calls, ¬call.Spares column) : ∃ value, LastSet calls column value := by
  induction calls using List.reverseRecOn with
  | nil => simp at hcall
  | append_singleton calls last ih =>
      by_cases hspares : last.Spares column
      · obtain ⟨call, hmem, hcall⟩ := hcall
        have hearlier : call ∈ calls := by
          rcases List.mem_append.mp hmem with hmem | hmem
          · exact hmem
          · exact absurd (List.mem_singleton.mp hmem ▸ hspares) hcall
        obtain ⟨value, hset⟩ := ih (fun h => hkept (List.mem_append_left _ h)) ⟨call, hearlier, hcall⟩
        exact ⟨value, lastSet_concat_iff.mpr (.inr ⟨hspares, hset⟩)⟩
      · cases last with
        | columnDefault name value =>
            exact ⟨value, lastSet_concat_iff.mpr (.inl ⟨name, rfl, not_not.mp hspares⟩)⟩
        | noColumnDefaults => exact absurd (by simp) hkept
        | systemTables | ignoredTables | ignoredIndexes | keyIndexName =>
            exact absurd trivial hspares

theorem defaultsTo_set (h : nameKey name = nameKey column) {value' : String} :
    DefaultsTo initial (calls ++ [.columnDefault name value]) column value' ↔ value = value' := by
  have hlast : LastSet (calls ++ [.columnDefault name value]) column value :=
    lastSet_concat_iff.mpr (.inl ⟨name, rfl, h⟩)
  constructor
  · intro hto
    cases hto with
    | set hset =>
        obtain ⟨_, hcall, -⟩ | ⟨hspares, -⟩ := lastSet_concat_iff.mp hset
        · cases hcall
          rfl
        · exact absurd h hspares
    | kept hnone | dropped hnone => exact absurd hlast (hnone value)
  · rintro rfl
    exact .set hlast

theorem defaultsTo_dropped :
    DefaultsTo initial (calls ++ [.noColumnDefaults]) column value ↔ "" = value := by
  have hnone : ∀ value, ¬LastSet (calls ++ [.noColumnDefaults]) column value := by
    intro value hset
    obtain ⟨_, ⟨⟩, -⟩ | ⟨hspares, -⟩ := lastSet_concat_iff.mp hset
    exact hspares
  constructor
  · intro hto
    cases hto with
    | set hset => exact absurd hset (hnone value)
    | kept _ hmem => exact absurd (by simp) hmem
    | dropped => rfl
  · rintro rfl
    exact .dropped hnone (by simp)

theorem DefaultsTo.congr {calls' : List Call} (h : DefaultsTo initial calls column value)
    (hset : ∀ value, LastSet calls column value ↔ LastSet calls' column value)
    (hdropped : .noColumnDefaults ∈ calls ↔ .noColumnDefaults ∈ calls') :
    DefaultsTo initial calls' column value := by
  cases h with
  | set hlast => exact .set ((hset value).mp hlast)
  | kept hnone hkept =>
      exact .kept (fun value => mt (hset value).mpr (hnone value)) (mt hdropped.mpr hkept)
  | dropped hnone hmem =>
      exact .dropped (fun value => mt (hset value).mpr (hnone value)) (hdropped.mp hmem)

theorem defaultsTo_spared (h : call.Spares column) :
    DefaultsTo initial (calls ++ [call]) column value ↔ DefaultsTo initial calls column value := by
  have hset : ∀ value, LastSet (calls ++ [call]) column value ↔ LastSet calls column value := by
    intro value
    rw [lastSet_concat_iff]
    constructor
    · rintro (⟨name, rfl, hkey⟩ | ⟨-, hset⟩)
      · exact absurd hkey h
      · exact hset
    · exact fun hset => .inr ⟨h, hset⟩
  have hdropped : Call.noColumnDefaults ∈ calls ++ [call] ↔ Call.noColumnDefaults ∈ calls := by
    rw [List.mem_append, List.mem_singleton]
    refine or_iff_left ?_
    rintro rfl
    exact h
  exact ⟨fun hto => hto.congr hset hdropped,
    fun hto => hto.congr (fun value => (hset value).symm) hdropped.symm⟩

theorem defaultsTo_nil : DefaultsTo initial [] column value ↔ initial = value := by
  constructor
  · intro hto
    cases hto with
    | set hset => exact absurd hset not_lastSet_nil
    | kept => rfl
    | dropped _ hmem => cases hmem
  · rintro rfl
    exact .kept (fun _ => not_lastSet_nil) nofun

theorem columnDefault_foldl (p : StandardPolicy) (calls : List Call) (column value : String) :
    (calls.foldl Call.apply p).columnDefault column = value ↔
      DefaultsTo (p.columnDefault column) calls column value := by
  -- from the end: only calls after the last setting for the column count
  induction calls using List.reverseRecOn with
  | nil => exact defaultsTo_nil.symm
  | append_singleton calls call ih =>
      rw [List.foldl_append, List.foldl_cons, List.foldl_nil]
      by_cases hspares : call.Spares column
      · rw [columnDefault_spared hspares, ih, defaultsTo_spared hspares]
      · cases call with
        | columnDefault name given =>
            have hkey : nameKey name = nameKey column := not_not.mp hspares
            rw [defaultsTo_set hkey, Call.apply, columnDefault_set hkey]
        | noColumnDefaults => rw [defaultsTo_dropped, Call.apply, columnDefault_dropped]
        | systemTables | ignoredTables | ignoredIndexes | keyIndexName =>
            exact absurd trivial hspares

end StandardPolicy

namespace ColumnDefaults

variable {d : ColumnDefaults} {column value : String} {e : String × String}

structure Greatest (d : ColumnDefaults) (column : String) (e : String × String) : Prop where
  mem : e ∈ d.entries
  key : nameKey e.1 = nameKey column
  greatest : ∀ e' ∈ d.entries, nameKey e'.1 = nameKey column → e'.1 ≤ e.1

inductive Settles (d : ColumnDefaults) (column : String) : String → Prop where
  | listed {name value : String} : d.Greatest column (name, value) → Settles d column value
  | unlisted : (∀ e ∈ d.entries, nameKey e.1 ≠ nameKey column) → Settles d column ""

def calls (d : ColumnDefaults) : List StandardPolicy.Call :=
  d.entries.map fun e => .columnDefault e.1 e.2

theorem lastSet_calls_iff :
    StandardPolicy.LastSet d.calls column value ↔ ∃ name, d.Greatest column (name, value) := by
  have hordered := d.ordered
  constructor
  · rintro ⟨before, name, after, heq, hkey, hspares⟩
    obtain ⟨first, rest, hentries, -, hrest⟩ := List.map_eq_append_iff.mp heq
    obtain ⟨e, last, rfl, he, rfl⟩ := List.map_eq_cons_iff.mp hrest
    cases he
    rw [hentries, List.pairwise_append] at hordered
    obtain ⟨-, -, hfirst⟩ := hordered
    refine ⟨e.1, by simp [hentries], hkey, fun e' he' hkey' => ?_⟩
    rw [hentries, List.mem_append, List.mem_cons] at he'
    rcases he' with he' | rfl | he'
    · exact String.not_lt.mp (String.lt_asymm (hfirst e' he' e (by simp)))
    · exact String.le_refl _
    · exact absurd hkey' (hspares _ (List.mem_map_of_mem he'))
  · rintro ⟨name, hmem, hkey, hgreatest⟩
    obtain ⟨first, last, hentries⟩ := List.append_of_mem hmem
    refine ⟨_, name, _, by rw [calls, hentries, List.map_append, List.map_cons], hkey, ?_⟩
    rw [hentries, List.pairwise_append, List.pairwise_cons] at hordered
    obtain ⟨-, ⟨hlast, -⟩, -⟩ := hordered
    intro call hcall
    obtain ⟨e, he, rfl⟩ := List.mem_map.mp hcall
    intro hkey'
    exact hgreatest e (by simp [hentries, he]) hkey' (hlast e he)

theorem defaultsTo_calls_iff :
    StandardPolicy.DefaultsTo "" d.calls column value ↔ d.Settles column value := by
  have hkept : StandardPolicy.Call.noColumnDefaults ∉ d.calls := by simp [calls]
  constructor
  · intro h
    cases h with
    | set hset =>
        obtain ⟨name, hgreatest⟩ := lastSet_calls_iff.mp hset
        exact .listed hgreatest
    | kept hnone =>
        refine .unlisted fun e he hkey => ?_
        obtain ⟨value, hset⟩ := StandardPolicy.exists_lastSet hkept
          ⟨_, List.mem_map_of_mem he, fun hspares => hspares hkey⟩
        exact hnone value hset
    | dropped _ hdropped => exact absurd hdropped hkept
  · intro h
    cases h with
    | listed hgreatest => exact .set (lastSet_calls_iff.mpr ⟨_, hgreatest⟩)
    | unlisted hnone =>
        refine .kept (fun value hset => ?_) hkept
        obtain ⟨name, hgreatest⟩ := lastSet_calls_iff.mp hset
        exact hnone _ hgreatest.mem hgreatest.key

end ColumnDefaults

namespace MetadataSettings

variable {limit : Pattern.SizeLimit} {m : MetadataSettings} {text : String}

def Compiles (limit : Pattern.SizeLimit) (m : MetadataSettings) : Prop :=
  ∀ text ∈ [m.ignoredIndexes, m.ignoredTables, m.systemTables],
    text = "" ∨ (Pattern.parse? limit true text).isSome

theorem exists_pattern (setting : PatternSetting)
    (h : text = "" ∨ (Pattern.parse? limit true text).isSome) :
    ∃ p?, pattern limit setting text = .ok p? := by
  unfold pattern
  split
  next => exact ⟨none, rfl⟩
  next hne =>
    obtain rfl | hsome := h
    · exact absurd rfl hne
    · obtain ⟨p, hp⟩ := Option.isSome_iff_exists.mp hsome
      exact ⟨some p, by rw [hp]⟩

theorem policy_of_compiles (h : m.Compiles limit) :
    ∃ q : StandardPolicy, q.columnDefaults = [] ∧
      m.policy limit = .ok (m.columnDefaults.calls.foldl StandardPolicy.Call.apply q) := by
  obtain ⟨ignoredIndexes, hindexes⟩ :=
    exists_pattern .ignoredIndexes (h m.ignoredIndexes (by simp))
  obtain ⟨ignoredTables, htables⟩ := exists_pattern .ignoredTables (h m.ignoredTables (by simp))
  obtain ⟨systemTables, hsystem⟩ := exists_pattern .systemTables (h m.systemTables (by simp))
  let q : StandardPolicy :=
    { systemTables, ignoredTables, ignoredIndexes, keyIndexName := m.keyIndexName,
      columnDefaults := [] }
  refine ⟨q, rfl, ?_⟩
  rw [policy, hindexes, htables, hsystem, ColumnDefaults.calls, List.foldl_map]
  rfl

theorem columnDefault_policy {q : StandardPolicy} (hq : q.columnDefaults = [])
    (column value : String) :
    (m.columnDefaults.calls.foldl StandardPolicy.Call.apply q).columnDefault column = value ↔
      m.columnDefaults.Settles column value := by
  have hnone : q.columnDefault column = "" := by rw [StandardPolicy.columnDefault, hq]; rfl
  rw [StandardPolicy.columnDefault_foldl, hnone, ColumnDefaults.defaultsTo_calls_iff]

end MetadataSettings

namespace StandardPolicy

variable {p : StandardPolicy} {c : Column}

def Loads (p : StandardPolicy) (c : Column) : Prop :=
  ∃ schema names source s catalog t,
    ((Context.loadColumns { policy := p.toPolicy, schema } names).run source s).1 = .ok catalog ∧
      t ∈ catalog.tables ∧ c ∈ t.2

theorem defaultValue_ofRow {table name : String} {row : Row}
    (h : Column.ofRow p.toPolicy table name row = .ok c) :
    c.defaultValue = p.columnDefault c.name := by
  obtain ⟨-, htold⟩ := Column.told_of_ofRow (Policy.Known.standard p).usual h
  exact (congrArg Column.defaultValue (Except.ok.inj htold.finished)).symm

theorem Loads.defaultValue_eq (h : p.Loads c) : c.defaultValue = p.columnDefault c.name := by
  obtain ⟨schema, names, source, s, catalog, t, hload, ht, hc⟩ := h
  obtain ⟨events, hrun⟩ := Context.run_loadColumns { policy := p.toPolicy, schema } names
  have hanswer := (congrArg Prod.fst hrun).symm.trans hload
  exact ColumnCatalog.columns_of_answer (fun _ _ _ _ => defaultValue_ofRow) hanswer t ht c hc

end StandardPolicy

theorem columnDefaults_settled (limit : Pattern.SizeLimit) (m : MetadataSettings)
    (h : m.Compiles limit) :
    (∃ p, m.policy limit = .ok p ∧
      (∀ column value, p.columnDefault column = value ↔ m.columnDefaults.Settles column value) ∧
      (∀ c, p.Loads c → m.columnDefaults.Settles c.name c.defaultValue) ∧
      ∀ c d, p.Loads c → p.Loads d → nameKey c.name = nameKey d.name →
        c.defaultValue = d.defaultValue) ∧
    ∀ calls column value, (StandardPolicy.ofCalls calls).columnDefault column = value ↔
      StandardPolicy.DefaultsTo (if nameKey column = nameKey "version" then "0" else "") calls
        column value := by
  constructor
  · obtain ⟨q, hq, hpolicy⟩ := MetadataSettings.policy_of_compiles h
    have hsettles := MetadataSettings.columnDefault_policy (m := m) hq
    refine ⟨_, hpolicy, hsettles, fun c hc => ?_, fun c d hc hd hkey => ?_⟩
    · exact (hsettles c.name c.defaultValue).mp hc.defaultValue_eq.symm
    · rw [hc.defaultValue_eq, hd.defaultValue_eq, StandardPolicy.columnDefault, hkey,
        StandardPolicy.columnDefault]
  · intro calls column value
    rw [StandardPolicy.ofCalls, StandardPolicy.columnDefault_foldl,
      StandardPolicy.columnDefault_default, conventionalDefault]
    simp only [sameName_iff]

theorem columnDefaults_settled_spellings :
    let m : MetadataSettings :=
      { columnDefaults :=
          .ofList [("version", "7"), ("größe", "1"), ("VERSION", "3"), ("GRÖSSE", "2")] }
    let p : StandardPolicy :=
      { columnDefaults := [("VERSION", "7"), ("GRÖSSE", "1"), ("VERSION", "3"), ("GRÖSSE", "2")] }
    let c : Column :=
      { name := "Version", dataType := .integer, width := 10, scale := 0, defaultValue := "7" }
    let calls : List StandardPolicy.Call :=
      [.columnDefault "id" "5", .noColumnDefaults, .columnDefault "Id" "1", .keyIndexName "PK",
        .columnDefault "ID" "2", .columnDefault "total" "0"]
    m.Compiles .ofSize ∧ m.policy .ofSize = .ok p ∧ p.columnDefault "Größe" = "1" ∧
      p.columnDefault "total" = "" ∧ p.Loads c ∧
      m.columnDefaults.Settles c.name c.defaultValue ∧
      (StandardPolicy.ofCalls calls).columnDefault "id" = "2" := by
  intro m p c calls
  have hcompiles : m.Compiles .ofSize := by
    intro text htext
    simp only [m, List.mem_cons, List.not_mem_nil, or_false] at htext
    rcases htext with rfl | rfl | rfl
    · exact .inr (by rw [Pattern.parse?_performanceIndex]; rfl)
    · exact .inl rfl
    · exact .inl rfl
  have hpolicy : m.policy .ofSize = .ok p := by decide +kernel
  have hloads : p.Loads c := by
    let row : Item := .ok ⟨[.text "T", .text "Version", .integer 4, .null, .integer 10, .null,
      .null, .null, .text "9"]⟩
    refine ⟨none, ⟨.table, ["T"], [("T", 0)]⟩, ⟨fun _ _ => ⟨.ok [row], []⟩⟩,
      .start { policy := p.toPolicy }, ⟨[("T", [c])]⟩, ("T", [c]), ?_, by simp, by simp⟩
    decide +kernel
  obtain ⟨⟨p', hpolicy', hsettles, hloaded, -⟩, hcalls⟩ := columnDefaults_settled .ofSize m hcompiles
  cases hpolicy.symm.trans hpolicy'
  refine ⟨hcompiles, hpolicy, ?_, ?_, hloads, hloaded c hloads, ?_⟩
  · have hgreatest : m.columnDefaults.Greatest "Größe" ("größe", "1") :=
      ⟨by decide +kernel, by decide +kernel, by decide +kernel⟩
    exact (hsettles _ _).mpr (.listed hgreatest)
  · exact (hsettles _ _).mpr (.unlisted (by decide +kernel))
  · refine (hcalls calls _ _).mpr (.set ⟨calls.take 4, "ID", [.columnDefault "total" "0"], rfl,
      by decide +kernel, fun call hcall => ?_⟩)
    rw [List.mem_singleton.mp hcall]
    show nameKey "total" ≠ nameKey "id"
    decide +kernel

end DatabaseSchema
