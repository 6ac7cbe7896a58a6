import DatabaseSchema.Request
import DatabaseSchema.Settings

namespace DatabaseSchema

namespace Policy

structure Agrees (p q : Policy) : Prop where
  isSystemTable : ∀ table, p.isSystemTable table = q.isSystemTable table
  isIgnoredTable : ∀ table, p.isIgnoredTable table = q.isIgnoredTable table
  isKeyIndex : ∀ index, p.isKeyIndex index = q.isKeyIndex index
  isIgnoredIndex : ∀ index, p.isIgnoredIndex index = q.isIgnoredIndex index
  tableKinds : p.tableKinds = q.tableKinds
  viewKinds : p.viewKinds = q.viewKinds
  tableName : ∀ row, p.tableName row = q.tableName row
  viewName : ∀ row, p.viewName row = q.viewName row
  columnName : ∀ row, p.columnName row = q.columnName row
  indexName? : ∀ row, p.indexName? row = q.indexName? row
  dataType : ∀ code name width, p.dataType code name width = q.dataType code name width
  defaultValue : ∀ column, p.defaultValue column = q.defaultValue column
  further : ∀ c row, p.further c row = q.further c row
  nullabilityStep : ∀ table c row, p.nullabilityStep table c row = q.nullabilityStep table c row
  autonumberingStep : ∀ table c row,
    p.autonumberingStep table c row = q.autonumberingStep table c row
  defaultStep : ∀ table c row, p.defaultStep table c row = q.defaultStep table c row
  furtherStep : ∀ table c row, p.furtherStep table c row = q.furtherStep table c row

theorem Agrees.eq {p q : Policy} (h : p.Agrees q) : p = q := by
  have hdataType : p.dataType = q.dataType :=
    funext fun code => funext fun name => funext (h.dataType code name)
  have hnullability : p.nullabilityStep = q.nullabilityStep :=
    funext fun table => funext fun c => funext (h.nullabilityStep table c)
  have hautonumbering : p.autonumberingStep = q.autonumberingStep :=
    funext fun table => funext fun c => funext (h.autonumberingStep table c)
  have hdefault : p.defaultStep = q.defaultStep :=
    funext fun table => funext fun c => funext (h.defaultStep table c)
  have hfurther : p.furtherStep = q.furtherStep :=
    funext fun table => funext fun c => funext (h.furtherStep table c)
  cases p
  cases q
  rw [mk.injEq]
  exact ⟨funext h.isSystemTable, funext h.isIgnoredTable, funext h.isKeyIndex,
    funext h.isIgnoredIndex, h.tableKinds, h.viewKinds, funext h.tableName, funext h.viewName,
    funext h.columnName, funext h.indexName?, hdataType, funext h.defaultValue,
    funext fun c => funext (h.further c), hnullability, hautonumbering, hdefault, hfurther⟩

end Policy

theorem nameKey_version : nameKey "version" = "VERSION" := by decide +kernel

theorem StandardPolicy.columnDefault_default (column : String) :
    columnDefault {} column = conventionalDefault column := by
  have hkey : nameKey column = "VERSION" ↔ sameName column "version" = true := by
    rw [sameName_iff, nameKey_version]
  unfold columnDefault conventionalDefault
  rw [List.lookup_cons, List.lookup_nil]
  by_cases h : sameName column "version" = true
  · simp [h, hkey.mpr h]
  · have hne : (nameKey column == "VERSION") = false := by simpa using fun he => h (hkey.mp he)
    simp [h, hne]

theorem StandardPolicy.toPolicy_default_agrees : (toPolicy {}).Agrees .conventional where
  isSystemTable _ := rfl
  isIgnoredTable _ := rfl
  isKeyIndex _ := rfl
  isIgnoredIndex _ := rfl
  tableKinds := rfl
  viewKinds := rfl
  tableName _ := rfl
  viewName _ := rfl
  columnName _ := rfl
  indexName? _ := rfl
  dataType _ _ _ := rfl
  defaultValue := columnDefault_default
  further _ _ := rfl
  nullabilityStep _ _ _ := rfl
  autonumberingStep _ _ _ := rfl
  defaultStep _ c _ := by
    show { c with defaultValue := columnDefault {} c.name } = c.withDefault .conventional
    rw [columnDefault_default]
    rfl
  furtherStep _ _ _ := rfl

theorem Pattern.isMatch_seq_empty (p : Pattern) (text : String) :
    (seq empty p).isMatch text = p.isMatch text := rfl

theorem Pattern.parse?_of_short (limit : SizeLimit) {ignoreCase : Bool} {text : String}
    {p : Pattern} (hread : read? ignoreCase text = some p) (htext : text.length ≤ 16)
    (hsize : p.size ≤ 256) : parse? limit ignoreCase text = some p := by
  rw [parse?, hread, Option.filter_some, if_pos (limit.allows_short text p htext hsize)]

theorem Pattern.parse?_performanceIndex (limit : SizeLimit) :
    parse? limit true "_PRF\\d+$" = some performanceIndex :=
  parse?_of_short limit (by decide +kernel) (by decide +kernel) (by decide +kernel)

theorem Pattern.parse?_performanceIndex_inline (limit : SizeLimit) :
    parse? limit false "(?i)_PRF\\d+$" = some (seq empty performanceIndex) :=
  parse?_of_short limit (by decide +kernel) (by decide +kernel) (by decide +kernel)

theorem MetadataSettings.policy_default (limit : Pattern.SizeLimit) : policy limit {} = .ok {} := by
  have hindexes : pattern limit .ignoredIndexes "_PRF\\d+$" = .ok (some performanceIndex) := by
    rw [pattern, Pattern.parse?_performanceIndex]
    rfl
  have hdefaults : (ColumnDefaults.empty.insert "version" "0").entries = [("version", "0")] := rfl
  unfold policy
  rw [hindexes, hdefaults]
  show Except.ok (StandardPolicy.withColumnDefault _ "version" "0") = _
  rw [StandardPolicy.withColumnDefault, nameKey_version]
  rfl

theorem default_policies_interchangeable (limit : Pattern.SizeLimit) (source : Source)
    (schema : Option String) (requests : List Request) :
    ∃ (settings : StandardPolicy) (inline : Pattern),
      MetadataSettings.policy limit {} = .ok settings ∧
      Pattern.parse? limit false "(?i)_PRF\\d+$" = some inline ∧
      (∀ index, inline.isMatch index = isPerformanceIndex index) ∧
      ∀ p ∈ [StandardPolicy.toPolicy {}, settings.toPolicy],
        p.Agrees .conventional ∧
          let s := Session.start { policy := p, schema }
          let s' := Session.start { policy := .conventional, schema }
          s.replies source requests = s'.replies source requests ∧
            (s.serveAll source requests).history = (s'.serveAll source requests).history := by
  refine ⟨{}, _, MetadataSettings.policy_default limit,
    Pattern.parse?_performanceIndex_inline limit,
    Pattern.isMatch_seq_empty _, ?_⟩
  intro p hp
  have hagrees : p.Agrees .conventional := by
    simp only [List.mem_cons, List.not_mem_nil, or_false, or_self] at hp
    exact hp ▸ StandardPolicy.toPolicy_default_agrees
  refine ⟨hagrees, ?_⟩
  rw [hagrees.eq]
  exact ⟨rfl, rfl⟩

end DatabaseSchema
