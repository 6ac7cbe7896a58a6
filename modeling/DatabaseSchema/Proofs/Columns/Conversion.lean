import DatabaseSchema.Proofs.Columns
import DatabaseSchema.Proofs.Listwise

namespace DatabaseSchema

variable {p : Policy} {table name : String} {c d : Column} {r : Row}

namespace Policy

structure Usual (p : Policy) : Prop where
  columnName : p.columnName = Row.columnName
  dataType : p.dataType = TypeCode.dataType
  nullability : ∀ table, p.nullabilityStep table = Column.withNullability
  autonumbering : ∀ table, p.autonumberingStep table = Column.withAutonumbering
  default : ∀ table c r, p.defaultStep table c r = c.withDefault p
  further : ∀ table, p.furtherStep table = (fun c _ => .ok c) ∨
    p.furtherStep table = remarkAsDefault

theorem Known.usual (h : p.Known) : p.Usual where
  columnName := by cases h <;> rfl
  dataType := by cases h <;> rfl
  nullability table := by cases h <;> rfl
  autonumbering table := by cases h <;> rfl
  default table c r := by cases h <;> rfl
  further table := by
    cases h with
    | default | standard | settings => exact .inl rfl
    | custom tableKinds viewKinds remarks =>
        cases remarks with
        | true => exact .inr rfl
        | false => exact .inl rfl

theorem Usual.of_furtherStep (h : p.Usual) (hd : p.furtherStep table c r = .ok d) :
    d = { c with defaultValue := d.defaultValue } := by
  obtain hf | hf := h.further table
  · rw [hf] at hd
    cases hd
    rfl
  · rw [hf] at hd
    obtain ⟨remark?, -, hd⟩ := bind_eq_ok.mp hd
    cases remark? <;> cases hd <;> rfl

theorem Usual.furtherStep_eq_error (h : p.Usual) {e : CellError}
    (hc : p.furtherStep table c r = .error e) (d : Column) :
    p.furtherStep table d r = .error e := by
  obtain hf | hf := h.further table
  · rw [hf] at hc
    cases hc
  · rw [hf] at hc ⊢
    obtain hr | ⟨remark?, -, hc⟩ := bind_eq_error.mp hc
    · exact bind_eq_error.mpr (.inl hr)
    · cases remark? <;> cases hc

end Policy

theorem TypeCode.dataType_eq_ok {code width : Int32} {typeName : String} {t : DataType} :
    dataType code typeName width = .ok t ↔ dataType? code = some t := by
  unfold dataType
  cases dataType? code <;> simp

theorem TypeCode.dataType_eq_error {code width : Int32} {typeName : String} {e : SchemaError} :
    dataType code typeName width = .error e ↔
      dataType? code = none ∧ e = .unknownType typeName code width := by
  unfold dataType
  cases dataType? code <;> simp [eq_comm]

namespace Column

theorem withNullability_eq_ok :
    c.withNullability r = .ok d ↔ ∃ flag?, r.text? ColumnRow.isNullable = .ok flag? ∧
      { c with nullable := c.nullable || flag? = some "YES" } = d := by
  unfold withNullability
  rw [bind_eq_ok]
  refine exists_congr fun flag? => and_congr_right fun _ => ?_
  split
  next h => simp [h, pure, Except.pure]
  next h => simp [h, pure, Except.pure]

theorem withAutonumbering_eq_ok (hc : c.autonumberStart = -1) :
    c.withAutonumbering r = .ok d ↔ ∃ flag?, r.text? ColumnRow.isAutonumbered = .ok flag? ∧
      { c with autonumbered := c.autonumbered || flag? = some "YES" } = d := by
  unfold withAutonumbering
  rw [bind_eq_ok]
  refine exists_congr fun flag? => and_congr_right fun _ => ?_
  split
  next h => simp [h, ← hc, pure, Except.pure]
  next h => simp [h, pure, Except.pure]

theorem withNullability_eq_error {e : CellError} :
    c.withNullability r = .error e ↔ r.text? ColumnRow.isNullable = .error e := by
  unfold withNullability
  rw [bind_eq_error]
  refine or_iff_left ?_
  rintro ⟨flag?, -, h⟩
  split at h <;> cases h

theorem withAutonumbering_eq_error {e : CellError} :
    c.withAutonumbering r = .error e ↔ r.text? ColumnRow.isAutonumbered = .error e := by
  unfold withAutonumbering
  rw [bind_eq_error]
  refine or_iff_left ?_
  rintro ⟨flag?, -, h⟩
  split at h <;> cases h

structure Told (p : Policy) (table : String) (r : Row) (c : Column) : Prop where
  typeName : ∃ typeName?, r.text? ColumnRow.typeName = .ok typeName?
  dataType : ∃ code, r.int ColumnRow.typeCode = .ok code ∧
    TypeCode.dataType? code = some c.dataType
  width : r.int ColumnRow.size = .ok c.width
  scale : r.int ColumnRow.digits = .ok c.scale
  nullable : ∃ flag?, r.text? ColumnRow.isNullable = .ok flag? ∧
    c.nullable = decide (flag? = some "YES")
  autonumbered : ∃ flag?, r.text? ColumnRow.isAutonumbered = .ok flag? ∧
    c.autonumbered = decide (flag? = some "YES")
  finished : p.furtherStep table { c with defaultValue := p.defaultValue c.name } r = .ok c
  autonumberStart : c.autonumberStart = -1
  primaryKey : c.primaryKey = false

inductive Unreadable (p : Policy) (table : String) (r : Row) (e : CellError) : Prop where
  | text {position : Nat} :
      position ∈ [ColumnRow.typeName, ColumnRow.isNullable, ColumnRow.isAutonumbered] →
      r.text? position = .error e → Unreadable p table r e
  | number {position : Nat} :
      position ∈ [ColumnRow.typeCode, ColumnRow.size, ColumnRow.digits] →
      r.int position = .error e → Unreadable p table r e
  | further {c : Column} : p.furtherStep table c r = .error e → Unreadable p table r e

inductive Fault (p : Policy) (table name : String) (r : Row) : SchemaError → Prop where
  | cell {e : CellError} :
      Unreadable p table r e → Fault p table name r (.read (.column name table) e)
  | type {typeName? : Option String} {code width : Int32} :
      r.text? ColumnRow.typeName = .ok typeName? → r.int ColumnRow.typeCode = .ok code →
      r.int ColumnRow.size = .ok width → TypeCode.dataType? code = none →
      Fault p table name r (.unknownType (typeName?.getD "") code width)

theorem told_of_ofRow (hp : p.Usual) (h : ofRow p table name r = .ok c) :
    c.name = name ∧ Told p table r c := by
  unfold ofRow at h
  simp only [bind_eq_ok, Part.check_eq_ok, hp.dataType, hp.nullability, hp.autonumbering,
    hp.default, TypeCode.dataType_eq_ok, withNullability_eq_ok] at h
  obtain ⟨typeName?, htypeName, code, hcode, width, hwidth, scale, hscale, dataType, htype,
    _, ⟨nullable?, hnullable, rfl⟩, c₂, hc₂, h⟩ := h
  obtain ⟨autonumbered?, hautonumbered, rfl⟩ := (withAutonumbering_eq_ok rfl).mp hc₂
  have hc := hp.of_furtherStep h
  rw [hc]
  refine ⟨rfl, ?_⟩
  constructor
  case typeName => exact ⟨typeName?, htypeName⟩
  case dataType => exact ⟨code, hcode, htype⟩
  case width => exact hwidth
  case scale => exact hscale
  case nullable => exact ⟨nullable?, hnullable, rfl⟩
  case autonumbered => exact ⟨autonumbered?, hautonumbered, rfl⟩
  case finished => exact h.trans (congrArg _ hc)
  case autonumberStart => rfl
  case primaryKey => rfl

theorem Told.ofRow (h : Told p table r c) (hp : p.Usual) : ofRow p table c.name r = .ok c := by
  obtain ⟨typeName?, htypeName⟩ := h.typeName
  obtain ⟨code, hcode, htype⟩ := h.dataType
  obtain ⟨nullable?, hnullable, hnullable'⟩ := h.nullable
  obtain ⟨autonumbered?, hautonumbered, hautonumbered'⟩ := h.autonumbered
  unfold Column.ofRow
  simp only [bind_eq_ok, Part.check_eq_ok, hp.dataType, hp.nullability, hp.autonumbering,
    hp.default, TypeCode.dataType_eq_ok, withNullability_eq_ok]
  refine ⟨typeName?, htypeName, code, hcode, c.width, h.width, c.scale, h.scale, c.dataType, htype,
    _, ⟨nullable?, hnullable, rfl⟩, _,
    (withAutonumbering_eq_ok rfl).mpr ⟨autonumbered?, hautonumbered, rfl⟩, ?_⟩
  refine Eq.trans (congrArg (p.furtherStep table · r) ?_) h.finished
  simp [withDefault, ← hnullable', ← hautonumbered', h.autonumberStart, h.primaryKey]

theorem ofRow_eq_ok_iff (hp : p.Usual) :
    ofRow p table name r = .ok c ↔ c.name = name ∧ Told p table r c := by
  constructor
  · exact told_of_ofRow hp
  · rintro ⟨rfl, h⟩
    exact h.ofRow hp

theorem fault_of_ofRow (hp : p.Usual) {e : SchemaError} (h : ofRow p table name r = .error e) :
    Fault p table name r e := by
  unfold ofRow at h
  simp only [bind_eq_error, Part.check_eq_error, Part.check_eq_ok, hp.dataType, hp.nullability,
    hp.autonumbering, TypeCode.dataType_eq_error, withNullability_eq_error,
    withAutonumbering_eq_error] at h
  rcases h with ⟨cell, h, rfl⟩ | ⟨typeName?, htypeName, h⟩
  · exact .cell (.text (by simp) h)
  rcases h with ⟨cell, h, rfl⟩ | ⟨code, hcode, h⟩
  · exact .cell (.number (by simp) h)
  rcases h with ⟨cell, h, rfl⟩ | ⟨width, hwidth, h⟩
  · exact .cell (.number (by simp) h)
  rcases h with ⟨cell, h, rfl⟩ | ⟨scale, -, h⟩
  · exact .cell (.number (by simp) h)
  rcases h with ⟨hcode', rfl⟩ | ⟨dataType, -, h⟩
  · exact .type htypeName hcode hwidth hcode'
  rcases h with ⟨cell, h, rfl⟩ | ⟨_, -, h⟩
  · exact .cell (.text (by simp) h)
  rcases h with ⟨cell, h, rfl⟩ | ⟨_, -, h⟩
  · exact .cell (.text (by simp) h)
  obtain ⟨cell, h, rfl⟩ := h
  exact .cell (.further h)

theorem Told.readable (h : Told p table r c) (hp : p.Usual) {e : CellError} :
    ¬Unreadable p table r e := by
  intro hcell
  cases hcell with
  | text hposition hcell =>
      obtain ⟨typeName?, htypeName⟩ := h.typeName
      obtain ⟨nullable?, hnullable, -⟩ := h.nullable
      obtain ⟨autonumbered?, hautonumbered, -⟩ := h.autonumbered
      simp only [List.mem_cons, List.not_mem_nil, or_false] at hposition
      rcases hposition with rfl | rfl | rfl
      · cases hcell.symm.trans htypeName
      · cases hcell.symm.trans hnullable
      · cases hcell.symm.trans hautonumbered
  | number hposition hcell =>
      obtain ⟨code, hcode, -⟩ := h.dataType
      simp only [List.mem_cons, List.not_mem_nil, or_false] at hposition
      rcases hposition with rfl | rfl | rfl
      · cases hcell.symm.trans hcode
      · cases hcell.symm.trans h.width
      · cases hcell.symm.trans h.scale
  | further hcell => cases (hp.furtherStep_eq_error hcell _).symm.trans h.finished

theorem Told.no_fault (h : Told p table r c) (hp : p.Usual) {e : SchemaError} :
    ¬Fault p table name r e := by
  intro hfault
  cases hfault with
  | cell hcell => exact h.readable hp hcell
  | type _ hcode _ hnone =>
      obtain ⟨code, hcode', htype⟩ := h.dataType
      cases hcode.symm.trans hcode'
      cases hnone.symm.trans htype

-- A row is made into the column that it tells of unless something is wrong with it, and then one
-- such thing is reported.
structure Faithful (p : Policy) (table name : String) (r : Row) : Prop where
  told : ∀ c, ofRow p table name r = .ok c ↔ c.name = name ∧ Told p table r c
  fails : (∃ e, ofRow p table name r = .error e) ↔ ∃ e, Fault p table name r e
  fault : ∀ e, ofRow p table name r = .error e → Fault p table name r e

theorem exists_ofRow_eq_error_iff (hp : p.Usual) :
    (∃ e, ofRow p table name r = .error e) ↔ ∃ e, Fault p table name r e := by
  constructor
  · rintro ⟨e, h⟩
    exact ⟨e, fault_of_ofRow hp h⟩
  · rintro ⟨e, hfault⟩
    cases h : ofRow p table name r with
    | error e => exact ⟨e, rfl⟩
    | ok c => exact absurd hfault ((told_of_ofRow hp h).2.no_fault hp)

theorem ofRow_faithful (hp : p.Usual) (table name : String) (r : Row) :
    Faithful p table name r where
  told _ := ofRow_eq_ok_iff hp
  fails := exists_ofRow_eq_error_iff hp
  fault _ := fault_of_ofRow hp

end Column

end DatabaseSchema
