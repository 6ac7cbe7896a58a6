import DatabaseSchema.Proofs.Listwise
import DatabaseSchema.Proofs.Lockstep
import DatabaseSchema.Proofs.PrimaryKey

namespace DatabaseSchema

open Session

namespace Row

variable {r : Row} {position : Nat}

theorem lt_length_of_int {n : Int32} (h : r.int position = .ok n) : position < r.cells.length := by
  obtain ⟨c, hc, -⟩ := bind_eq_ok.mp h
  unfold cell at hc
  split at hc
  next c' hget => exact (List.getElem?_eq_some_iff.mp hget).1
  next => cases hc

theorem eq_null_of_text {e : CellError} (hlt : position < r.cells.length)
    (h : r.text position = .error e) : e = .null position := by
  have hcell : r.cell position = .ok r.cells[position] := by
    rw [cell, List.getElem?_eq_getElem hlt]
  rw [text, text?, hcell, ok_bind] at h
  cases hc : r.cells[position] <;> rw [hc] at h <;> cases h
  rfl

end Row

namespace PrimaryKey

variable {table : String} {item : Item} {entry : Int32 × String} {answer answer' : Items}
  {rows rows' : List Row} {outcome : Except SchemaError (List String)} {e : SchemaError}

def Names (item : Item) (entry : Int32 × String) : Prop :=
  ∃ r, item = .ok r ∧ r.text KeyRow.column = .ok entry.2 ∧ r.int KeyRow.sequence = .ok entry.1

inductive Refused (table : String) : Item → SchemaError → Prop where
  | failed (message : String) :
      Refused table (.error message) (.query (.primaryKey table) (.source message))
  | column {r : Row} {e : CellError} :
      r.text KeyRow.column = .error e → Refused table (.ok r) (.read (.primaryKey table) e)
  | sequence {r : Row} {column : String} {e : CellError} :
      r.text KeyRow.column = .ok column → r.int KeyRow.sequence = .error e →
      Refused table (.ok r) (.read (.primaryKey table) e)

inductive Resolves (table : String) : Items → Except SchemaError (List String) → Prop where
  | failed (message : String) :
      Resolves table (.error message) (.error (.query (.primaryKey table) (.source message)))
  | refused {before after : List Item} {item : Item} {entries : List (Int32 × String)}
      {e : SchemaError} :
      List.Forall₂ Names before entries → Refused table item e →
      Resolves table (.ok (before ++ item :: after)) (.error e)
  | sorted {items : List Item} {entries sorted : List (Int32 × String)} :
      List.Forall₂ Names items entries → StablySorted entries sorted →
      Resolves table (.ok items) (.ok (sorted.map (·.2)))

theorem entry_eq_ok_iff : PrimaryKey.entry table item = .ok entry ↔ Names item entry := by
  unfold PrimaryKey.entry Names
  cases item with
  | error message => simp [Subject.row]
  | ok r =>
      simp only [Subject.row, ok_bind, bind_eq_ok, Part.check_eq_ok]
      constructor
      · rintro ⟨column, hcolumn, sequence, hsequence, ⟨⟩⟩
        exact ⟨r, rfl, hcolumn, hsequence⟩
      · rintro ⟨_, ⟨⟩, hcolumn, hsequence⟩
        exact ⟨entry.2, hcolumn, entry.1, hsequence, rfl⟩

theorem entry_eq_error_iff : PrimaryKey.entry table item = .error e ↔ Refused table item e := by
  unfold PrimaryKey.entry
  cases item with
  | error message =>
      constructor
      · rintro ⟨⟩
        exact .failed message
      · rintro ⟨⟩
        rfl
  | ok r =>
      simp only [Subject.row, ok_bind, bind_eq_error, Part.check_eq_error, Part.check_eq_ok]
      constructor
      · rintro (⟨cell, hcolumn, rfl⟩ | ⟨column, hcolumn, ⟨cell, hsequence, rfl⟩ | ⟨_, -, ⟨⟩⟩⟩)
        · exact .column hcolumn
        · exact .sequence hcolumn hsequence
      · intro h
        cases h with
        | column hcolumn => exact .inl ⟨_, hcolumn, rfl⟩
        | sequence hcolumn hsequence => exact .inr ⟨_, hcolumn, .inl ⟨_, hsequence, rfl⟩⟩

theorem mapM_entry_eq_ok_iff {items : List Item} {entries : List (Int32 × String)} :
    items.mapM (PrimaryKey.entry table) = .ok entries ↔ List.Forall₂ Names items entries := by
  simp only [mapM_eq_ok_iff, entry_eq_ok_iff]

theorem result_ofAnswer (items : List Item) :
    (ofAnswer table (.ok items)).result =
      items.mapM (PrimaryKey.entry table) >>= fun entries => .ok (inSequence entries) := by
  simp [ofAnswer, Subject.items]

theorem resolves_iff :
    Resolves table answer outcome ↔ (ofAnswer table answer).result = outcome := by
  constructor
  · intro h
    cases h with
    | failed message => rfl
    | @refused before after item entries e hbefore hitem =>
        have hitems : (before ++ item :: after).mapM (PrimaryKey.entry table) = .error e :=
          mapM_eq_error_iff.mpr ⟨before, item, after, rfl,
            ⟨entries, mapM_entry_eq_ok_iff.mpr hbefore⟩, entry_eq_error_iff.mpr hitem⟩
        rw [result_ofAnswer, hitems]
        rfl
    | sorted hitems hsorted =>
        rw [result_ofAnswer, mapM_entry_eq_ok_iff.mpr hitems, ok_bind, hsorted.inSequence_eq]
  · rintro rfl
    cases answer with
    | error message => exact .failed message
    | ok items =>
        rw [result_ofAnswer]
        cases hitems : items.mapM (PrimaryKey.entry table) with
        | ok entries =>
            exact .sorted (mapM_entry_eq_ok_iff.mp hitems) (stablySorted_mergeSort entries)
        | error e =>
            obtain ⟨before, item, after, rfl, ⟨entries, hbefore⟩, hitem⟩ :=
              mapM_eq_error_iff.mp hitems
            exact .refused (mapM_entry_eq_ok_iff.mp hbefore) (entry_eq_error_iff.mp hitem)

def Placed (rows : List Row) : Prop :=
  ∃ places : List Int32, rows.map (·.int KeyRow.sequence) = places.map .ok ∧ places.Nodup

inductive Reordered : Items → Items → Prop where
  | refl (answer : Items) : Reordered answer answer
  | rows {rows rows' : List Row} (rest : List Item) : rows.Perm rows' → Placed rows →
      Reordered (.ok (rows.map .ok ++ rest)) (.ok (rows'.map .ok ++ rest))

theorem Placed.exists_place (h : Placed rows) {r : Row} (hr : r ∈ rows) :
    ∃ place, r.int KeyRow.sequence = .ok place := by
  obtain ⟨places, hplaces, -⟩ := h
  have hmem : r.int KeyRow.sequence ∈ rows.map (·.int KeyRow.sequence) := List.mem_map_of_mem hr
  rw [hplaces] at hmem
  obtain ⟨place, -, heq⟩ := List.mem_map.mp hmem
  exact ⟨place, heq.symm⟩

theorem Placed.nodup (h : Placed rows) {entries : List (Int32 × String)}
    (hentries : List.Forall₂ Names (rows.map .ok) entries) : (entries.map (·.1)).Nodup := by
  obtain ⟨places, hplaces, hnodup⟩ := h
  have hread : List.Forall₂ (fun place entry => Except.ok entry.1 = place ∧ True)
      (rows.map (·.int KeyRow.sequence)) entries := by
    refine List.forall₂_map_left_iff.mpr ((List.forall₂_map_left_iff.mp hentries).imp ?_)
    rintro r entry ⟨_, ⟨⟩, -, hplace⟩
    exact ⟨hplace.symm, trivial⟩
  have heq : (entries.map (·.1)).map Except.ok =
      places.map (.ok : Int32 → Except CellError Int32) := by
    rw [List.map_map]
    exact (map_eq_of_forall₂ hread).1.trans hplaces
  rwa [List.map_injective_iff.mpr (fun _ _ => Except.ok.inj) heq]

theorem eq_null_of_mapM (hplaces : ∀ r ∈ rows, ∃ place, r.int KeyRow.sequence = .ok place)
    (h : (rows.map .ok).mapM (PrimaryKey.entry table) = .error e) :
    e = .read (.primaryKey table) (.null KeyRow.column) := by
  obtain ⟨before, item, after, hitems, -, hitem⟩ := mapM_eq_error_iff.mp h
  have hmem : item ∈ rows.map .ok := by
    rw [hitems]
    exact List.mem_append_right before List.mem_cons_self
  obtain ⟨r, hr, rfl⟩ := List.mem_map.mp hmem
  obtain ⟨place, hplace⟩ := hplaces r hr
  cases entry_eq_error_iff.mp hitem with
  | column hcolumn =>
      have hlt : KeyRow.column < r.cells.length :=
        Nat.lt_trans (by decide) (Row.lt_length_of_int hplace)
      rw [Row.eq_null_of_text hlt hcolumn]
  | sequence _ hsequence => cases hplace.symm.trans hsequence

theorem mapM_entry_reordered (table : String) (hperm : rows.Perm rows') (h : Placed rows) :
    (∃ entries entries', (rows.map .ok).mapM (PrimaryKey.entry table) = .ok entries ∧
        (rows'.map .ok).mapM (PrimaryKey.entry table) = .ok entries' ∧
          entries.Perm entries' ∧ (entries.map (·.1)).Nodup) ∨
      ∃ e, (rows.map .ok).mapM (PrimaryKey.entry table) = .error e ∧
        (rows'.map .ok).mapM (PrimaryKey.entry table) = .error e := by
  cases hrows : (rows.map .ok).mapM (PrimaryKey.entry table) with
  | ok entries =>
      have hnames := mapM_entry_eq_ok_iff.mp hrows
      obtain ⟨entries', hnames', hentries⟩ :=
        List.perm_comp_forall₂ (hperm.symm.map Except.ok) hnames
      exact .inl ⟨entries, entries', rfl, mapM_entry_eq_ok_iff.mpr hnames', hentries.symm,
        h.nodup hnames⟩
  | error e =>
      cases hrows' : (rows'.map .ok).mapM (PrimaryKey.entry table) with
      | ok entries' =>
          obtain ⟨entries, hnames, -⟩ :=
            List.perm_comp_forall₂ (hperm.map Except.ok) (mapM_entry_eq_ok_iff.mp hrows')
          cases (mapM_entry_eq_ok_iff.mpr hnames).symm.trans hrows
      | error e' =>
          have he := eq_null_of_mapM (fun r hr => h.exists_place hr) hrows
          have he' := eq_null_of_mapM (fun r hr => h.exists_place (hperm.mem_iff.mpr hr)) hrows'
          exact .inr ⟨e, rfl, by rw [he', he]⟩

theorem ofAnswer_reordered (table : String) (h : Reordered answer answer') :
    (ofAnswer table answer').result = (ofAnswer table answer).result := by
  cases h with
  | refl => rfl
  | rows rest hperm hplaced =>
      rw [result_ofAnswer, result_ofAnswer, List.mapM_append, List.mapM_append]
      obtain ⟨entries, entries', hrows, hrows', hentries, hdistinct⟩ | ⟨e, hrows, hrows'⟩ :=
        mapM_entry_reordered table hperm hplaced
      · rw [hrows, hrows', ok_bind, ok_bind]
        cases hrest : rest.mapM (PrimaryKey.entry table) with
        | error e => rfl
        | ok others =>
            have hsorted := stablySorted_mergeSort (entries ++ others)
            have hkey := (hsorted.of_perm hentries hdistinct).inSequence_eq
            rw [← hsorted.inSequence_eq] at hkey
            exact congrArg Except.ok hkey
      · rw [hrows, hrows']

end PrimaryKey

structure Source.KeysReordered (source source' : Source) : Prop where
  primaryKeys : ∀ history schema table,
    PrimaryKey.Reordered (source.answer history (.primaryKeys schema table)).items
      (source'.answer history (.primaryKeys schema table)).items
  others : ∀ history q, q.kind ≠ .primaryKeys →
    (source'.answer history q).items = (source.answer history q).items

theorem Source.KeysReordered.loadAlike {source source' : Source} (h : source.KeysReordered source')
    (context : Context) : LoadAlike source source' context := by
  have hothers {α : Type} {q : Query} (history : List Query) (f : Items → Logged α)
      (hq : q.kind ≠ .primaryKeys) : ReadsSame source source' history q f := by
    rw [ReadsSame, h.others history q hq]
  exact {
    tables := fun s _ => hothers s.history _ (by simp [Query.kind])
    columns := fun s _ _ _ => hothers s.history _ (by simp [Query.kind])
    views := fun s _ => hothers s.history _ (by simp [Query.kind])
    primaryKey := fun s _ table _ _ _ =>
      PrimaryKey.ofAnswer_reordered table (h.primaryKeys s.history context.schema table)
    indexes := fun s _ _ _ _ _ => hothers s.history _ (by simp [Query.kind]) }

theorem primaryKey_resolved (context : Context) :
    (∀ (source : Source) (s : Session) (table : String) outcome,
      PrimaryKey.Resolves table
          (source.answer s.history (.primaryKeys context.schema table)).items outcome ↔
        ((context.loadPrimaryKey table).run source s).1 = outcome) ∧
    ∀ source source' : Source, source.KeysReordered source' → ∀ requests : List Request,
      let s := Session.start context
      s.replies source' requests = s.replies source requests ∧
        (s.serveAll source requests).Alike (s.serveAll source' requests) := by
  refine ⟨fun source s table outcome => ?_, fun source source' h requests => ?_⟩
  · obtain ⟨events, hrun⟩ := @Context.run_loadPrimaryKey source s context table
    rw [hrun]
    exact PrimaryKey.resolves_iff
  · exact (h.loadAlike context).replies_agree requests (Reached.start source context) (.refl _)

theorem primaryKey_resolved_link :
    let f := Fixture.build ([.table "Link"] ++
      ["A", "B", "C"].map fun name => .column (.integer "Link" name))
    let source (rows : List Row) : Source :=
      ⟨fun _ q => if q.kind = .primaryKeys then ⟨.ok (rows.map .ok), []⟩ else f.answers q⟩
    let rows : List Row :=
      [⟨[.null, .text "A", .text " 2"]⟩, ⟨[.null, .text "B", .null]⟩,
        ⟨[.null, .text "C", .integer (-7)]⟩]
    let context : Context := { policy := .conventional }
    let s := Session.start context
    let requests := [.table "link", .ofTable 0 .columns]
    ((context.loadPrimaryKey "Link").run (source rows) s).1 = .ok ["C", "B", "A"] ∧
      (source rows).KeysReordered (source rows.reverse) ∧
        s.replies (source rows.reverse) requests = s.replies (source rows) requests := by
  intro f source rows context s requests
  have hplaced : PrimaryKey.Placed rows := ⟨[2, 0, -7], by decide, by decide⟩
  have hreordered : (source rows).KeysReordered (source rows.reverse) := {
    primaryKeys := fun _ _ _ => .rows [] (List.reverse_perm rows).symm hplaced
    others := fun _ q hq => by simp only [source, if_neg hq] }
  obtain ⟨hresolves, hreplies⟩ := primaryKey_resolved context
  refine ⟨(hresolves (source rows) s "Link" _).mp ?_, hreordered,
    (hreplies _ _ hreordered requests).1⟩
  have hnames : List.Forall₂ PrimaryKey.Names (rows.map .ok) [(2, "A"), (0, "B"), (-7, "C")] :=
    .cons ⟨_, rfl, rfl, rfl⟩ (.cons ⟨_, rfl, rfl, rfl⟩ (.cons ⟨_, rfl, rfl, rfl⟩ .nil))
  have hsorted : PrimaryKey.StablySorted [(2, "A"), (0, "B"), (-7, "C")]
      [(-7, "C"), (0, "B"), (2, "A")] := {
    perm := by decide
    ascending := by decide
    stable := fun _ => PrimaryKey.atPlace_eq_of_perm (by decide) (by decide) }
  exact .sorted hnames hsorted

end DatabaseSchema
