import DatabaseSchema.Proofs.Listwise
import DatabaseSchema.Proofs.Transparency

namespace DatabaseSchema

namespace Uncached

variable {answers : Query → Answer} {c : Context} {snap : SchemaSnapshot} {name : String}

theorem table_name {t : Table} (h : table answers c name = .ok t) :
    nameKey t.name = nameKey name := by
  obtain ⟨names, hnames, hget, -⟩ := table_eq_ok answers c h
  exact ((Catalog.tableNames_wellFormed hnames).get?_eq_some_iff.mp hget).2

theorem tableSnapshot_eq_ok {t : Table} {ts : TableSnapshot}
    (h : tableSnapshot answers t = .ok ts) :
    ts.name = t.name ∧ ts.primaryKey = t.primaryKey ∧ finalColumns t = .ok ts.columns ∧
      indexes answers t = .ok ts.indexes := by
  obtain ⟨columns, hcolumns, h⟩ := bind_eq_ok.mp h
  obtain ⟨indexes, hindexes, h⟩ := bind_eq_ok.mp h
  cases h
  exact ⟨rfl, rfl, hcolumns, hindexes⟩

structure Holds (answers : Query → Answer) (c : Context) (names : Catalog String)
    (snap : SchemaSnapshot) : Prop where
  catalog : tableCatalog answers c = .ok names
  names : snap.tables.map (·.name) = names.entries
  tables : ∀ ts ∈ snap.tables, ∃ t, table answers c ts.name = .ok t ∧
    tableSnapshot answers t = .ok ts
  views : viewNames answers c = .ok snap.views

theorem holds_of_snapshot (h : snapshot answers c = .ok snap) :
    ∃ names, Holds answers c names snap := by
  obtain ⟨ts, hts, h⟩ := bind_eq_ok.mp h
  obtain ⟨tables, htables, h⟩ := bind_eq_ok.mp h
  obtain ⟨views, hviews, h⟩ := bind_eq_ok.mp h
  cases h
  obtain ⟨entries, hentries, hts⟩ := bind_eq_ok.mp hts
  obtain ⟨names, hnames, hentries⟩ := bind_eq_ok.mp hentries
  cases hentries
  have hall := forall₂_comp (mapM_eq_ok_iff.mp hts) (mapM_eq_ok_iff.mp htables)
  have hwf := Catalog.tableNames_wellFormed hnames
  have hmem := (List.forall₂_and_left _ _).mpr ⟨fun _ => id, hall⟩
  have hnamed : List.Forall₂ (fun entry ts => ts.name = entry ∧
      ∃ t, table answers c ts.name = .ok t ∧ tableSnapshot answers t = .ok ts)
      names.entries tables := by
    refine hmem.imp ?_
    rintro entry ts ⟨hentry, t, ht, hs⟩
    -- a table goes by its entry in the catalog, as the entry is found under its own name
    have hname : ts.name = entry := by
      obtain ⟨names', hnames', hget, -⟩ := table_eq_ok answers c ht
      cases hnames.symm.trans hnames'
      rw [hwf.get?_eq_some_iff.mpr ⟨hentry, rfl⟩] at hget
      rw [(tableSnapshot_eq_ok hs).1, Option.some.inj hget]
    exact ⟨hname, t, hname ▸ ht, hs⟩
  obtain ⟨hmap, htable⟩ := map_eq_of_forall₂ hnamed
  exact ⟨names, hnames, hmap, htable, hviews⟩

namespace Holds

variable {names : Catalog String} (h : Holds answers c names snap)

include h

theorem wellFormed : names.WellFormed :=
  Catalog.tableNames_wellFormed h.catalog

theorem contains_eq : names.contains name = (snap.table? name).isSome := by
  rw [Bool.eq_iff_iff, h.wellFormed.contains_iff, ← h.names, SchemaSnapshot.table?,
    List.find?_isSome]
  simp only [List.mem_map, sameName_iff, exists_exists_and_eq_and]

theorem table?_eq_some {ts : TableSnapshot} (hts : snap.table? name = some ts) :
    ts ∈ snap.tables ∧ nameKey ts.name = nameKey name ∧
      ∃ t, table answers c name = .ok t ∧ tableSnapshot answers t = .ok ts := by
  unfold SchemaSnapshot.table? at hts
  have hmem := List.mem_of_find?_eq_some hts
  have hname := List.find?_some hts
  have hkey := sameName_iff.mp hname
  obtain ⟨t, ht, hs⟩ := h.tables ts hmem
  exact ⟨hmem, hkey, t, table_congr answers c hkey ht, hs⟩

theorem table_eq_notFound (hnone : snap.table? name = none) :
    table answers c name = .error (.tableNotFound name) := by
  have hcontains : names.contains name = false := by rw [h.contains_eq, hnone, Option.isSome_none]
  rw [table, h.catalog, ok_bind, Catalog.get?_eq_none hcontains]
  rfl

end Holds

end Uncached

end DatabaseSchema
