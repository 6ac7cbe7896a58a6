import DatabaseSchema.Proofs.Listwise
import DatabaseSchema.Proofs.Serving
import DatabaseSchema.Request

namespace DatabaseSchema

open Session Act

variable {α β : Type} {source : Source} {s s₁ s' : Session}

namespace Act

variable {f : α → Act β} {as : List α} {bs : List β} {e : SchemaError}

inductive InTurn (f : α → Act β) (source : Source) :
    Session → List α → List β → Session → Prop where
  | nil (s : Session) : InTurn f source s [] [] s
  | cons {s s₁ s' : Session} {a : α} {b : β} {as : List α} {bs : List β} :
      (f a).run source s = (.ok b, s₁) → InTurn f source s₁ as bs s' →
      InTurn f source s (a :: as) (b :: bs) s'

theorem inTurn_of_run_mapM (h : (as.mapM f).run source s = (.ok bs, s')) :
    InTurn f source s as bs s' := by
  induction as generalizing s bs with
  | nil =>
      rw [List.mapM_nil] at h
      cases h
      exact .nil _
  | cons a as ih =>
      rw [List.mapM_cons, run_bind_eq_ok] at h
      obtain ⟨b, s₁, hb, h⟩ := h
      obtain ⟨bs, s₂, hbs, h⟩ := run_bind_eq_ok.mp h
      cases h
      exact .cons hb (ih hbs)

theorem inTurn_of_run_mapM_error (h : (as.mapM f).run source s = (.error e, s')) :
    ∃ before a after bs s₁, as = before ++ a :: after ∧ InTurn f source s before bs s₁ ∧
      (f a).run source s₁ = (.error e, s') := by
  induction as generalizing s with
  | nil =>
      rw [List.mapM_nil] at h
      cases h
  | cons a as ih =>
      rw [List.mapM_cons] at h
      rcases ha : (f a).run source s with ⟨e' | b, s₁⟩
      · rw [run_bind_error ha] at h
        cases h
        exact ⟨[], a, as, [], s, rfl, .nil s, ha⟩
      · rw [run_bind_ok ha] at h
        rcases has : (as.mapM f).run source s₁ with ⟨e' | bs, s₂⟩
        · rw [run_bind_error has] at h
          cases h
          obtain ⟨before, a', after, bs, s₃, rfl, hbefore, ha'⟩ := ih has
          exact ⟨a :: before, a', after, b :: bs, s₃, rfl, .cons ha hbefore, ha'⟩
        · rw [run_bind_ok has] at h
          cases h

theorem run_mapM_pure {g : α → β} (h : ∀ a ∈ as, (f a).run source s = (.ok (g a), s)) :
    (as.mapM f).run source s = (.ok (as.map g), s) := by
  induction as with
  | nil => rfl
  | cons a as ih =>
      rw [List.mapM_cons, run_bind_ok (h a List.mem_cons_self),
        run_bind_ok (ih fun a' ha' => h a' (List.mem_cons_of_mem a ha'))]
      rfl

end Act

namespace Session

def Numbers (s : Session) (name : String) (number : Nat) : Prop :=
  ∃ t names, s.face? number = some t ∧ nameKey t.name = nameKey name ∧
    s.provider.keptNames = some names ∧ t.name ∈ names.entries

structure Orderly (s : Session) : Prop where
  names : s.Sound
  views : ∀ c, s.provider.keptViews = some c → c.WellFormed
  numbers : ∀ name number, s.provider.numbers.lookup (nameKey name) = some number →
    s.Numbers name number

namespace Orderly

theorem of_unread {s : Session} (hnames : s.provider.keptNames = none)
    (hviews : s.provider.keptViews = none) (hnumbers : s.provider.numbers = []) : s.Orderly where
  names := by simp [Sound, hnames]
  views := by simp [hviews]
  numbers := by simp [hnumbers]

theorem growth {asked : List Piece} (h : s.Orderly) (hg : Growth source s asked s') :
    s'.Orderly where
  names := hg.sound h.names
  views c hc := by
    cases hold : s.provider.keptViews with
    | some c' =>
        obtain rfl : c' = c := Option.some.inj ((hg.toKeeps.keptViews hold).symm.trans hc)
        exact h.views c' hold
    | none =>
        have hn : s.content? .views = none := by simp [content?, hold]
        cases hg.obtained hn (show s'.content? .views = some (.names c) by simp [content?, hc]) with
        | views ha =>
            obtain ⟨_, -, -, hr⟩ := ha
            exact Catalog.viewNames_wellFormed hr
  numbers name number hnumber := by
    have hnew : s'.content? (.table name) = some (.number number) := by simp [content?, hnumber]
    cases hold : s.provider.numbers.lookup (nameKey name) with
    | some number' =>
        have hkept := hg.content (.table name) (.number number') (by simp [content?, hold])
        cases hkept.symm.trans hnew
        obtain ⟨t, names, ht, hname, hnames, hmem⟩ := h.numbers name number hold
        exact ⟨t, names, hg.toKeeps.face ht, hname, hg.toKeeps.keptNames hnames, hmem⟩
    | none =>
        cases hg.obtained (show s.content? (.table name) = none by simp [content?, hold]) hnew with
        | table ht hname ha =>
            obtain ⟨names, hnames, hmem⟩ := ha.name
            exact ⟨_, names, ht, hname, hnames, hmem⟩

theorem of_run {act : Act α} {r : Except SchemaError α} (h : s.Orderly) (hg : act.Grows)
    (hrun : act.run source s = (r, s')) : s'.Orderly ∧ s.Keeps s' := by
  obtain ⟨asked, -, hgrowth, -⟩ := (hg source s h.names).of_run hrun
  exact ⟨h.growth hgrowth, hgrowth.toKeeps⟩

theorem operate (h : s.Orderly) (op : Operation) : (s.operate source op).Orderly := by
  cases op with
  | request request =>
      obtain ⟨asked, -, hg⟩ := serve_growth source h.names request
      exact h.growth hg
  | replace r =>
      rw [operate_replace, replace_eq]
      exact .of_unread rfl rfl rfl

theorem operateAll (h : s.Orderly) (ops : List Operation) : (s.operateAll source ops).Orderly := by
  induction ops generalizing s with
  | nil => exact h
  | cons op ops ih => exact ih (h.operate op)

theorem name_eq (h : s.Orderly) {names : Catalog String} {name : String} {number : Nat}
    (hnames : s.provider.keptNames = some names) (hmem : name ∈ names.entries)
    (hnumber : s.provider.numbers.lookup (nameKey name) = some number) :
    ∃ t, s.face? number = some t ∧ t.name = name := by
  obtain ⟨t, names', ht, hname, hnames', hmem'⟩ := h.numbers name number hnumber
  cases hnames'.symm.trans hnames
  exact ⟨t, ht, (h.names names hnames).eq_of_key hmem' hmem hname⟩

end Orderly

end Session

namespace Provider

theorem viewsByName_run (h : s.Orderly) :
    viewsByName.run source s = views.run source s := by
  rcases hviews : viewCatalog.run source s with ⟨e | c, s₁⟩
  · have hnames : viewNames.run source s = (.error e, s₁) := run_bind_error hviews _
    rw [viewsByName, run_bind_error hnames, views, run_bind_error hviews]
  · have hnames : viewNames.run source s = (.ok c.entries, s₁) := run_bind_ok hviews _
    have hkept := viewCatalog_ok hviews
    have hwf := (h.of_run viewCatalog_grows hviews).1.views c hkept
    -- a listed name is found under its own key, which no other name has
    have hget : ∀ name ∈ c.entries, (getView name).run source s₁ = (.ok (.database name), s₁) := by
      intro name hname
      rw [getView, run_bind_ok (viewCatalog_kept hkept),
        hwf.get?_eq_some_iff.mpr ⟨hname, rfl⟩]
      rfl
    rw [viewsByName, run_bind_ok hnames, run_mapM_pure hget, views, run_bind_ok hviews]
    rfl

theorem keeps_of_inTurn {names : List String} {numbers : List Nat} (hs : s.Orderly)
    (h : InTurn getTable source s names numbers s') :
    s'.Orderly ∧ s.Keeps s' ∧
      List.Forall₂ (fun name number => s'.provider.numbers.lookup (nameKey name) = some number)
        names numbers := by
  induction h with
  | nil s => exact ⟨hs, .refl s, .nil⟩
  | @cons s s₁ s' name number _ _ hget _ ih =>
      obtain ⟨hs₁, hk⟩ := hs.of_run (getTable_grows name) hget
      obtain ⟨hs', hk', hall⟩ := ih hs₁
      refine ⟨hs', hk.trans hk', .cons ?_ hall⟩
      -- later lookups leave the number to its name
      have hkept := hk'.content (.table name) (.number number) (by
        simp [content?, getTable_ok hget])
      simpa [content?] using hkept

structure Listed (source : Source) (s : Session) (names : List String) (numbers : List Nat) :
    Prop where
  catalog : tableNames.run source s = (.ok names, s)
  tables : List.Forall₂ (fun name number => ∃ t, s.face? number = some t ∧ t.name = name)
    names numbers
  lookup : List.Forall₂ (fun name number => ∀ spelling requests, nameKey spelling = nameKey name →
      let later := s.serveAll source requests
      (getTable spelling).run source later = (.ok number, later)) names numbers

theorem listed_of_inTurn {names : Catalog String} {numbers : List Nat} (hs : s.Orderly)
    (hnames : s.provider.keptNames = some names)
    (h : InTurn getTable source s names.entries numbers s') :
    Listed source s' names.entries numbers := by
  obtain ⟨hs', hk, hall⟩ := keeps_of_inTurn hs h
  have hnames' := hk.keptNames hnames
  constructor
  case catalog => rw [tableNames, run_bind_ok (tableCatalog_kept hnames'), run_pure]
  case tables =>
    refine ((List.forall₂_and_left _ _).mpr ⟨fun _ => id, hall⟩).imp ?_
    rintro name number ⟨hmem, hnumber⟩
    exact hs'.name_eq hnames' hmem hnumber
  case lookup =>
    refine hall.imp ?_
    intro name number hnumber spelling requests hkey
    refine getTable_kept ?_
    obtain ⟨asked, hg⟩ := serveAll_growth source hs'.names requests
    have hkept := hg.content (.table name) (.number number) (by simp [content?, hnumber])
    rw [hkey]
    simpa [content?] using hkept

end Provider

open Provider

theorem listings_agree (source : Source) (context : Context) (operations : List Operation) :
    let s := (start context).operateAll source operations
    viewsByName.run source s = views.run source s ∧
      (∀ numbers s', tables.run source s = (.ok numbers, s') →
        ∃ names s₁, tableNames.run source s = (.ok names, s₁) ∧
          InTurn getTable source s₁ names numbers s' ∧ Listed source s' names numbers) ∧
      ∀ e s', tables.run source s = (.error e, s') →
        tableNames.run source s = (.error e, s') ∨
          ∃ before name after numbers s₁ s₂,
            tableNames.run source s = (.ok (before ++ name :: after), s₁) ∧
            InTurn getTable source s₁ before numbers s₂ ∧
            (getTable name).run source s₂ = (.error e, s') := by
  intro s
  have hs : s.Orderly := (Orderly.of_unread rfl rfl rfl).operateAll operations
  refine ⟨viewsByName_run hs, fun numbers s' h => ?_, fun e s' h => ?_⟩
  · obtain ⟨names, s₁, hnames, h⟩ := run_bind_eq_ok.mp h
    obtain ⟨catalog, s₂, hcatalog, hentries⟩ := run_bind_eq_ok.mp hnames
    cases hentries
    have hturn := inTurn_of_run_mapM h
    obtain ⟨hs₁, -⟩ := hs.of_run tableCatalog_grows hcatalog
    exact ⟨_, s₁, hnames, hturn, listed_of_inTurn hs₁ (tableCatalog_ok hcatalog) hturn⟩
  · rcases hnames : tableNames.run source s with ⟨e' | names, s₁⟩
    · rw [tables, run_bind_error hnames] at h
      cases h
      exact .inl rfl
    · rw [tables, run_bind_ok hnames] at h
      obtain ⟨before, name, after, numbers, s₂, rfl, hbefore, hname⟩ := inTurn_of_run_mapM_error h
      exact .inr ⟨before, name, after, numbers, s₁, s₂, rfl, hbefore, hname⟩

end DatabaseSchema
