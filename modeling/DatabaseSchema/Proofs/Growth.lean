import DatabaseSchema.Proofs.Piece

namespace DatabaseSchema

open Session

variable {α β γ : Type} {source : Source} {s s₁ s' : Session}

namespace Session

def Sound (s : Session) : Prop :=
  ∀ c, s.provider.keptNames = some c → c.WellFormed

theorem sound_start (context : Context) : (start context).Sound := by
  intro c hc
  simp [start] at hc

theorem Growth.sound {asked : List Piece} (h : Growth source s asked s') (hs : s.Sound) :
    s'.Sound := by
  intro c hc
  cases hold : s.provider.keptNames with
  | some c' =>
      have heq : c' = c := Option.some.inj ((h.toKeeps.keptNames hold).symm.trans hc)
      exact heq ▸ hs c' hold
  | none =>
      have hn : s.content? .tableNames = none := by simp [content?, hold]
      have hc' : s'.content? .tableNames = some (.names c) := by simp [content?, hc]
      cases h.obtained hn hc' with
      | tableNames ha =>
          obtain ⟨_, _, _, hr⟩ := ha
          exact Catalog.tableNames_wellFormed hr

end Session

namespace Act

-- An act that makes a session grow by asking for given pieces. It keeps them all if it succeeds,
-- and otherwise all that could be read.
structure GrowsBy (act : Act α) (source : Source) (s : Session) (asked : List Piece) : Prop where
  growth : Growth source s asked (act.run source s).2
  kept : ∀ a, (act.run source s).1 = .ok a →
    ∀ piece ∈ asked, (act.run source s).2.content? piece ≠ none
  unread : ∀ piece ∈ asked, (act.run source s).2.content? piece = none →
    Unread source s (act.run source s).2 piece

def GrowsAt (act : Act α) (source : Source) (s : Session) : Prop :=
  ∃ asked, asked.Nodup ∧ act.GrowsBy source s asked

def Grows (act : Act α) : Prop :=
  ∀ source s, s.Sound → act.GrowsAt source s

theorem GrowsBy.of_run {act : Act α} {asked : List Piece} {r : Except SchemaError α}
    (h : act.GrowsBy source s asked) (hrun : act.run source s = (r, s')) :
    Growth source s asked s' ∧ (∀ a, r = .ok a → ∀ piece ∈ asked, s'.content? piece ≠ none) ∧
      ∀ piece ∈ asked, s'.content? piece = none → Unread source s s' piece := by
  obtain ⟨hg, hk, hu⟩ := h
  rw [hrun] at hg hk hu
  exact ⟨hg, hk, hu⟩

theorem GrowsBy.congr {act act' : Act α} {asked : List Piece}
    (h : act.run source s = act'.run source s) (hg : act'.GrowsBy source s asked) :
    act.GrowsBy source s asked := by
  obtain ⟨hg, hk, hu⟩ := hg
  rw [← h] at hg hk hu
  exact ⟨hg, hk, hu⟩

theorem GrowsAt.congr {act act' : Act α} (h : act.run source s = act'.run source s)
    (hg : act'.GrowsAt source s) : act.GrowsAt source s := by
  obtain ⟨asked, hd, hb⟩ := hg
  exact ⟨asked, hd, hb.congr h⟩

theorem GrowsAt.of_run {act : Act α} {r : Except SchemaError α} (h : act.GrowsAt source s)
    (hrun : act.run source s = (r, s')) :
    ∃ asked, asked.Nodup ∧ Growth source s asked s' ∧
      (∀ a, r = .ok a → ∀ piece ∈ asked, s'.content? piece ≠ none) ∧
      ∀ piece ∈ asked, s'.content? piece = none → Unread source s s' piece := by
  obtain ⟨asked, hd, hb⟩ := h
  exact ⟨asked, hd, hb.of_run hrun⟩

theorem growsBy_pure (a : α) : (pure a : Act α).GrowsBy source s [] :=
  ⟨.refl source s, by simp, by simp⟩

theorem growsAt_pure (a : α) : (pure a : Act α).GrowsAt source s :=
  ⟨[], List.nodup_nil, growsBy_pure a⟩

theorem GrowsAt.bind {x : Act α} {f : α → Act β} (hx : x.GrowsAt source s)
    (hf : ∀ a s', x.run source s = (.ok a, s') → (f a).GrowsAt source s') :
    (x >>= f).GrowsAt source s := by
  rcases hrun : x.run source s with ⟨e | a, s₁⟩
  · obtain ⟨asked, hd, hg, -, hu⟩ := hx.of_run hrun
    refine ⟨asked, hd, ?_, ?_, ?_⟩ <;> rw [run_bind_error hrun]
    · exact hg
    · simp
    · exact hu
  · obtain ⟨asked₁, hd₁, hg₁, hk₁, -⟩ := hx.of_run hrun
    obtain ⟨asked₂, hd₂, hg₂, hk₂, hu₂⟩ := hf a s₁ hrun
    refine ⟨asked₁ ++ asked₂, ?_, ?_, ?_, ?_⟩
    · -- what the first act asked for is kept, so the second does not ask for it
      refine List.nodup_append.mpr ⟨hd₁, hd₂, ?_⟩
      rintro piece hp₁ _ hp₂ rfl
      exact hk₁ a rfl piece hp₁ (hg₂.missing piece hp₂)
    · rw [run_bind_ok hrun]
      exact hg₁.trans hg₂
    · rw [run_bind_ok hrun]
      intro b hb piece hp
      rcases List.mem_append.mp hp with hp | hp
      · exact fun hn => hk₁ a rfl piece hp (hg₂.toKeeps.missing hn)
      · exact hk₂ b hb piece hp
    · rw [run_bind_ok hrun]
      intro piece hp hn
      rcases List.mem_append.mp hp with hp | hp
      · exact absurd (hg₂.toKeeps.missing hn) (hk₁ a rfl piece hp)
      · exact (hu₂ piece hp hn).widen hg₁.history (.refl _)

theorem GrowsAt.sound {act : Act α} (h : act.GrowsAt source s) (hs : s.Sound) :
    (act.run source s).2.Sound := by
  obtain ⟨asked, -, hb⟩ := h
  exact hb.growth.sound hs

theorem grows_pure (a : α) : (pure a : Act α).Grows :=
  fun _ _ _ => growsAt_pure a

theorem grows_throw (e : SchemaError) : (throw e : Act α).Grows :=
  fun source s _ => ⟨[], List.nodup_nil, .refl source s, by simp, by simp⟩

theorem grows_get : (get : Act Session).Grows :=
  fun source s _ => ⟨[], List.nodup_nil, .refl source s, by simp, by simp⟩

theorem grows_report (events : List Event) : (report events).Grows :=
  fun source s _ => ⟨[], List.nodup_nil, .report source s events, by simp, by simp⟩

theorem Grows.bind {x : Act α} {f : α → Act β} (hx : x.Grows) (hf : ∀ a, (f a).Grows) :
    (x >>= f).Grows := by
  intro source s hs
  refine (hx source s hs).bind fun a s' hrun => hf a source s' ?_
  have := (hx source s hs).sound hs
  rwa [hrun] at this

theorem Grows.mapM {f : α → Act β} (hf : ∀ a, (f a).Grows) (items : List α) :
    (items.mapM f).Grows := by
  induction items with
  | nil =>
      rw [List.mapM_nil]
      exact grows_pure []
  | cons a items ih =>
      rw [List.mapM_cons]
      exact (hf a).bind fun b => ih.bind fun bs => grows_pure (b :: bs)

theorem growsBy_load {act : Act α} {piece : Piece} {q : Query} {events : List Event}
    {r : Except SchemaError α} {keep : Session → α → Session}
    (hrun : act.run source s = (r, (s.asked q events).keeping keep r))
    (hn : s.content? piece = none) (hq : s.query? piece = some q)
    (hkeep : ∀ a, r = .ok a → ∃ content, (s.asked q events).Adds
      (keep (s.asked q events) a) piece content ∧
        Obtained source s (keep (s.asked q events) a) piece content)
    (hfail : (∀ a, r ≠ .ok a) → Unread source s (s.asked q events) piece) :
    act.GrowsBy source s [piece] := by
  have hask : Growth source s [piece] (s.asked q events) := .ask hn hq events
  refine ⟨?_, ?_, ?_⟩ <;> rw [hrun]
  · cases r with
    | error e => exact hask
    | ok a =>
        obtain ⟨content, hadd, hobt⟩ := hkeep a rfl
        exact hadd.growth hask hobt
  · rintro a rfl
    obtain ⟨content, hadd, hobt⟩ := hkeep a rfl
    simpa [Session.keeping] using Option.ne_none_iff_exists'.mpr ⟨content, hadd.kept⟩
  · intro _ hp hmissing
    obtain rfl := List.mem_singleton.mp hp
    cases r with
    | error e => exact hfail nofun
    | ok a =>
        obtain ⟨content, hadd, -⟩ := hkeep a rfl
        exact absurd (hadd.kept.symm.trans hmissing) nofun

end Act

end DatabaseSchema
