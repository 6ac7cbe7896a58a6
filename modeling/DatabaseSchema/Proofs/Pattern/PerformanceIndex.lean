import DatabaseSchema.Proofs.DefaultPolicies
import DatabaseSchema.Proofs.Pattern.Spans
import DatabaseSchema.Proofs.Text.Upper

namespace DatabaseSchema

namespace Pattern

open Place

variable {p q : Pattern} {R : List Char → Prop} {s : CharSet} {n : Nat} {before after : List Char}

def Completes (p : Pattern) (R : List Char → Prop) : Prop :=
  ∀ before after, (∃ b, p.Spans (between before after) b) ↔ R after

theorem Completes.isMatch_iff (h : p.Completes R) {text : String} :
    p.isMatch text = true ↔ ∃ start rest, text.toList = start ++ rest ∧ R rest := by
  rw [Pattern.isMatch_iff]
  constructor
  · rintro ⟨_, b, ⟨start, rest, htext, rfl⟩, hspans⟩
    exact ⟨start, rest, htext, (h start rest).mp ⟨b, hspans⟩⟩
  · rintro ⟨start, rest, htext, hrest⟩
    obtain ⟨b, hspans⟩ := (h start rest).mpr hrest
    exact ⟨_, b, ⟨start, rest, htext, rfl⟩, hspans⟩

theorem completes_textEnd : (seq (look .textEnd) empty).Completes (· = []) := by
  intro before after
  cases after <;> simp [Spans, between, sees, Look.holds]

theorem completes_one (hq : q.Completes R) :
    (seq (one s) q).Completes fun after =>
      ∃ c rest, after = c :: rest ∧ s.has c = true ∧ R rest := by
  intro before after
  simp only [Spans, next?_between]
  constructor
  · rintro ⟨b, _, ⟨c, rest, hafter, hc, rfl⟩, hspans⟩
    exact ⟨c, rest, hafter, hc, (hq _ rest).mp ⟨b, hspans⟩⟩
  · rintro ⟨c, rest, hafter, hc, hrest⟩
    obtain ⟨b, hspans⟩ := (hq (before ++ [c]) rest).mpr hrest
    exact ⟨b, _, ⟨c, rest, hafter, hc, rfl⟩, hspans⟩

theorem completes_anyCase {word : List Char} (hword : ∀ k ∈ word, Text.Plain k)
    (hq : q.Completes R) :
    ((word.map fun k => one (.folded (.only k))).foldr seq q).Completes fun after =>
      ∃ mark rest, after = mark ++ rest ∧ mark.map Char.toLower = word.map Char.toLower ∧
        R rest := by
  induction word with
  | nil =>
      intro before after
      rw [List.map_nil, List.foldr_nil, hq before after]
      constructor
      · exact fun h => ⟨[], after, rfl, rfl, h⟩
      · rintro ⟨mark, rest, rfl, hmark, hrest⟩
        rwa [List.map_eq_nil_iff.mp hmark, List.nil_append]
  | cons k word ih =>
      obtain ⟨hk, hword⟩ := List.forall_mem_cons.mp hword
      intro before after
      rw [List.map_cons, List.foldr_cons, completes_one (ih hword) before after]
      constructor
      · rintro ⟨c, _, rfl, hc, mark, rest, rfl, hmark, hrest⟩
        have hc : c.toLower = k.toLower := (CharSet.has_folded_only hk).mp hc
        exact ⟨c :: mark, rest, rfl, by rw [List.map_cons, hc, hmark, List.map_cons], hrest⟩
      · rintro ⟨mark, rest, rfl, hmark, hrest⟩
        obtain ⟨c, mark, rfl, hc, hmark⟩ := List.map_eq_cons_iff.mp hmark
        exact ⟨c, _, rfl, (CharSet.has_folded_only hk).mpr hc, mark, rest, rfl, hmark, hrest⟩

theorem steps_one {b : Place} :
    Steps (one s).Spans n (between before after) b ↔
      ∃ read rest, after = read ++ rest ∧ read.length = n ∧ (∀ c ∈ read, s.has c = true) ∧
        b = between (before ++ read) rest := by
  induction n generalizing before after with
  | zero =>
      rw [steps_zero]
      constructor
      · rintro rfl
        exact ⟨[], after, rfl, rfl, nofun, by rw [List.append_nil]⟩
      · rintro ⟨read, rest, rfl, hread, -, rfl⟩
        rw [List.length_eq_zero_iff.mp hread, List.append_nil, List.nil_append]
  | succ n ih =>
      simp only [steps_succ, Spans, next?_between]
      constructor
      · rintro ⟨_, ⟨c, _, rfl, hc, rfl⟩, hsteps⟩
        obtain ⟨read, rest, rfl, rfl, hread, rfl⟩ := ih.mp hsteps
        exact ⟨c :: read, rest, rfl, rfl, List.forall_mem_cons.mpr ⟨hc, hread⟩, by simp⟩
      · rintro ⟨read, rest, rfl, hlength, hread, rfl⟩
        obtain ⟨c, read, rfl⟩ := List.exists_cons_of_length_eq_add_one hlength
        obtain ⟨hc, hread⟩ := List.forall_mem_cons.mp hread
        exact ⟨_, ⟨c, _, rfl, hc, rfl⟩,
          ih.mpr ⟨read, rest, rfl, Nat.succ.inj hlength, hread, by simp⟩⟩

theorem completes_repeated {least : Nat} (hq : q.Completes R) :
    (seq (repeated (one s) least none) q).Completes fun after =>
      ∃ read rest, after = read ++ rest ∧ least ≤ read.length ∧ (∀ c ∈ read, s.has c = true) ∧
        R rest := by
  intro before after
  simp only [Spans, Option.mem_def, reduceCtorEq, false_implies, implies_true, true_and]
  constructor
  · rintro ⟨b, _, ⟨n, hn, hsteps⟩, hspans⟩
    obtain ⟨read, rest, rfl, rfl, hread, rfl⟩ := steps_one.mp hsteps
    exact ⟨read, rest, rfl, hn, hread, (hq _ rest).mp ⟨b, hspans⟩⟩
  · rintro ⟨read, rest, rfl, hleast, hread, hrest⟩
    obtain ⟨b, hspans⟩ := (hq (before ++ read) rest).mpr hrest
    exact ⟨b, _, ⟨read.length, hleast, steps_one.mpr ⟨read, rest, rfl, rfl, hread, rfl⟩⟩, hspans⟩

theorem performanceIndex_eq :
    performanceIndex = ("_PRF".toList.map fun k => one (.folded (.only k))).foldr seq
      (seq (repeated (one .digit) 1 none) (seq (look .textEnd) empty)) := rfl

end Pattern

def NamesPerformanceIndex (name : String) : Prop :=
  ∃ start mark digits, name.toList = start ++ mark ++ digits ∧
    mark.map Char.toLower = "_prf".toList ∧ digits ≠ [] ∧
    ∀ c ∈ digits, Text.isDecimalDigit c = true

theorem isPerformanceIndex_iff {name : String} :
    isPerformanceIndex name = true ↔ NamesPerformanceIndex name := by
  have hword : ∀ k ∈ "_PRF".toList, Text.Plain k := by
    have hchecked : "_PRF".toList.all Text.isPlain = true := by decide +kernel
    exact fun k hk => Text.plain_of_isPlain (List.all_eq_true.mp hchecked k hk)
  have hdigits := @Pattern.completes_repeated _ _ .digit 1 Pattern.completes_textEnd
  have hcompletes := Pattern.completes_anyCase hword hdigits
  rw [isPerformanceIndex, Pattern.performanceIndex_eq, hcompletes.isMatch_iff]
  constructor
  · rintro ⟨start, _, hname, mark, _, rfl, hmark, digits, _, rfl, hone, hdigits, rfl⟩
    refine ⟨start, mark, digits, ?_, hmark, List.length_pos_iff.mp hone, hdigits⟩
    rw [hname, List.append_nil, List.append_assoc]
  · rintro ⟨start, mark, digits, hname, hmark, hone, hdigits⟩
    refine ⟨start, _, ?_, mark, _, rfl, hmark, digits, [], rfl, List.length_pos_iff.mpr hone,
      hdigits, rfl⟩
    rw [hname, List.append_nil, List.append_assoc]

example : isPerformanceIndex "a_PRF1\nb_Prf١2" = true := by decide +kernel

theorem NamesPerformanceIndex.not_push {name : String} {c : Char}
    (hc : Text.isDecimalDigit c = false) : ¬NamesPerformanceIndex (name.push c) := by
  rintro ⟨start, mark, digits, hname, -, hone, hdigits⟩
  have hlast : digits.getLast hone = c := by
    have hends := congrArg List.getLast? hname
    rw [String.toList_push, List.getLast?_concat, List.getLast?_append,
      List.getLast?_eq_some_getLast hone, Option.some_or] at hends
    exact (Option.some.inj hends).symm
  have hdigit := hdigits c (hlast ▸ List.getLast_mem hone)
  rw [hc] at hdigit
  cases hdigit

def lineBreaks : List Char :=
  ['\n', '\r', '\x0b', '\x0c', '\u0085', '\u2028', '\u2029']

theorem isDecimalDigit_lineBreak {c : Char} (hc : c ∈ lineBreaks) :
    Text.isDecimalDigit c = false := by
  have hall : lineBreaks.all (!Text.isDecimalDigit ·) = true := by decide +kernel
  simpa using List.all_eq_true.mp hall c hc

theorem performanceIndex_recognized (limit : Pattern.SizeLimit) (name : String) :
    (isPerformanceIndex name = true ↔ NamesPerformanceIndex name) ∧
      (∀ c ∈ lineBreaks, isPerformanceIndex (name.push c) = false) ∧
      ∃ (settings : StandardPolicy) (inline : Pattern),
        MetadataSettings.policy limit {} = .ok settings ∧
        Pattern.parse? limit false "(?i)_PRF\\d+$" = some inline ∧
        (inline.isMatch name = true ↔ NamesPerformanceIndex name) ∧
        ∀ p ∈ [Policy.conventional, StandardPolicy.toPolicy {}, settings.toPolicy],
          p.isIgnoredIndex name = true ↔ NamesPerformanceIndex name := by
  refine ⟨isPerformanceIndex_iff, fun c hc => ?_, {}, _, MetadataSettings.policy_default limit,
    Pattern.parse?_performanceIndex_inline limit, ?_, fun p hp => ?_⟩
  · rw [← Bool.not_eq_true, isPerformanceIndex_iff]
    exact NamesPerformanceIndex.not_push (isDecimalDigit_lineBreak hc)
  · rw [Pattern.isMatch_seq_empty]
    exact isPerformanceIndex_iff
  · have hignored : p.isIgnoredIndex name = Policy.conventional.isIgnoredIndex name := by
      simp only [List.mem_cons, List.not_mem_nil, or_false, or_self] at hp
      obtain rfl | rfl := hp
      · rfl
      · exact StandardPolicy.toPolicy_default_agrees.isIgnoredIndex name
    rw [hignored, Policy.isIgnoredIndex_conventional, isPerformanceIndex_iff]

end DatabaseSchema
