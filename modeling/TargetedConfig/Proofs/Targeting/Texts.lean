import Mathlib
import TargetedConfig.Proofs.Pattern.Matching
import TargetedConfig.Proofs.Targeting.Faults

/-!
# Comparing texts

Text comparisons take any number of targets and look for one that fits. For patterns neither their
order nor their number matters, and a malformed one is passed over: it is only told of when no
pattern matches. On letters and digits patterns agree with the plain comparisons.
-/

namespace TargetedConfig

namespace Pattern

/-- A pattern is not well formed, whatever it is matched with. -/
def isMalformed (pattern : String) : Bool :=
  match Compiled.read pattern with
  | .error .malformed => true
  | _ => false

theorem Compiled.matchesAll_ne_malformed (c : Compiled) (text : String) :
    c.matchesAll text ≠ .error .malformed := by
  intro h
  rw [matchesAll] at h
  split at h
  · cases h
  · split at h
    · cases h
    · split at h <;> cases h

/-- Whether a pattern is malformed does not depend on the text that it is matched with. -/
theorem fullMatch_eq_malformed_iff {pattern text : String} :
    fullMatch pattern text = .error .malformed ↔ isMalformed pattern = true := by
  rw [fullMatch, isMalformed]
  rcases Compiled.read pattern with fault | c
  · cases fault <;> simp [Except.bind]
  · simpa [Except.bind] using c.matchesAll_ne_malformed text

end Pattern

namespace Comparison

def Matches (signal pattern : String) : Prop := Pattern.fullMatch pattern signal = .ok true

/-- A pattern has no fault for a signal but that it may be malformed. -/
def Harmless (signal pattern : String) : Prop :=
  ∀ fault, Pattern.fullMatch pattern signal = .error fault → fault = .malformed

variable {signal pattern : String} {patterns : List String}

theorem Matches.not_malformed (h : Matches signal pattern) :
    Pattern.isMalformed pattern = false := by
  rw [← Bool.not_eq_true, ← Pattern.fullMatch_eq_malformed_iff, show _ = _ from h]
  exact nofun

theorem Harmless.passedOver (h : Harmless signal pattern) (hm : ¬Matches signal pattern) :
    PassedOver signal pattern := by
  rcases hf : Pattern.fullMatch pattern signal with fault | _ | _
  · exact .inr (hf.trans (by rw [h fault hf]))
  · exact .inl hf
  · exact absurd hf hm

theorem filter_isMalformed (signal : String) (patterns : List String) :
    patterns.filter (isMalformed signal) = patterns.filter Pattern.isMalformed := by
  refine List.filter_congr fun pattern _ => Bool.eq_iff_iff.2 ?_
  rw [← @Pattern.fullMatch_eq_malformed_iff _ signal, isMalformed]
  split <;> simp_all

/-- One pattern that matches is enough, whatever stands before it. -/
theorem matchesAny_of_matches (hp : ∀ p ∈ patterns, Harmless signal p)
    (hm : ∃ p ∈ patterns, Matches signal p) (malformed : List String) :
    matchesAny signal malformed patterns = .ok (.ok true) := by
  induction patterns generalizing malformed with
  | nil => simp at hm
  | cons pattern rest ih =>
    by_cases h : Matches signal pattern
    · rw [matchesAny, show _ = _ from h]
    · have hr : ∃ p ∈ rest, Matches signal p := by simpa [h] using hm
      obtain ⟨passed, he⟩ :=
        matchesAny_cons_of_passedOver ((hp pattern (by simp)).passedOver h) malformed rest
      rw [he]
      exact ih (fun p h => hp p (by simp [h])) hr passed

/-- What comes of patterns without faults: one of them matches, or none does and none is malformed,
or none does and the malformed ones are refused in their order. -/
theorem compare_patterns (hp : ∀ p ∈ patterns, Harmless signal p) :
    ((∃ p ∈ patterns, Matches signal p) ∧
      compare (.string .matchesPattern) signal patterns = .ok (.ok true)) ∨
    (¬∃ p ∈ patterns, Matches signal p) ∧
      ((¬∃ p ∈ patterns, Pattern.isMalformed p = true) ∧
          compare (.string .matchesPattern) signal patterns = .ok (.ok false) ∨
        (∃ p ∈ patterns, Pattern.isMalformed p = true) ∧
          compare (.string .matchesPattern) signal patterns =
            .ok (.error (.invalidPatterns (patterns.filter Pattern.isMalformed)))) := by
  change (_ ∧ matchesAny signal [] patterns = _) ∨
    _ ∧ (_ ∧ matchesAny signal [] patterns = _ ∨ _ ∧ matchesAny signal [] patterns = _)
  by_cases hm : ∃ p ∈ patterns, Matches signal p
  · exact .inl ⟨hm, matchesAny_of_matches hp hm []⟩
  · have h := matchesAny_of_passedOver (fun p h => (hp p h).passedOver fun k => hm ⟨p, h, k⟩) []
    have he : (patterns.filter Pattern.isMalformed).isEmpty = true ↔
        ¬∃ p ∈ patterns, Pattern.isMalformed p = true := by
      simp [List.filter_eq_nil_iff]
    rw [List.reverse_nil, List.nil_append, filter_isMalformed] at h
    refine .inr ⟨hm, ?_⟩
    by_cases hf : ∃ p ∈ patterns, Pattern.isMalformed p = true
    · rw [if_neg fun k => he.1 k hf] at h
      exact .inr ⟨hf, h⟩
    · rw [if_pos (he.2 hf)] at h
      exact .inl ⟨hf, h⟩

theorem compare_pattern {answer : Bool} (h : Pattern.fullMatch pattern signal = .ok answer) :
    compare (.string .matchesPattern) signal [pattern] = .ok (.ok answer) := by
  cases answer <;> simp [compare, texts, matchesAny, h]

theorem occursIn_iff {target text : List Char} :
    occursIn target text = true ↔ target <:+: text := by
  induction text with
  | nil => simp [occursIn]
  | cons x text ih =>
    rw [occursIn, Bool.or_eq_true, ih, List.infix_cons_iff, List.isPrefixOf_iff_prefix]

theorem infix_toList_iff {target text : String} :
    target.toList <:+: text.toList ↔ ∃ before after, text = before ++ target ++ after := by
  constructor
  · rintro ⟨u, v, h⟩
    refine ⟨.ofList u, .ofList v, String.toList_inj.1 ?_⟩
    simp [← h]
  · rintro ⟨before, after, rfl⟩
    exact ⟨before.toList, after.toList, by simp⟩

end Comparison

namespace Condition

open Audited Comparison

/-- A condition on the patterns that a signal may match. -/
def matching (key : String) (patterns : List String) : Condition :=
  .signal ⟨key, .string .matchesPattern, patterns⟩

/-- A condition on patterns without faults is true if one of them matches. -/
theorem answer_matching (maxDepth depth : Int) {context : Context} {key signal : String}
    (given : context.get? key = some signal) {targets : List String}
    (hp : ∀ p ∈ targets, Harmless signal p) (l : Ledger) :
    ∃ answer, ((evaluate maxDepth (some context) depth (matching key targets)).runOn l).1 =
        .ok answer ∧ (answer = true ↔ depth ≤ maxDepth ∧ ∃ p ∈ targets, Matches signal p) := by
  rw [runOn_evaluate]
  by_cases hd : depth ≤ maxDepth
  · rw [matching, verdict_signal hd]
    by_cases ht : targets = []
    · rw [verdict_evaluateSignal_of_nil ht]
      exact ⟨false, rfl, by simp [ht]⟩
    · rw [verdict_evaluateSignal context ht, given]
      dsimp only
      rcases compare_patterns hp with ⟨hm, h⟩ | ⟨hm, ⟨-, h⟩ | ⟨-, h⟩⟩
      · rw [h]
        exact ⟨true, rfl, by simp [hd, hm]⟩
      · rw [h]
        exact ⟨false, rfl, by simp [hm]⟩
      · rw [h]
        exact ⟨false, rfl, by simp [hm]⟩
  · rw [verdict_of_lt (Int.not_le.1 hd)]
    exact ⟨false, rfl, by simp [hd]⟩

end Condition

namespace Comparison

open Condition

/-- A text comparison with any number of targets asks for one that fits: a part of the signal, the
signal itself, or a pattern that matches it. Patterns of which none matches are refused if some are
malformed, and just these are named. The answer of a condition on patterns depends on the set of its
well-formed patterns alone, and a true one stays true when patterns are added. -/
theorem compare_string (signal : String) (targets : List String) :
    (∃ answer, compare (.string .contains) signal targets = .ok (.ok answer) ∧
      compare (.string .doesNotContain) signal targets = .ok (.ok !answer) ∧
      (answer = true ↔
        ∃ target ∈ targets, ∃ before after, signal = before ++ target ++ after)) ∧
    (∃ answer, compare (.string .exactlyMatches) signal targets = .ok (.ok answer) ∧
      (answer = true ↔ signal ∈ targets)) ∧
    ((∀ p ∈ targets, Harmless signal p) →
      (compare (.string .matchesPattern) signal targets = .ok (.ok true) ↔
        ∃ p ∈ targets, Matches signal p) ∧
      (RefusedAs (.string .matchesPattern) signal targets .invalidRegex ↔
        (¬∃ p ∈ targets, Matches signal p) ∧ ∃ p ∈ targets, Pattern.isMalformed p = true) ∧
      (∀ refusal, compare (.string .matchesPattern) signal targets = .ok (.error refusal) →
        refusal = .invalidPatterns (targets.filter Pattern.isMalformed)) ∧
      (compare (.string .matchesPattern) signal targets = .ok (.ok false) ↔
        (¬∃ p ∈ targets, Matches signal p) ∧ ¬∃ p ∈ targets, Pattern.isMalformed p = true) ∧
      ∀ (context : Context) (key : String) (maxDepth depth : Int) (others : List String)
        (l k : Ledger), context.get? key = some signal → (∀ p ∈ others, Harmless signal p) →
        ∃ answer other,
          ((evaluate maxDepth (some context) depth (matching key targets)).runOn l).1 =
            .ok answer ∧
          ((evaluate maxDepth (some context) depth (matching key others)).runOn k).1 =
            .ok other ∧
          ((∀ p, Pattern.isMalformed p = false → (p ∈ targets ↔ p ∈ others)) →
            other = answer) ∧
          (targets ⊆ others → answer = true → other = true)) := by
  refine ⟨⟨_, rfl, rfl, ?_⟩, ⟨_, rfl, ?_⟩, ?_⟩
  · simp only [List.any_eq_true, occursIn_iff, infix_toList_iff]
  · simp
  · intro hp
    refine ⟨?_, ?_, ?_, ?_, ?_⟩
    · rcases compare_patterns hp with ⟨hm, h⟩ | ⟨hm, ⟨-, h⟩ | ⟨-, h⟩⟩ <;> simp [h, hm]
    · rcases compare_patterns hp with ⟨hm, h⟩ | ⟨hm, ⟨hf, h⟩ | ⟨hf, h⟩⟩
      · simp [RefusedAs, h, hm]
      · simp [RefusedAs, h, hf]
      · simp [RefusedAs, h, hm, hf, Refusal.code]
    · intro refusal hr
      rcases compare_patterns hp with ⟨-, h⟩ | ⟨-, ⟨-, h⟩ | ⟨-, h⟩⟩
      · cases hr.symm.trans h
      · cases hr.symm.trans h
      · cases hr.symm.trans h
        rfl
    · rcases compare_patterns hp with ⟨hm, h⟩ | ⟨hm, ⟨hf, h⟩ | ⟨hf, h⟩⟩
      · simp [h, hm]
      · simp [h, hm, hf]
      · simp [h, hf]
    · intro context key maxDepth depth others l k given ho
      obtain ⟨answer, ha, hi⟩ := answer_matching maxDepth depth given hp l
      obtain ⟨other, hb, hj⟩ := answer_matching maxDepth depth given ho k
      refine ⟨answer, other, ha, hb, fun hs => ?_, fun hs ht => ?_⟩
      · rw [Bool.eq_iff_iff, hi, hj]
        refine and_congr_right fun _ => exists_congr fun p => and_congr_left fun hm => ?_
        exact (hs p hm.not_malformed).symm
      · obtain ⟨hd, p, hp, hm⟩ := hi.1 ht
        exact hj.2 ⟨hd, p, hs hp, hm⟩

theorem compare_string_unclosed :
    let targets := ["(", "a.d", "("]
    let others := ["a.d", "[", "(", "a.d"]
    let context : Context := ⟨.ofList [("k", "abc")]⟩
    (∀ p ∈ targets, Harmless "abc" p) ∧ (∀ p ∈ others, Harmless "abc" p) ∧
      (∀ p, Pattern.isMalformed p = false → (p ∈ targets ↔ p ∈ others)) ∧
      RefusedAs (.string .matchesPattern) "abc" targets .invalidRegex ∧
      ∃ answer,
        ((evaluate 10 (some context) 0 (matching "k" targets)).runOn {}).1 = .ok answer ∧
        ((evaluate 10 (some context) 0 (matching "k" others)).runOn {}).1 = .ok answer := by
  intro targets others context
  have hopen : Pattern.fullMatch "(" "abc" = .error .malformed := by cbv
  have hset : Pattern.fullMatch "[" "abc" = .error .malformed := by cbv
  have hdot : Pattern.fullMatch "a.d" "abc" = .ok false := by cbv
  have harmless : ∀ p ∈ ["(", "[", "a.d"], Harmless "abc" p := by
    intro p hp fault h
    simp only [List.mem_cons, List.not_mem_nil, or_false] at hp
    rcases hp with rfl | rfl | rfl
    · exact (Except.error.inj (hopen.symm.trans h)).symm
    · exact (Except.error.inj (hset.symm.trans h)).symm
    · cases hdot.symm.trans h
  have known : ∀ p ∈ targets ++ others, p ∈ ["(", "[", "a.d"] := by decide
  have ht : ∀ p ∈ targets, Harmless "abc" p := fun p hp => harmless p (known p (by simp [hp]))
  have ho : ∀ p ∈ others, Harmless "abc" p := fun p hp => harmless p (known p (by simp [hp]))
  have hs : ∀ p, Pattern.isMalformed p = false → (p ∈ targets ↔ p ∈ others) := by
    intro p hp
    have hu : p ≠ "(" := by
      rintro rfl
      rw [Pattern.fullMatch_eq_malformed_iff.1 hopen] at hp
      cases hp
    have hv : p ≠ "[" := by
      rintro rfl
      rw [Pattern.fullMatch_eq_malformed_iff.1 hset] at hp
      cases hp
    simp [targets, others, hu, hv]
  obtain ⟨-, -, patterns⟩ := compare_string "abc" targets
  obtain ⟨-, refused, -, -, answers⟩ := patterns ht
  obtain ⟨answer, other, ha, hb, same, -⟩ := answers context "k" 10 0 others {} {} rfl ho
  refine ⟨ht, ho, hs, refused.2 ⟨?_, "(", by simp [targets], ?_⟩, answer, ha, ?_⟩
  · rintro ⟨p, hp, hm⟩
    simp only [targets, List.mem_cons, List.not_mem_nil, or_false] at hp
    rcases hp with rfl | rfl | rfl
    · cases hopen.symm.trans hm
    · cases hdot.symm.trans hm
    · cases hopen.symm.trans hm
  · exact Pattern.fullMatch_eq_malformed_iff.1 hopen
  · rw [hb, same hs]

/-- A pattern of letters and digits agrees with the signal being equal to it, and one with any text
before and after them with their occurring in the signal. -/
theorem compare_alphanum (signal text : String) (plain : ∀ c ∈ text.toList, c.isAlphanum = true) :
    compare (.string .matchesPattern) signal [text] =
        compare (.string .exactlyMatches) signal [text] ∧
      compare (.string .matchesPattern) signal ["(?s).*" ++ text ++ ".*"] =
        compare (.string .contains) signal [text] := by
  have equal : decide (signal = text) = [text].any (· == signal) := by
    rw [Bool.eq_iff_iff, decide_eq_true_iff, List.any_cons, List.any_nil, Bool.or_false,
      beq_iff_eq, eq_comm]
  have occurs : decide (text.toList <:+: signal.toList) =
      [text].any fun t => occursIn t.toList signal.toList := by
    rw [Bool.eq_iff_iff, decide_eq_true_iff, List.any_cons, List.any_nil, Bool.or_false,
      occursIn_iff]
  rw [compare_pattern (Pattern.fullMatch_text plain signal),
    compare_pattern (Pattern.fullMatch_surrounded plain signal), equal, occurs]
  exact ⟨rfl, rfl⟩

theorem compare_alphanum_lines :
    (∀ c ∈ "b0".toList, c.isAlphanum = true) ∧
      compare (.string .matchesPattern) "a\nbb0\n" ["(?s).*" ++ "b0" ++ ".*"] =
        compare (.string .contains) "a\nbb0\n" ["b0"] := by
  have plain : ∀ c ∈ "b0".toList, c.isAlphanum = true := List.all_eq_true.1 (by decide)
  exact ⟨plain, (compare_alphanum "a\nbb0\n" "b0" plain).2⟩

end Comparison

end TargetedConfig
