import TargetedConfig.Proofs.Targeting.Evaluation

/-!
# Faults of data and faults of patterns

Every fault of the data makes its node false and is warned of once. The faults of patterns other
than being malformed are different: they end the evaluation of the tree. `Condition.Breaks` says
when that happens, along the order in which nodes and targets are looked at, and
`Condition.answer_eq_error_iff` that nothing else ends an evaluation in a context.
-/

namespace TargetedConfig

open Pattern (Fault)

namespace Comparison

/-- A pattern that is passed over: it does not match, or it is malformed. -/
def PassedOver (signal pattern : String) : Prop :=
  Pattern.fullMatch pattern signal = .ok false ∨
    Pattern.fullMatch pattern signal = .error .malformed

/-- Patterns, tried from the left, meet a fault before one of them matches. -/
inductive Faulting (signal : String) (fault : Fault) : List String → Prop where
  | here {pattern rest} (meets : Pattern.fullMatch pattern signal = .error fault)
      (severe : fault ≠ .malformed) : Faulting signal fault (pattern :: rest)
  | later {pattern rest} (passed : PassedOver signal pattern)
      (tail : Faulting signal fault rest) : Faulting signal fault (pattern :: rest)

theorem Faulting.ne_nil {signal : String} {fault : Fault} {patterns : List String}
    (h : Faulting signal fault patterns) : patterns ≠ [] := by
  cases h <;> simp

theorem matchesAny_cons_of_passedOver {signal pattern : String} (h : PassedOver signal pattern)
    (malformed patterns : List String) :
    ∃ others, matchesAny signal malformed (pattern :: patterns) =
      matchesAny signal others patterns := by
  rcases h with h | h
  · exact ⟨malformed, by rw [matchesAny, h]⟩
  · exact ⟨pattern :: malformed, by rw [matchesAny, h]⟩

/-- Trying patterns fails exactly when they meet a fault before one of them matches. -/
theorem matchesAny_eq_error_iff {signal : String} {fault : Fault}
    (malformed patterns : List String) :
    matchesAny signal malformed patterns = .error fault ↔ Faulting signal fault patterns := by
  induction patterns generalizing malformed with
  | nil =>
    constructor
    · intro h
      cases h
    · intro h
      exact absurd rfl h.ne_nil
  | cons pattern rest ih =>
    constructor
    · intro h
      rw [matchesAny] at h
      split at h
      · cases h
      · rename_i hm
        exact .later (.inl hm) ((ih _).1 h)
      · rename_i hm
        exact .later (.inr hm) ((ih _).1 h)
      · rename_i hn hm
        cases h
        exact .here hm hn
    · intro h
      cases h with
      | here meets severe => cases fault <;> simp_all [matchesAny]
      | later passed tail =>
        obtain ⟨others, ho⟩ := matchesAny_cons_of_passedOver passed malformed rest
        rw [ho]
        exact (ih others).2 tail

/-- A comparison fails exactly when it tries patterns that meet a fault. -/
theorem compare_eq_error_iff {op : SignalOperator} {signal : String} {targets : List String}
    {fault : Fault} :
    compare op signal targets = .error fault ↔
      op = .string .matchesPattern ∧ Faulting signal fault targets := by
  rw [← matchesAny_eq_error_iff []]
  rcases op with ⟨_ | _ | _ | _⟩ | r | r | _ <;> simp [compare, texts]

def isMalformed (signal pattern : String) : Bool :=
  match Pattern.fullMatch pattern signal with
  | .error .malformed => true
  | _ => false

/-- Of patterns that are all passed over the malformed ones are refused, in their order. -/
theorem matchesAny_of_passedOver {signal : String} {patterns : List String}
    (h : ∀ pattern ∈ patterns, PassedOver signal pattern) (malformed : List String) :
    matchesAny signal malformed patterns =
      .ok (if (malformed.reverse ++ patterns.filter (isMalformed signal)).isEmpty then .ok false
        else .error (.invalidPatterns
          (malformed.reverse ++ patterns.filter (isMalformed signal)))) := by
  induction patterns generalizing malformed with
  | nil => simp [matchesAny]
  | cons pattern rest ih =>
    have hr := ih fun other ho => h other (by simp [ho])
    rcases h pattern (by simp) with hp | hp
    · rw [matchesAny, hp]
      simpa [isMalformed, hp] using hr malformed
    · rw [matchesAny, hp]
      simpa [isMalformed, hp] using hr (pattern :: malformed)

/-- Targets that a comparison cannot use, with the kind of the fault. -/
inductive DataFault : SignalOperator → String → List String → Anomaly.Code → Prop where
  | unspecified {signal targets} : DataFault .unspecified signal targets .unspecifiedOperator
  | numericArity {r signal targets} (h : targets.length ≠ 1) :
      DataFault (.numeric r) signal targets .invalidTargetArity
  | versionArity {r signal targets} (h : targets.length ≠ 1) :
      DataFault (.version r) signal targets .invalidTargetArity
  | number {r signal target}
      (h : Binary64.parse? signal = none ∨ Binary64.parse? target = none) :
      DataFault (.numeric r) signal [target] .invalidNumber
  | version {r signal target} (h : Version.parse? signal = none ∨ Version.parse? target = none) :
      DataFault (.version r) signal [target] .invalidSemanticVersion
  | pattern {signal targets} (passed : ∀ p ∈ targets, PassedOver signal p)
      (malformed : ∃ p ∈ targets, Pattern.fullMatch p signal = .error .malformed) :
      DataFault (.string .matchesPattern) signal targets .invalidRegex

/-- A comparison that cannot use its targets is refused. -/
theorem compare_of_dataFault {op : SignalOperator} {signal : String} {targets : List String}
    {code : Anomaly.Code} (h : DataFault op signal targets code) :
    ∃ refusal : Refusal, refusal.code = code ∧
      compare op signal targets = .ok (.error refusal) := by
  cases h with
  | unspecified => exact ⟨.unsupportedOperator .unspecified, rfl, rfl⟩
  | numericArity h =>
    refine ⟨.numericArity targets, rfl, ?_⟩
    rcases targets with _ | ⟨target, _ | ⟨other, rest⟩⟩
    · rfl
    · exact absurd rfl h
    · rfl
  | versionArity h =>
    refine ⟨.versionArity targets, rfl, ?_⟩
    rcases targets with _ | ⟨target, _ | ⟨other, rest⟩⟩
    · rfl
    · exact absurd rfl h
    · rfl
  | @number r signal target h =>
    refine ⟨.invalidNumber signal target, rfl, ?_⟩
    rw [compare, numbers]
    rcases h with h | h
    · rw [h]
    · rw [h]
      cases Binary64.parse? signal <;> rfl
  | @version r signal target h =>
    refine ⟨.invalidVersion signal target, rfl, ?_⟩
    rw [compare, versions]
    rcases h with h | h
    · rw [h]
    · rw [h]
      cases Version.parse? signal <;> rfl
  | pattern passed malformed =>
    obtain ⟨p, hp, hm⟩ := malformed
    refine ⟨.invalidPatterns (targets.filter (isMalformed signal)), rfl, ?_⟩
    have hmem : p ∈ targets.filter (isMalformed signal) := by
      simp [hp, isMalformed, hm]
    have hne : ¬(targets.filter (isMalformed signal)).isEmpty = true := by
      intro he
      rw [List.isEmpty_iff.1 he] at hmem
      cases hmem
    change matchesAny signal [] targets = _
    rw [matchesAny_of_passedOver passed, List.reverse_nil, List.nil_append, if_neg hne]

/-- A comparison ends in a refusal of a kind. -/
def RefusedAs (op : SignalOperator) (signal : String) (targets : List String)
    (code : Anomaly.Code) : Prop :=
  ∃ refusal : Refusal, refusal.code = code ∧ compare op signal targets = .ok (.error refusal)

theorem RefusedAs.code_eq {op : SignalOperator} {signal : String} {targets : List String}
    {code other : Anomaly.Code} (h : RefusedAs op signal targets code)
    (k : RefusedAs op signal targets other) : code = other := by
  obtain ⟨refusal, rfl, h⟩ := h
  obtain ⟨refusal', rfl, k⟩ := k
  rw [h] at k
  cases k
  rfl

end Comparison

namespace Verdict

/-- Reading verdicts fails exactly when one of them fails and all before it let the reading go
on. -/
theorem readWhile_eq_error_iff {go : Bool} {verdicts : List (Verdict Bool)} {f : Failure} :
    (readWhile go verdicts).answer = .error f ↔
      ∃ before v after, verdicts = before ++ v :: after ∧ (∀ u ∈ before, u.answer = .ok go) ∧
        v.answer = .error f := by
  induction verdicts with
  | nil =>
    constructor
    · intro h
      cases h
    · rintro ⟨before, v, after, he, _⟩
      simp at he
  | cons v rest ih =>
    rw [readWhile, andThen]
    constructor
    · intro h
      rcases hv : v.answer with e | answer
      · rw [hv] at h
        exact ⟨[], v, rest, rfl, by simp, hv.trans h⟩
      · rw [hv] at h
        by_cases hg : answer = go
        · subst hg
          simp only [if_true] at h
          obtain ⟨before, w, after, rfl, hb, hw⟩ := ih.1 h
          refine ⟨v :: before, w, after, rfl, ?_, hw⟩
          intro u hu
          rcases List.mem_cons.1 hu with rfl | hu
          · exact hv
          · exact hb u hu
        · simp [hg] at h
    · rintro ⟨before, w, after, he, hb, hw⟩
      cases before with
      | nil =>
        cases he
        rw [hw]
      | cons u before =>
        cases he
        rw [hb v (by simp)]
        simp only [if_true]
        exact ih.2 ⟨before, w, after, rfl, fun u hu => hb u (by simp [hu]), hw⟩

/-- What a verdict that is read warns of is warned of in the end. -/
theorem anomalies_subset_readWhile {go : Bool} {before after : List (Verdict Bool)}
    {v : Verdict Bool} (h : ∀ u ∈ before, u.answer = .ok go) :
    v.anomalies ⊆ (readWhile go (before ++ v :: after)).anomalies := by
  induction before with
  | nil =>
    rw [List.nil_append, readWhile, andThen]
    cases v.answer <;> simp
  | cons u before ih =>
    have hr := ih fun w hw => h w (by simp [hw])
    rw [List.cons_append, readWhile, andThen, h u (by simp)]
    simp only [if_true]
    exact List.Subset.trans hr (List.subset_append_right _ _)

end Verdict

namespace Condition

open Audited

/-- The nodes that the evaluation of a tree comes to, with their depths: on the way every child
before them in an `or` is false, and every one before them in an `and` is true. -/
inductive Reaches (maxDepth : Int) (context : Context) :
    Int → Condition → Int → Condition → Prop where
  | here {depth c} : Reaches maxDepth context depth c depth c
  | or {depth before c after below node} (within : depth ≤ maxDepth)
      (passed : ∀ b ∈ before,
        (verdict maxDepth (some context) (depth + 1) b).answer = .ok false)
      (child : Reaches maxDepth context (depth + 1) c below node) :
      Reaches maxDepth context depth (.or (before ++ c :: after)) below node
  | and {depth before c after below node} (within : depth ≤ maxDepth)
      (passed : ∀ b ∈ before,
        (verdict maxDepth (some context) (depth + 1) b).answer = .ok true)
      (child : Reaches maxDepth context (depth + 1) c below node) :
      Reaches maxDepth context depth (.and (before ++ c :: after)) below node

/-- The evaluation of a tree comes to a signal condition whose patterns meet a fault. -/
def Breaks (maxDepth : Int) (context : Context) (fault : Fault) (depth : Int) (c : Condition) :
    Prop :=
  ∃ below test text, Reaches maxDepth context depth c below (.signal test) ∧ below ≤ maxDepth ∧
    test.operator = .string .matchesPattern ∧ context.get? test.key = some text ∧
    Comparison.Faulting text fault test.targets

/-- A node whose own data cannot be used, with the kind of the fault. -/
inductive DataFault (maxDepth : Int) (context : Context) :
    Int → Condition → Anomaly.Code → Prop where
  | tooDeep {depth c} (below : maxDepth < depth) :
      DataFault maxDepth context depth c .maxDepthExceeded
  | malformed {depth reason} (within : depth ≤ maxDepth) :
      DataFault maxDepth context depth (.malformed reason) .malformedCondition
  | foreign {depth name} (within : depth ≤ maxDepth) :
      DataFault maxDepth context depth (.foreign name) .malformedCondition
  | emptyAnd {depth} (within : depth ≤ maxDepth) :
      DataFault maxDepth context depth (.and []) .emptyAndCondition
  | noRandomizationId {depth slice} (within : depth ≤ maxDepth)
      (absent : context.randomizationId? = none) :
      DataFault maxDepth context depth (.percent slice) .missingRandomizationId
  | noPercentOperator {depth slice id} (within : depth ≤ maxDepth)
      (given : context.randomizationId? = some id) (operator : slice.operator = .unspecified) :
      DataFault maxDepth context depth (.percent slice) .unspecifiedOperator
  | noTargets {depth test} (within : depth ≤ maxDepth) (absent : test.targets = []) :
      DataFault maxDepth context depth (.signal test) .missingTargetValues
  | refused {depth test text code} (within : depth ≤ maxDepth) (targets : test.targets ≠ [])
      (given : context.get? test.key = some text)
      (comparison : Comparison.DataFault test.operator text test.targets code) :
      DataFault maxDepth context depth (.signal test) code

variable {maxDepth depth : Int} {context : Context}

private theorem answer_evaluatePercent_ne_error (slice : PercentSlice) (f : Failure) :
    (evaluatePercent (some context) slice).verdict.answer ≠ .error f := by
  rw [verdict_evaluatePercent]
  cases context.randomizationId? with
  | none => simp
  | some id =>
    dsimp only
    cases slice.holds? (Bucket.ofId slice.seed id) <;> simp

private theorem answer_evaluateSignal_eq_error_iff (test : SignalTest) (f : Failure) :
    (evaluateSignal (some context) test).verdict.answer = .error f ↔
      ∃ fault text, f = .pattern fault ∧ context.get? test.key = some text ∧
        test.operator = .string .matchesPattern ∧
        Comparison.Faulting text fault test.targets := by
  by_cases ht : test.targets = []
  · rw [verdict_evaluateSignal_of_nil ht]
    constructor
    · intro h
      cases h
    · rintro ⟨fault, text, -, -, -, h⟩
      exact absurd ht h.ne_nil
  · rw [verdict_evaluateSignal context ht]
    cases context.get? test.key with
    | none => simp
    | some text =>
      dsimp only
      constructor
      · intro h
        rcases hc : Comparison.compare test.operator text test.targets with fault | refusal | answer
        · rw [hc] at h
          cases h
          obtain ⟨ho, hf⟩ := Comparison.compare_eq_error_iff.1 hc
          exact ⟨fault, text, rfl, rfl, ho, hf⟩
        · rw [hc] at h
          cases h
        · rw [hc] at h
          cases h
      · rintro ⟨fault, given, rfl, he, ho, hf⟩
        cases he
        rw [Comparison.compare_eq_error_iff.2 ⟨ho, hf⟩]

private theorem answer_readWhile_eq_error_iff {go : Bool} {children : List Condition}
    {f : Failure} :
    (Verdict.readWhile go (children.map (verdict maxDepth (some context) depth))).answer =
        .error f ↔
      ∃ before c after, children = before ++ c :: after ∧
        (∀ b ∈ before, (verdict maxDepth (some context) depth b).answer = .ok go) ∧
        (verdict maxDepth (some context) depth c).answer = .error f := by
  rw [Verdict.readWhile_eq_error_iff]
  constructor
  · rintro ⟨before, v, after, he, hb, hv⟩
    obtain ⟨front, rest, rfl, rfl, hr⟩ := List.map_eq_append_iff.1 he
    obtain ⟨c, back, rfl, rfl, rfl⟩ := List.map_eq_cons_iff.1 hr
    exact ⟨front, c, back, rfl, fun b h => hb _ (List.mem_map_of_mem h), hv⟩
  · rintro ⟨before, c, after, rfl, hb, hc⟩
    refine ⟨_, _, _, List.map_append, ?_, hc⟩
    intro u hu
    obtain ⟨b, h, rfl⟩ := List.mem_map.1 hu
    exact hb b h

private theorem anomalies_subset_readWhile {go : Bool} {before after : List Condition}
    {c : Condition}
    (h : ∀ b ∈ before, (verdict maxDepth (some context) depth b).answer = .ok go) :
    (verdict maxDepth (some context) depth c).anomalies ⊆
      (Verdict.readWhile go
        ((before ++ c :: after).map (verdict maxDepth (some context) depth))).anomalies := by
  rw [List.map_append, List.map_cons]
  refine Verdict.anomalies_subset_readWhile ?_
  intro u hu
  obtain ⟨b, hb, rfl⟩ := List.mem_map.1 hu
  exact h b hb

private theorem within_of_answer_eq_error {c : Condition} {f : Failure}
    (h : (verdict maxDepth (some context) depth c).answer = .error f) : depth ≤ maxDepth := by
  refine Int.not_lt.1 fun hd => ?_
  rw [verdict_of_lt hd] at h
  cases h

/-- A failure at a node that is reached is the failure of the tree. -/
theorem Reaches.answer_eq_error {below : Int} {c node : Condition} {f : Failure}
    (h : Reaches maxDepth context depth c below node)
    (hf : (verdict maxDepth (some context) below node).answer = .error f) :
    (verdict maxDepth (some context) depth c).answer = .error f := by
  induction h with
  | here => exact hf
  | or within passed child ih =>
    rw [verdict_or within, answer_readWhile_eq_error_iff]
    exact ⟨_, _, _, rfl, passed, ih hf⟩
  | and within passed child ih =>
    rw [verdict_and within (by simp), answer_readWhile_eq_error_iff]
    exact ⟨_, _, _, rfl, passed, ih hf⟩

/-- What is warned of at a node that is reached is warned of by the tree. -/
theorem Reaches.anomalies_subset {below : Int} {c node : Condition}
    (h : Reaches maxDepth context depth c below node) :
    (verdict maxDepth (some context) below node).anomalies ⊆
      (verdict maxDepth (some context) depth c).anomalies := by
  induction h with
  | here => exact List.Subset.refl _
  | or within passed child ih =>
    rw [verdict_or within]
    exact List.Subset.trans ih (anomalies_subset_readWhile passed)
  | and within passed child ih =>
    rw [verdict_and within (by simp)]
    exact List.Subset.trans ih (anomalies_subset_readWhile passed)

private theorem breaks_of_answer_eq_error {c : Condition} {f : Failure}
    (h : (verdict maxDepth (some context) depth c).answer = .error f) :
    ∃ fault, f = .pattern fault ∧ Breaks maxDepth context fault depth c := by
  have hd := within_of_answer_eq_error h
  induction c using tree_induction generalizing depth with
  | always =>
    rw [verdict_always hd] at h
    cases h
  | never =>
    rw [verdict_never hd] at h
    cases h
  | or children ih =>
    rw [verdict_or hd, answer_readWhile_eq_error_iff] at h
    obtain ⟨before, c, after, rfl, hb, hc⟩ := h
    obtain ⟨fault, hf, below, test, text, hr, rest⟩ :=
      ih c (by simp) hc (within_of_answer_eq_error hc)
    exact ⟨fault, hf, below, test, text, .or hd hb hr, rest⟩
  | and children ih =>
    by_cases hn : children = []
    · subst hn
      rw [verdict_and_nil hd] at h
      cases h
    · rw [verdict_and hd hn, answer_readWhile_eq_error_iff] at h
      obtain ⟨before, c, after, rfl, hb, hc⟩ := h
      obtain ⟨fault, hf, below, test, text, hr, rest⟩ :=
        ih c (by simp) hc (within_of_answer_eq_error hc)
      exact ⟨fault, hf, below, test, text, .and hd hb hr, rest⟩
  | percent slice =>
    rw [verdict_percent hd] at h
    exact absurd h (answer_evaluatePercent_ne_error slice f)
  | signal test =>
    rw [verdict_signal hd, answer_evaluateSignal_eq_error_iff] at h
    obtain ⟨fault, text, hf, hg, ho, ht⟩ := h
    exact ⟨fault, hf, depth, test, text, .here, hd, ho, hg, ht⟩
  | malformed reason =>
    rw [verdict_malformed hd] at h
    cases h
  | foreign name =>
    rw [verdict_foreign hd] at h
    cases h

/-- An evaluation in a context ends without an answer exactly when it comes to a pattern with a
fault. -/
theorem answer_eq_error_iff (c : Condition) (f : Failure) :
    (verdict maxDepth (some context) depth c).answer = .error f ↔
      ∃ fault, f = .pattern fault ∧ Breaks maxDepth context fault depth c := by
  constructor
  · exact breaks_of_answer_eq_error
  · rintro ⟨fault, rfl, below, test, text, hr, hw, ho, hg, ht⟩
    refine hr.answer_eq_error ?_
    rw [verdict_signal hw, answer_evaluateSignal_eq_error_iff]
    exact ⟨fault, text, rfl, hg, ho, ht⟩

/-- A fault of the data makes its node false and is warned of once. -/
theorem verdict_of_dataFault {c : Condition} {code : Anomaly.Code}
    (h : DataFault maxDepth context depth c code) :
    ∃ anomaly, anomaly.code = code ∧
      verdict maxDepth (some context) depth c = ⟨.ok false, [anomaly]⟩ := by
  cases h with
  | tooDeep below => exact ⟨_, rfl, verdict_of_lt below c⟩
  | malformed within => exact ⟨_, rfl, verdict_malformed within _⟩
  | foreign within => exact ⟨_, rfl, verdict_foreign within _⟩
  | emptyAnd within => exact ⟨_, rfl, verdict_and_nil within⟩
  | @noRandomizationId slice within absent =>
    refine ⟨Condition.noRandomizationId, rfl, ?_⟩
    rw [verdict_percent within, verdict_evaluatePercent, absent]
  | @noPercentOperator slice id within given operator =>
    refine ⟨Condition.noPercentOperator slice, rfl, ?_⟩
    rw [verdict_percent within, verdict_evaluatePercent, given]
    simp [PercentSlice.holds?, operator]
  | @noTargets test within absent =>
    refine ⟨Condition.noTargets test, rfl, ?_⟩
    rw [verdict_signal within, verdict_evaluateSignal_of_nil absent]
  | @refused test text code within targets given comparison =>
    obtain ⟨refusal, hc, hr⟩ := Comparison.compare_of_dataFault comparison
    refine ⟨Condition.refused test refusal, hc, ?_⟩
    rw [verdict_signal within, verdict_evaluateSignal context targets, given]
    dsimp only
    rw [hr]

end Condition

end TargetedConfig
