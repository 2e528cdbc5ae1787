import TargetedConfig.Proofs.Ledger

/-!
# Condition trees as verdicts

Evaluating a condition is uniform, so that its verdict says everything about it. The verdict of a
tree is computed from the verdicts of its children, read from the left up to the first one that
decides.
-/

namespace TargetedConfig

/-- Trees are built from their children. -/
theorem Condition.tree_induction {P : Condition → Prop} (always : P .always) (never : P .never)
    (or : ∀ children, (∀ c ∈ children, P c) → P (.or children))
    (and : ∀ children, (∀ c ∈ children, P c) → P (.and children))
    (percent : ∀ slice, P (.percent slice)) (signal : ∀ test, P (.signal test))
    (malformed : ∀ reason, P (.malformed reason)) (foreign : ∀ name, P (.foreign name)) :
    ∀ c, P c := by
  intro c
  refine @Condition.rec P (fun children => ∀ c ∈ children, P c) always never or and
    percent signal malformed foreign ?_ ?_ c
  · intro c hc
    cases hc
  · intro head tail hh ht c hc
    rcases List.mem_cons.1 hc with rfl | hc
    · exact hh
    · exact ht c hc

namespace Verdict

/-- Reads verdicts as long as they answer `go`; the first other one decides, and later ones are not
asked for. -/
def readWhile (go : Bool) : List (Verdict Bool) → Verdict Bool
  | [] => ⟨.ok go, []⟩
  | v :: rest => v.andThen fun answer => if answer = go then readWhile go rest else ⟨.ok answer, []⟩

end Verdict

namespace Condition

open Audited

variable {maxDepth depth : Int} {context : Option Context}

theorem uniform_required (context : Option Context) : (required context).Uniform := by
  cases context with
  | none => exact uniform_throw _
  | some c => exact uniform_pure _

theorem uniform_evaluatePercent (context : Option Context) (slice : PercentSlice) :
    (evaluatePercent context slice).Uniform := by
  refine uniform_bind (uniform_required context) fun c => ?_
  cases c.randomizationId? with
  | none => exact uniform_refuse _ _ _
  | some id =>
    dsimp only
    cases slice.holds? (Bucket.ofId slice.seed id) with
    | none => exact uniform_refuse _ _ _
    | some answer => exact uniform_pure _

theorem uniform_evaluateSignal (context : Option Context) (test : SignalTest) :
    (evaluateSignal context test).Uniform := by
  rw [evaluateSignal]
  split
  · exact uniform_refuse _ _ _
  · refine uniform_bind (uniform_required context) fun c => ?_
    cases c.get? test.key with
    | none => exact uniform_pure _
    | some text =>
      dsimp only
      rcases Comparison.compare test.operator text test.targets with fault | refusal | answer
      · exact uniform_throw _
      · exact uniform_refuse _ _ _
      · exact uniform_pure _

private theorem uniform_evaluateAny {children : List Condition}
    (h : ∀ c ∈ children, (evaluate maxDepth context depth c).Uniform) :
    (evaluateAny maxDepth context depth children).Uniform := by
  induction children with
  | nil => exact uniform_pure _
  | cons c rest ih =>
    rw [evaluateAny]
    refine uniform_bind (h c (by simp)) fun answer => ?_
    cases answer with
    | false => exact ih fun d hd => h d (by simp [hd])
    | true => exact uniform_pure _

private theorem uniform_evaluateAll {children : List Condition}
    (h : ∀ c ∈ children, (evaluate maxDepth context depth c).Uniform) :
    (evaluateAll maxDepth context depth children).Uniform := by
  induction children with
  | nil => exact uniform_pure _
  | cons c rest ih =>
    rw [evaluateAll]
    refine uniform_bind (h c (by simp)) fun answer => ?_
    cases answer with
    | false => exact uniform_pure _
    | true => exact ih fun d hd => h d (by simp [hd])

/-- Evaluating a condition answers alike on all ledgers and only warns of anomalies. -/
theorem uniform_evaluate (maxDepth : Int) (context : Option Context) (depth : Int)
    (c : Condition) : (evaluate maxDepth context depth c).Uniform := by
  induction c using tree_induction generalizing depth with
  | always | never | malformed | foreign =>
    rw [evaluate]
    split
    · exact uniform_refuse _ _ _
    · first
      | exact uniform_pure _
      | exact uniform_refuse _ _ _
  | or children ih =>
    rw [evaluate]
    split
    · exact uniform_refuse _ _ _
    · exact uniform_evaluateAny fun c hc => ih c hc (depth + 1)
  | and children ih =>
    rw [evaluate]
    split
    · exact uniform_refuse _ _ _
    · split
      · exact uniform_refuse _ _ _
      · exact uniform_evaluateAll fun c hc => ih c hc (depth + 1)
  | percent slice =>
    rw [evaluate]
    split
    · exact uniform_refuse _ _ _
    · exact uniform_evaluatePercent context slice
  | signal test =>
    rw [evaluate]
    split
    · exact uniform_refuse _ _ _
    · exact uniform_evaluateSignal context test

def verdict (maxDepth : Int) (context : Option Context) (depth : Int) (c : Condition) :
    Verdict Bool :=
  (evaluate maxDepth context depth c).verdict

theorem runOn_evaluate (maxDepth : Int) (context : Option Context) (depth : Int) (c : Condition)
    (l : Ledger) :
    (evaluate maxDepth context depth c).runOn l =
      ((verdict maxDepth context depth c).answer,
        warn l (verdict maxDepth context depth c).anomalies) :=
  uniform_evaluate maxDepth context depth c l

/-- The anomaly of a node below the greatest depth. -/
def tooDeep (maxDepth : Int) : Anomaly :=
  ⟨.maxDepthExceeded, "Maximum condition recursion depth exceeded",
    [("max_depth", .integer maxDepth)]⟩

def noCondition (reason : String) : Anomaly :=
  ⟨.malformedCondition, "Invalid condition node", [("reason", .string reason)]⟩

def emptyAnd : Anomaly :=
  ⟨.emptyAndCondition, "AND condition without sub-conditions evaluates to false", []⟩

def noRandomizationId : Anomaly :=
  ⟨.missingRandomizationId, "Percentage operation must not be performed without randomizationId",
    []⟩

def noPercentOperator (slice : PercentSlice) : Anomaly :=
  ⟨.unspecifiedOperator, "Unspecified percent operator",
    [("operator", .string slice.operator.name)]⟩

def noTargets (test : SignalTest) : Anomaly :=
  ⟨.missingTargetValues, "Values must be assigned to all custom signal fields",
    [("operator", .string test.operator.name), ("key", .string test.key)]⟩

def refused (test : SignalTest) (refusal : Comparison.Refusal) : Anomaly :=
  ⟨refusal.code, refusal.message, refusalDetails test refusal⟩

theorem verdict_evaluatePercent (c : Context) (slice : PercentSlice) :
    (evaluatePercent (some c) slice).verdict =
      match c.randomizationId? with
      | none => ⟨.ok false, [noRandomizationId]⟩
      | some id =>
        match slice.holds? (Bucket.ofId slice.seed id) with
        | some answer => ⟨.ok answer, []⟩
        | none => ⟨.ok false, [noPercentOperator slice]⟩ := by
  rw [evaluatePercent, required, pure_bind]
  cases c.randomizationId? with
  | none => rfl
  | some id =>
    dsimp only
    cases slice.holds? (Bucket.ofId slice.seed id) <;> rfl

theorem verdict_evaluateSignal_of_nil {test : SignalTest} (h : test.targets = []) :
    (evaluateSignal context test).verdict = ⟨.ok false, [noTargets test]⟩ := by
  rw [evaluateSignal]
  have he : test.targets.isEmpty = true := by simp [h]
  rw [if_pos he]
  rfl

theorem verdict_evaluateSignal (c : Context) {test : SignalTest} (h : test.targets ≠ []) :
    (evaluateSignal (some c) test).verdict =
      match c.get? test.key with
      | none => ⟨.ok false, []⟩
      | some text =>
        match Comparison.compare test.operator text test.targets with
        | .error fault => ⟨.error (.pattern fault), []⟩
        | .ok (.ok answer) => ⟨.ok answer, []⟩
        | .ok (.error refusal) => ⟨.ok false, [refused test refusal]⟩ := by
  rw [evaluateSignal, required]
  have he : ¬test.targets.isEmpty = true := by simpa using h
  rw [if_neg he, pure_bind]
  cases c.get? test.key with
  | none => rfl
  | some text =>
    dsimp only
    rcases Comparison.compare test.operator text test.targets with fault | refusal | answer <;> rfl

theorem verdict_of_lt (h : maxDepth < depth) (c : Condition) :
    verdict maxDepth context depth c = ⟨.ok false, [tooDeep maxDepth]⟩ := by
  rw [verdict, evaluate.eq_def, if_pos h]
  rfl

/-- Below the greatest depth all conditions evaluate alike. -/
theorem verdict_eq_of_within {c d : Condition}
    (h : depth ≤ maxDepth → verdict maxDepth context depth c = verdict maxDepth context depth d) :
    verdict maxDepth context depth c = verdict maxDepth context depth d := by
  by_cases hd : depth ≤ maxDepth
  · exact h hd
  · rw [verdict_of_lt (Int.not_le.1 hd), verdict_of_lt (Int.not_le.1 hd)]

private theorem verdict_evaluateAny (children : List Condition) :
    (evaluateAny maxDepth context depth children).verdict =
      .readWhile false (children.map (verdict maxDepth context depth)) := by
  induction children with
  | nil => rfl
  | cons c rest ih =>
    rw [evaluateAny, verdict_bind (uniform_evaluate _ _ _ c)]
    · rw [List.map_cons, Verdict.readWhile, ← ih]
      congr 1
      funext answer
      cases answer <;> rfl
    · intro answer
      cases answer with
      | false => exact uniform_evaluateAny fun d _ => uniform_evaluate _ _ _ d
      | true => exact uniform_pure _

private theorem verdict_evaluateAll (children : List Condition) :
    (evaluateAll maxDepth context depth children).verdict =
      .readWhile true (children.map (verdict maxDepth context depth)) := by
  induction children with
  | nil => rfl
  | cons c rest ih =>
    rw [evaluateAll, verdict_bind (uniform_evaluate _ _ _ c)]
    · rw [List.map_cons, Verdict.readWhile, ← ih]
      congr 1
      funext answer
      cases answer <;> rfl
    · intro answer
      cases answer with
      | false => exact uniform_pure _
      | true => exact uniform_evaluateAll fun d _ => uniform_evaluate _ _ _ d

section

variable (h : depth ≤ maxDepth)
include h

/-- Down to the greatest depth only the kind of a node matters. -/
private theorem verdict_of_le (c : Condition) :
    verdict maxDepth context depth c =
      Audited.verdict (
        match c with
        | .always => return true
        | .never => return false
        | .or children => evaluateAny maxDepth context (depth + 1) children
        | .and children =>
          if children.isEmpty then
            refuse .emptyAndCondition "AND condition without sub-conditions evaluates to false" []
          else evaluateAll maxDepth context (depth + 1) children
        | .percent slice => evaluatePercent context slice
        | .signal test => evaluateSignal context test
        | .malformed reason => refuseNode reason
        | .foreign typeName => refuseNode typeName) := by
  rw [verdict, evaluate.eq_def]
  exact congrArg Audited.verdict (if_neg (Int.not_lt.2 h))

theorem verdict_always : verdict maxDepth context depth .always = ⟨.ok true, []⟩ :=
  verdict_of_le h _

theorem verdict_never : verdict maxDepth context depth .never = ⟨.ok false, []⟩ :=
  verdict_of_le h _

theorem verdict_malformed (reason : String) :
    verdict maxDepth context depth (.malformed reason) = ⟨.ok false, [noCondition reason]⟩ :=
  verdict_of_le h _

theorem verdict_foreign (name : String) :
    verdict maxDepth context depth (.foreign name) = ⟨.ok false, [noCondition name]⟩ :=
  verdict_of_le h _

theorem verdict_percent (slice : PercentSlice) :
    verdict maxDepth context depth (.percent slice) = (evaluatePercent context slice).verdict :=
  verdict_of_le h _

theorem verdict_signal (test : SignalTest) :
    verdict maxDepth context depth (.signal test) = (evaluateSignal context test).verdict :=
  verdict_of_le h _

theorem verdict_or (children : List Condition) :
    verdict maxDepth context depth (.or children) =
      .readWhile false (children.map (verdict maxDepth context (depth + 1))) := by
  rw [verdict_of_le h]
  exact verdict_evaluateAny children

theorem verdict_and_nil :
    verdict maxDepth context depth (.and []) = ⟨.ok false, [emptyAnd]⟩ :=
  verdict_of_le h _

theorem verdict_and {children : List Condition} (hc : children ≠ []) :
    verdict maxDepth context depth (.and children) =
      .readWhile true (children.map (verdict maxDepth context (depth + 1))) := by
  have he : ¬children.isEmpty = true := by simpa using hc
  rw [verdict_of_le h]
  simp only [if_neg he]
  exact verdict_evaluateAll children

end

end Condition

end TargetedConfig
