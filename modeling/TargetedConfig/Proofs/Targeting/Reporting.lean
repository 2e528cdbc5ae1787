import TargetedConfig.Proofs.Ledger.Trail
import TargetedConfig.Proofs.Targeting.Named

/-!
# What evaluating conditions leaves behind

Evaluating a condition, or all conditions of a list, leaves one trail on every ledger. Along the way
no detail of an anomaly is ever named like the field that carries its code.
-/

namespace TargetedConfig

/-- What is warned of while verdicts are read is warned of by one of them. -/
theorem Verdict.mem_anomalies_readWhile {go : Bool} {vs : List (Verdict Bool)} {a : Anomaly}
    (h : a ∈ (readWhile go vs).anomalies) : ∃ v ∈ vs, a ∈ v.anomalies := by
  induction vs with
  | nil => cases h
  | cons v rest ih =>
    obtain ⟨answer, warned⟩ := v
    cases answer with
    | error f => exact ⟨_, List.mem_cons_self, h⟩
    | ok answer =>
      rw [readWhile, andThen_ok] at h
      rcases List.mem_append.1 h with hw | hr
      · exact ⟨_, List.mem_cons_self, hw⟩
      · split at hr
        · obtain ⟨v, hv, ha⟩ := ih hr
          exact ⟨v, List.mem_cons_of_mem _ hv, ha⟩
        · cases hr

namespace Condition

open Audited

variable {maxDepth depth : Int} {context : Option Context}

private theorem plain_tooDeep : (tooDeep maxDepth).Plain := by
  simp [tooDeep, Anomaly.Plain]

private theorem plain_noCondition (reason : String) : (noCondition reason).Plain := by
  simp [noCondition, Anomaly.Plain]

private theorem plain_refused (test : SignalTest) (refusal : Comparison.Refusal) :
    (refused test refusal).Plain := by
  cases refusal <;>
    simp [refused, Anomaly.Plain, refusalDetails, Comparison.Refusal.details, putEntry]

private theorem plain_evaluatePercent (slice : PercentSlice) :
    ∀ a ∈ (evaluatePercent context slice).verdict.anomalies, a.Plain := by
  intro a ha
  cases context with
  | none => cases ha
  | some c =>
    rw [verdict_evaluatePercent] at ha
    split at ha
    · rw [List.mem_singleton.1 ha]
      simp [noRandomizationId, Anomaly.Plain]
    · split at ha
      · cases ha
      · rw [List.mem_singleton.1 ha]
        simp [noPercentOperator, Anomaly.Plain]

private theorem plain_evaluateSignal (test : SignalTest) :
    ∀ a ∈ (evaluateSignal context test).verdict.anomalies, a.Plain := by
  intro a ha
  by_cases ht : test.targets = []
  · rw [verdict_evaluateSignal_of_nil ht] at ha
    rw [List.mem_singleton.1 ha]
    simp [noTargets, Anomaly.Plain]
  · cases context with
    | none =>
      have he : ¬test.targets.isEmpty = true := by simpa using ht
      rw [evaluateSignal, if_neg he] at ha
      cases ha
    | some c =>
      rw [verdict_evaluateSignal c ht] at ha
      split at ha
      · cases ha
      · split at ha
        · cases ha
        · cases ha
        · rw [List.mem_singleton.1 ha]
          exact plain_refused test _

/-- A node below the greatest depth is warned of plainly. -/
private theorem plain_of_within {c : Condition}
    (h : depth ≤ maxDepth → ∀ a ∈ (verdict maxDepth context depth c).anomalies, a.Plain) :
    ∀ a ∈ (verdict maxDepth context depth c).anomalies, a.Plain := by
  by_cases hd : depth ≤ maxDepth
  · exact h hd
  · rw [verdict_of_lt (Int.not_le.1 hd)]
    simpa using plain_tooDeep

private theorem plain_readWhile (go : Bool) {children : List Condition}
    (h : ∀ c ∈ children, ∀ a ∈ (verdict maxDepth context depth c).anomalies, a.Plain) :
    ∀ a ∈ (Verdict.readWhile go (children.map (verdict maxDepth context depth))).anomalies,
      a.Plain := by
  intro a ha
  obtain ⟨v, hv, hm⟩ := Verdict.mem_anomalies_readWhile ha
  obtain ⟨c, hc, rfl⟩ := List.mem_map.1 hv
  exact h c hc a hm

/-- The anomalies of a condition are plain. -/
theorem plain_of_mem_anomalies (maxDepth : Int) (context : Option Context) (depth : Int)
    (c : Condition) : ∀ a ∈ (verdict maxDepth context depth c).anomalies, a.Plain := by
  induction c using tree_induction generalizing depth with
  | always =>
    refine plain_of_within fun hd => ?_
    rw [verdict_always hd]
    exact nofun
  | never =>
    refine plain_of_within fun hd => ?_
    rw [verdict_never hd]
    exact nofun
  | or children ih =>
    refine plain_of_within fun hd => ?_
    rw [verdict_or hd]
    exact plain_readWhile false fun c hc => ih c hc (depth + 1)
  | and children ih =>
    refine plain_of_within fun hd => ?_
    by_cases hc : children = []
    · subst hc
      rw [verdict_and_nil hd]
      simp [emptyAnd, Anomaly.Plain]
    · rw [verdict_and hd hc]
      exact plain_readWhile true fun c hc => ih c hc (depth + 1)
  | percent slice =>
    refine plain_of_within fun hd => ?_
    rw [verdict_percent hd]
    exact plain_evaluatePercent slice
  | signal test =>
    refine plain_of_within fun hd => ?_
    rw [verdict_signal hd]
    exact plain_evaluateSignal test
  | malformed reason =>
    refine plain_of_within fun hd => ?_
    rw [verdict_malformed hd]
    simpa using plain_noCondition reason
  | foreign name =>
    refine plain_of_within fun hd => ?_
    rw [verdict_foreign hd]
    simpa using plain_noCondition name

/-- Evaluating a condition leaves one trail on every ledger. -/
theorem exists_leaves_evaluate (maxDepth : Int) (context : Option Context) (depth : Int)
    (c : Condition) : ∃ t, (evaluate maxDepth context depth c).Leaves t :=
  ⟨_, (uniform_evaluate maxDepth context depth c).leaves
    (plain_of_mem_anomalies maxDepth context depth c)⟩

theorem exists_leaves_evaluateNamed (maxDepth : Int) (context : Context)
    (conditions : List NamedCondition) (done : OrderedMap Bool) :
    ∃ t, (evaluateNamed maxDepth context conditions done).Leaves t := by
  induction conditions generalizing done with
  | nil => exact ⟨_, leaves_pure _⟩
  | cons n rest ih =>
    rw [evaluateNamed]
    exact exists_leaves_bind (exists_leaves_evaluate _ _ _ _) fun answer => ih _

theorem exists_leaves_evaluateConditions (maxDepth : Int) (context : Context)
    (conditions : List NamedCondition) :
    ∃ t, (evaluateConditions maxDepth context conditions).Leaves t := by
  refine exists_leaves_bind (exists_leaves_evaluateNamed _ _ _ _) fun results => ?_
  have hw : ∀ e ∈ [evaluatedEntry results], e.carriesAnomaly = false := by
    intro e he
    rw [List.mem_singleton.1 he]
    rfl
  exact exists_leaves_bind ⟨_, leaves_writeAll hw⟩ fun _ => ⟨_, leaves_pure _⟩

/-- So does evaluating all named conditions, whatever is given. -/
theorem exists_leaves_evaluateGiven (maxDepth : Int) (conditions : Option (List NamedCondition))
    (context : Option Context) : ∃ t, (evaluateGiven maxDepth conditions context).Leaves t := by
  rw [evaluateGiven]
  cases arguments conditions context with
  | error f => exact ⟨_, leaves_throw f⟩
  | ok given => exact exists_leaves_evaluateConditions maxDepth given.2 given.1

end Condition

end TargetedConfig
