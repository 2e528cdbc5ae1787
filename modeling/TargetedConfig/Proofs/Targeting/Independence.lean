import TargetedConfig.Proofs.Parameter.Resolution
import TargetedConfig.Proofs.Targeting.Named

/-!
# Conditions on their own

Evaluating a list of named conditions is evaluating each of them on its own, one after the other. A
repeated name stands where it appears first and is as true as the last condition that carries it,
and yet its repetitions do not matter for the choice of a value: the results by themselves tell the
resolver as much about priorities as the full list of names does.
-/

namespace TargetedConfig

namespace Resolution

/-- True names are as good for the choice of a value with their repetitions as without. -/
theorem find?_trueNames_eraseDups (evaluated : OrderedMap Bool) (names : List String)
    (p : String → Bool) :
    (trueNames evaluated names).find? p = (trueNames evaluated names.eraseDups).find? p := by
  rw [trueNames, trueNames, List.find?_filter, List.find?_filter, find?_eraseDups]

/-- With the names of the results, repeated or not, the resolver does what it does without. -/
theorem run_resolve_of_keys_eq {evaluated : OrderedMap Bool} {names : List String}
    (h : evaluated.keys = names.eraseDups) (parameters : OrderedMap Parameter)
    (defaults : OrderedMap String) (l : Ledger) :
    (resolve parameters evaluated defaults (some names)).run l =
      (resolve parameters evaluated defaults none).run l := by
  have hd := decisions_congr (find?_trueNames_eraseDups evaluated names) parameters.entries
  rw [run_resolve, run_resolve, Option.getD_some, Option.getD_none, h, hd]

end Resolution

namespace Condition

open Audited

variable {maxDepth : Int} {context : Context}

/-- Conditions are evaluated to an answer only if each of them is decided. -/
theorem decided_of_evaluateConditions {conditions : List NamedCondition} {l : Ledger}
    {results : OrderedMap Bool}
    (h : ((evaluateConditions maxDepth context conditions).runOn l).1 = .ok results) :
    ∀ n ∈ conditions, n.condition.Decided maxDepth context := by
  rcases all_decided_or_first_failed maxDepth context conditions with
    hd | ⟨before, n, after, f, rfl, hb, hf⟩
  · exact hd
  · rw [runOn_evaluateConditions_of_failed hb hf] at h
    cases h

/-- The result under the name of a condition that no later one shares is its own. -/
theorem get?_ofList_resultPairs {before rest : List NamedCondition} {n : NamedCondition}
    (h : ∀ m ∈ rest, m.name ≠ n.name) :
    (OrderedMap.ofList (resultPairs maxDepth context (before ++ n :: rest))).get? n.name =
      some (n.condition.holds maxDepth context) := by
  have hr : rest.reverse.find? (·.name == n.name) = none := by
    simpa using h
  rw [NamedCondition.get?_resultPairs, NamedCondition.last?, List.reverse_append,
    List.reverse_cons, List.append_assoc, List.find?_append, hr]
  simp

/-- Whenever named conditions are evaluated to results, these have every name once, at its first
place, with the answer that the last condition of the name gives on its own; what is collected is
what each condition warns of on its own, in order. For the resolver the results alone are as good
as all names in their order. -/
theorem evaluateGiven_eq_alone {conditions : List NamedCondition} {l after : Ledger}
    {results : OrderedMap Bool}
    (h : (evaluateGiven maxDepth (some conditions) (some context)).runOn l =
      (.ok results, after)) :
    results.keys = (conditions.map (·.name)).eraseDups ∧
    (∀ before n rest, conditions = before ++ n :: rest → (∀ m ∈ rest, m.name ≠ n.name) →
      ∃ answer, results.get? n.name = some answer ∧
        ∀ k, ((evaluate maxDepth (some context) 0 n.condition).runOn k).1 = .ok answer) ∧
    after.collected = l.collected.map
      (· ++ conditions.flatMap fun n =>
        ((evaluate maxDepth (some context) 0 n.condition).runOn
          { collected := some [] }).2.anomalies) ∧
    ∀ parameters defaults k,
      (Resolution.resolve parameters results defaults (some (conditions.map (·.name)))).run k =
        (Resolution.resolve parameters results defaults none).run k := by
  have he : (evaluateConditions maxDepth context conditions).runOn l = (.ok results, after) := by
    cases conditions with
    | nil => cases h
    | cons n rest => exact h
  have hd := decided_of_evaluateConditions (congrArg Prod.fst he)
  obtain ⟨ledger, hr, hc⟩ := runOn_evaluateConditions hd l
  rw [hr] at he
  cases he
  have hk : (OrderedMap.ofList (resultPairs maxDepth context conditions)).keys =
      (conditions.map (·.name)).eraseDups := by
    rw [OrderedMap.keys_ofList, resultPairs, List.map_map]
    rfl
  refine ⟨hk, ?_, hc, ?_⟩
  · rintro before n rest rfl hn
    refine ⟨_, get?_ofList_resultPairs hn, fun k => ?_⟩
    rw [runOn_evaluate]
    exact answer_of_decided (hd n (by simp))
  · intro parameters defaults k
    exact Resolution.run_resolve_of_keys_eq hk parameters defaults k

/-- A name is shared by conditions of which only the last one is true. -/
def repeatedName : List NamedCondition :=
  [⟨"twice", .never, by decide⟩, ⟨"once", .and [], by decide⟩,
   ⟨"twice", .or [.malformed "unknown", .always], by decide⟩]

theorem evaluateGiven_eq_alone_repeatedName :
    ∃ results after,
      (evaluateGiven defaultMaxDepth (some repeatedName) (some ⟨.empty⟩)).runOn
        { collected := some [] } = (.ok results, after) ∧
      results.keys = ["twice", "once", "twice"].eraseDups ∧
      (∃ answer, results.get? "twice" = some answer ∧ ∀ k,
        ((evaluate defaultMaxDepth (some ⟨.empty⟩) 0
          (.or [.malformed "unknown", .always])).runOn k).1 = .ok answer) ∧
      after.anomalies.map Anomaly.code = [.emptyAndCondition, .malformedCondition] := by
  refine ⟨_, _, rfl, ?_⟩
  have h : (evaluateGiven defaultMaxDepth (some repeatedName) (some ⟨.empty⟩)).runOn
      { collected := some [] } = (.ok _, _) := rfl
  obtain ⟨hk, hv, -⟩ := evaluateGiven_eq_alone h
  exact ⟨hk, hv (repeatedName.take 2) _ [] rfl (by simp), rfl⟩

end Condition

end TargetedConfig
