import TargetedConfig.Engine
import TargetedConfig.Proofs.Parameter.Resolution
import TargetedConfig.Proofs.Targeting.Named
import TargetedConfig.Proofs.Template.Declarations

/-!
# The two phases of an evaluation

An evaluation first decides all conditions and then all parameters. It fails exactly when a
condition fails, with the failure of the first such condition. Otherwise its config holds what the
parameters serve, and the anomalies of the conditions before those of the parameters.
-/

namespace TargetedConfig

namespace Template

/-- Every condition of a template ends with an answer. -/
def Decided (t : Template) (c : Context) : Prop :=
  ∀ n ∈ t.conditions, n.condition.Decided Condition.defaultMaxDepth c

def results (t : Template) (c : Context) : OrderedMap Bool :=
  .ofList (Condition.resultPairs Condition.defaultMaxDepth c t.conditions)

def conditionAnomalies (t : Template) (c : Context) : List Anomaly :=
  t.conditions.flatMap fun n => n.condition.anomalies Condition.defaultMaxDepth c

def decisions (t : Template) (c : Context) : List (String × Decision) :=
  Resolution.decisions (Resolution.trueNames (t.results c) t.conditionNames)
    t.declarations.parameters.entries

/-- The anomalies that the parameters of a template are reported with. -/
def parameterAnomalies (t : Template) (c : Context) : List Anomaly :=
  (Resolution.reports (t.decisions c)).map Prod.fst

end Template

namespace Audited

variable {α : Type}

@[simp] theorem runOn_liftM (x : StateM Ledger α) (l : Ledger) :
    (liftM x : Audited α).runOn l = (.ok (x.run l).1, (x.run l).2) := rfl

end Audited

namespace Engine

open Audited

variable {t : Template} {c : Context}

private theorem runOn_evaluateConditions (h : t.Decided c) (l : Ledger) :
    ∃ after, (evaluateConditions t c).runOn l = (.ok (t.results c), after) ∧
      after.collected = l.collected.map (· ++ t.conditionAnomalies c) := by
  rw [evaluateConditions]
  by_cases he : t.conditions.isEmpty = true
  · refine ⟨l, ?_, ?_⟩
    · rw [if_pos he, Template.results, Condition.resultPairs, List.isEmpty_iff.1 he]
      rfl
    · simp [Template.conditionAnomalies, List.isEmpty_iff.1 he]
  · rw [if_neg he]
    exact Condition.runOn_evaluateConditions h l

private theorem runOn_evaluateConditions_of_failed {before after : List NamedCondition}
    {n : NamedCondition} {f : Failure} (ht : t.conditions = before ++ n :: after)
    (hb : ∀ m ∈ before, m.condition.Decided Condition.defaultMaxDepth c)
    (hf : (Condition.verdict Condition.defaultMaxDepth (some c) 0 n.condition).answer = .error f)
    (l : Ledger) : ((evaluateConditions t c).runOn l).1 = .error f := by
  have he : ¬t.conditions.isEmpty = true := by simp [ht]
  rw [evaluateConditions, if_neg he, ht]
  exact Condition.runOn_evaluateConditions_of_failed hb hf l

/-- Decided conditions give a config of what the parameters serve. -/
theorem configure_of_decided (defaults : OrderedMap String) (h : t.Decided c) :
    (configure defaults t c).1 =
      .ok ⟨Resolution.serveAll (Resolution.seed defaults) (t.decisions c),
        t.conditionAnomalies c ++ t.parameterAnomalies c⟩ := by
  obtain ⟨after, hr, hc⟩ := runOn_evaluateConditions h { collected := some [] }
  have ha : ((after.writeAll t.declarations.notes).reportAll Resolution.logger
      (Resolution.reports (t.decisions c))).anomalies =
        t.conditionAnomalies c ++ t.parameterAnomalies c := by
    simp [Ledger.anomalies, Ledger.writeAll, hc, Template.parameterAnomalies]
  rw [configure, evaluateTemplate, runOn_bind_of_ok hr, runOn_bind_of_ok (runOn_modify _ _),
    runOn_bind_of_ok (runOn_liftM _ _), Resolution.run_resolve,
    runOn_bind_of_ok (runOn_modify _ _)]
  exact congrArg (fun anomalies => Except.ok (⟨_, anomalies⟩ : Config)) ha

/-- The first condition that fails decides the failure of an evaluation. -/
theorem configure_of_failed (defaults : OrderedMap String) {before after : List NamedCondition}
    {n : NamedCondition} {f : Failure} (ht : t.conditions = before ++ n :: after)
    (hb : ∀ m ∈ before, m.condition.Decided Condition.defaultMaxDepth c)
    (hf : (Condition.verdict Condition.defaultMaxDepth (some c) 0 n.condition).answer = .error f) :
    (configure defaults t c).1 = .error f := by
  have hr := runOn_evaluateConditions_of_failed ht hb hf { collected := some [] }
  rw [configure, evaluateTemplate, runOn_bind_of_error (Prod.ext hr rfl)]
  rfl

/-- A config is answered only when all conditions are decided. -/
theorem decided_of_configure {defaults : OrderedMap String} {config : Config}
    (h : (configure defaults t c).1 = .ok config) : t.Decided c := by
  rcases Condition.all_decided_or_first_failed Condition.defaultMaxDepth c t.conditions with
    hd | ⟨before, n, after, f, ht, hb, hf⟩
  · exact hd
  · rw [configure_of_failed defaults ht hb hf] at h
    cases h

variable {e : Engine} {text : String} {r : Request} {version : Option String} {f : Failure}

/-- With a template, a context and the text of the version number, an evaluation answers what its
template configures. -/
theorem evaluate_of_cached (he : e.cached = some (t, text)) (hr : r.toContext = .ok c)
    (hv : t.versionNumber = .ok version) (j : Journal) :
    (e.evaluate r j).1 = (configure e.defaults t c).1 := by
  rw [evaluate, he]
  dsimp only
  rw [hr]
  dsimp only
  rw [hv]
  rfl

/-- A request that gives no context is answered by its failure. -/
theorem evaluate_of_request (he : e.cached = some (t, text)) (hr : r.toContext = .error f)
    (j : Journal) : e.evaluate r j = (.error f, j) := by
  rw [evaluate, he]
  dsimp only
  rw [hr]

/-- So is a version number that has no text. -/
theorem evaluate_of_version (he : e.cached = some (t, text)) (hr : r.toContext = .ok c)
    (hv : t.versionNumber = .error f) (j : Journal) : e.evaluate r j = (.error f, j) := by
  rw [evaluate, he]
  dsimp only
  rw [hr]
  dsimp only
  rw [hv]

/-- The entries of an evaluation are written under a fresh id and the version of the template. -/
theorem evaluate_eq (he : e.cached = some (t, text)) (hr : r.toContext = .ok c)
    (hv : t.versionNumber = .ok version) (j : Journal) :
    e.evaluate r j =
      ((configure e.defaults t c).1,
        ⟨j.records ++ (configure e.defaults t c).2.map (·.stamped ⟨some (.fresh j.next), version⟩),
          j.binding, j.next + 1⟩) := by
  rw [evaluate, he]
  dsimp only
  rw [hr]
  dsimp only
  rw [hv]
  rfl

/-- An evaluation that comes to an answer has a template, a context and the text of the version
number. -/
theorem exists_of_evaluate {j after : Journal} {config : Config}
    (h : e.evaluate r j = (.ok config, after)) :
    ∃ t text c version, e.cached = some (t, text) ∧ r.toContext = .ok c ∧
      t.versionNumber = .ok version := by
  cases he : e.cached with
  | none => simp [evaluate, he] at h
  | some cached =>
    cases hr : r.toContext with
    | error f => simp [evaluate, he, hr] at h
    | ok c =>
      cases hv : cached.1.versionNumber with
      | error f => simp [evaluate, he, hr, hv] at h
      | ok version => exact ⟨cached.1, cached.2, c, version, rfl, rfl, hv⟩

/-- What an evaluation of a template in a context answers is what the template configures. -/
theorem configure_of_evaluate {j after : Journal} {config : Config}
    (he : e.cached = some (t, text)) (hr : r.toContext = .ok c)
    (h : e.evaluate r j = (.ok config, after)) : (configure e.defaults t c).1 = .ok config := by
  obtain ⟨u, _, d, version, hu, hd, hv⟩ := exists_of_evaluate h
  rw [he] at hu
  cases hu
  rw [← evaluate_of_cached he hr hv j, h]

end Engine

end TargetedConfig
