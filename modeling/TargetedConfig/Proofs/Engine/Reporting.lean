import TargetedConfig.Proofs.Engine.Configuration
import TargetedConfig.Proofs.Targeting.Reporting

/-!
# What an evaluation leaves behind

Resolving parameters leaves one trail on every ledger, just like evaluating conditions. The entries
of an evaluation therefore tell of the anomalies in its config and of no others:
`Engine.entries_tell_of_anomalies` puts this together.
-/

namespace TargetedConfig

namespace Parameter

theorem plain_of_decide {p : Parameter} {key : String} {names : List String} {anomaly : Anomaly}
    {level : Level} (h : p.decide key names = .keep anomaly level) : anomaly.Plain := by
  obtain ⟨more, hd, hm⟩ := details_of_decide h
  intro detail ha
  rw [hd] at ha
  rcases List.mem_cons.1 ha with rfl | ha
  · simp
  · have hn := hm detail ha
    intro he
    simp [he] at hn

end Parameter

namespace Resolution

open Audited

/-- What parameters are reported with is plain. -/
theorem plain_of_mem_reports {names : List String} {parameters : List (String × Parameter)}
    {r : Anomaly × Level} (h : r ∈ reports (decisions names parameters)) : r.1.Plain := by
  obtain ⟨⟨key, decision⟩, hd, hr⟩ := List.mem_flatMap.1 h
  obtain ⟨⟨k, p⟩, -, he⟩ := List.mem_map.1 hd
  cases he
  cases hk : p.decide k names with
  | serve text => simp [hk, Decision.report?] at hr
  | keep anomaly level =>
    have he : r = (anomaly, level) := by simpa [hk, Decision.report?] using hr
    rw [he]
    exact Parameter.plain_of_decide hk

/-- Resolving parameters leaves the reports of the decisions behind, and answers always. -/
theorem leaves_resolve (parameters : OrderedMap Parameter) (evaluated : OrderedMap Bool)
    (defaults : OrderedMap String) (order : Option (List String)) :
    let decided := decisions (trueNames evaluated (order.getD evaluated.keys)) parameters.entries
    (liftM (resolve parameters evaluated defaults order) : Audited (OrderedMap Value)).Leaves
      ⟨.ok (serveAll (seed defaults) decided),
        (reports decided).map fun r => r.1.entry r.2 logger, (reports decided).map Prod.fst⟩ where
  runOn_eq l := by
    rw [runOn_liftM, run_resolve]
    exact congrArg _ (Ledger.reportAll_eq_extend _ _ _)
  tellAll := .of_reports (fun _ => plain_of_mem_reports) logger

end Resolution

namespace Template

namespace Declarations

/-- No note about the declarations read so far carries an anomaly. -/
def Plain (d : Declarations) : Prop := ∀ e ∈ d.notes, e.carriesAnomaly = false

private theorem plain_declareGrouped (group : String) {d : Declarations}
    (declaration : String × Parameter) (h : d.Plain) : (d.declareGrouped group declaration).Plain := by
  rw [declareGrouped]
  split
  · intro e he
    rcases List.mem_append.1 he with he | he
    · exact h e he
    · rw [List.mem_singleton.1 he]
      rfl
  · exact h

private theorem plain_declareTop {d : Declarations} (declaration : String × Parameter)
    (h : d.Plain) : (d.declareTop declaration).Plain := by
  intro e he
  rcases List.mem_append.1 he with he | he
  · exact h e he
  · split at he
    · rw [List.mem_singleton.1 he]
      rfl
    · cases he

end Declarations

open Declarations in
theorem plain_declarations (t : Template) : t.declarations.Plain := by
  refine List.foldlRecOn _ _ (List.foldlRecOn _ _ nofun fun d hd g _ => ?_) fun d hd p _ =>
    plain_declareTop p hd
  exact List.foldlRecOn _ _ hd fun d hd p _ => plain_declareGrouped g.1 p hd

end Template

namespace Engine

open Audited

variable {t : Template} {c : Context}

theorem exists_leaves_evaluateConditions (t : Template) (c : Context) :
    ∃ trail, (evaluateConditions t c).Leaves trail := by
  rw [evaluateConditions]
  split
  · exact ⟨_, leaves_pure _⟩
  · exact Condition.exists_leaves_evaluateConditions _ _ _

/-- The entries that are written for a config tell of its anomalies. -/
theorem tellAll_configure {defaults : OrderedMap String} {config : Config}
    (h : (configure defaults t c).1 = .ok config) :
    Entry.TellAll (configure defaults t c).2 config.anomalies := by
  obtain ⟨⟨answer, written, added⟩, hc⟩ := exists_leaves_evaluateConditions t c
  rw [configure, evaluateTemplate] at h ⊢
  cases answer with
  | error f =>
    rw [runOn_bind_of_error (hc.runOn_eq _)] at h
    cases h
  | ok evaluated =>
    have hn := leaves_writeAll t.plain_declarations
    have hr := Resolution.leaves_resolve t.declarations.parameters evaluated defaults
      (some t.conditionNames)
    have ht := (hc.tellAll.append hn.tellAll).append hr.tellAll
    rw [runOn_bind_of_ok (hc.runOn_eq _), runOn_bind_of_ok (hn.runOn_eq _),
      runOn_bind_of_ok (hr.runOn_eq _), runOn_bind_of_ok (runOn_modify _ _), runOn_pure] at h ⊢
    cases h
    -- the closing note counts the anomalies but carries none
    have he : ∀ values anomalies, Entry.TellAll [evaluatedNote values anomalies] [] :=
      fun _ _ => .of_none fun e he => by rw [List.mem_singleton.1 he]; rfl
    simpa [Ledger.extend, Ledger.write, Ledger.anomalies] using ht.append (he _ _)

/-- The anomalies of an answered config are those that the entries of the evaluation carry: the
conditions', in order of the template, and then the parameters', in order of resolution. -/
private theorem tellAll_evaluate {e : Engine} {r : Request} {j after : Journal} {config : Config}
    (h : e.evaluate r j = (.ok config, after)) :
    ∃ written, after.records = j.records ++ written ∧
      Entry.TellAll (written.map Record.entry) config.anomalies ∧
      ∃ t text c, e.cached = some (t, text) ∧ r.toContext = .ok c ∧
        config.anomalies = t.conditionAnomalies c ++ t.parameterAnomalies c := by
  obtain ⟨t, text, c, version, he, hr, hv⟩ := exists_of_evaluate h
  rw [evaluate_eq he hr hv] at h
  have hc := congrArg Prod.fst h
  have ha := congrArg (fun answered => Journal.records answered.2) h
  refine ⟨_, ha.symm, ?_, t, text, c, he, hr, ?_⟩
  · have hw := tellAll_configure hc
    simpa [Function.comp_def, Entry.stamped] using hw
  · rw [configure_of_decided e.defaults (decided_of_configure hc)] at hc
    cases hc
    rfl

/-- Evaluating a condition, evaluating conditions and resolving parameters leave the same behind on
every ledger: the answer and the entries do not depend on it, a collector keeps what it holds, and
what it gets are the anomalies that the entries tell of. The config of an evaluation holds the
anomalies that the entries of the evaluation tell of, those of the conditions first. -/
theorem entries_tell_of_anomalies :
    (∀ maxDepth context depth c,
      ∃ trail, (Condition.evaluate maxDepth context depth c).Leaves trail) ∧
    (∀ maxDepth conditions context,
      ∃ trail, (Condition.evaluateGiven maxDepth conditions context).Leaves trail) ∧
    (∀ parameters evaluated defaults order,
      ∃ trail, (liftM (Resolution.resolve parameters evaluated defaults order) :
        Audited (OrderedMap Value)).Leaves trail) ∧
    ∀ (e : Engine) (r : Request) (j after : Journal) (config : Config),
      e.evaluate r j = (.ok config, after) →
      ∃ written, after.records = j.records ++ written ∧
        Entry.TellAll (written.map Record.entry) config.anomalies ∧
        ∃ t text c, e.cached = some (t, text) ∧ r.toContext = .ok c ∧
          config.anomalies = t.conditionAnomalies c ++ t.parameterAnomalies c := by
  refine ⟨?_, ?_, ?_, ?_⟩
  · exact Condition.exists_leaves_evaluate
  · exact Condition.exists_leaves_evaluateGiven
  · intro parameters evaluated defaults order
    exact ⟨_, Resolution.leaves_resolve parameters evaluated defaults order⟩
  · intro e r j after config h
    exact tellAll_evaluate h

/-- Two conditions and two parameters that are worth a warning. -/
def doubtful : Template where
  conditions :=
    [⟨"none", .and [], by decide⟩, ⟨"odd", .or [.malformed "unknown", .always], by decide⟩]
  parameters := .ofList [("p", {}), ("q", { conditional := .ofList [("odd", .inAppDefault)] })]

theorem entries_tell_of_anomalies_doubtful :
    ∃ config after, ({ cached := some (doubtful, "") } : Engine).evaluate (.signals .empty) {} =
        (.ok config, after) ∧
      (∃ written, after.records = [] ++ written ∧
        Entry.TellAll (written.map Record.entry) config.anomalies) ∧
      config.anomalies.map Anomaly.code =
        [.emptyAndCondition, .malformedCondition, .emptyDefaultValue, .inAppDefault] := by
  refine ⟨_, _, rfl, ?_, rfl⟩
  obtain ⟨written, hw, ht, -⟩ := entries_tell_of_anomalies.2.2.2
    { cached := some (doubtful, "") } (.signals .empty) {} _ _ rfl
  exact ⟨written, hw, ht⟩

end Engine

end TargetedConfig
