import TargetedConfig.Proofs.Engine.Served
import TargetedConfig.Proofs.Targeting.Faults
import TargetedConfig.Proofs.Template.VersionNumber

/-!
# When an evaluation fails

A template that is cached and a context that is built already leave two ways to fail: the version
number of the template has no text, or a condition comes to a signal whose patterns meet a fault
that is more than being malformed. Every other fault of the data is accounted for in the config.
-/

namespace TargetedConfig

namespace Template

/-- The first condition without an answer comes to a pattern with a fault. -/
def Breaks (t : Template) (c : Context) (fault : Pattern.Fault) : Prop :=
  ∃ before n after, t.conditions = before ++ n :: after ∧
    (∀ m ∈ before, m.condition.Decided Condition.defaultMaxDepth c) ∧
    Condition.Breaks Condition.defaultMaxDepth c fault 0 n.condition

/-- A config accounts for the faults of the data. A node that is reached and whose data are at fault
is false and warned of; a declared parameter that serves no text keeps the caller's default and is
reported. -/
structure Accounts (t : Template) (c : Context) (defaults : OrderedMap String) (config : Config) :
    Prop where
  conditions : ∀ n ∈ t.conditions, ∀ depth node code,
    Condition.Reaches Condition.defaultMaxDepth c 0 n.condition depth node →
    Condition.DataFault Condition.defaultMaxDepth c depth node code →
      (Condition.verdict Condition.defaultMaxDepth (some c) depth node).answer = .ok false ∧
        ∃ anomaly ∈ config.anomalies, anomaly.code = code
  parameters : ∀ key p, t.declared? key = some p →
    (∃ text, config.getValue key = ⟨.remote, text⟩) ∨
      config.getValue key = seedValue defaults key ∧
        ∃ anomaly ∈ config.anomalies, ("parameter", .string key) ∈ anomaly.details

variable {t : Template} {c : Context}

theorem decided_or_breaks (t : Template) (c : Context) :
    t.Decided c ∨ ∃ fault, t.Breaks c fault := by
  rcases Condition.all_decided_or_first_failed Condition.defaultMaxDepth c t.conditions with
    hd | ⟨before, n, after, f, ht, hb, hf⟩
  · exact .inl hd
  · obtain ⟨fault, -, h⟩ := (Condition.answer_eq_error_iff n.condition f).1 hf
    exact .inr ⟨fault, before, n, after, ht, hb, h⟩

end Template

namespace Parameter

theorem mem_details_of_decide {p : Parameter} {key : String} {names : List String}
    {anomaly : Anomaly} {level : Level} (h : p.decide key names = .keep anomaly level) :
    ("parameter", .string key) ∈ anomaly.details := by
  obtain ⟨more, hd, -⟩ := details_of_decide h
  rw [hd]
  exact List.mem_cons_self

end Parameter

namespace Resolution

/-- What the decision about a key reports is reported by the run. -/
theorem mem_reports {decided : List (String × Decision)} {key : String} {anomaly : Anomaly}
    {level : Level} (h : decided.lookup key = some (.keep anomaly level)) :
    (anomaly, level) ∈ reports decided := by
  obtain ⟨before, after, rfl, -⟩ := List.lookup_eq_some_iff.1 h
  refine List.mem_flatMap.2 ⟨(key, .keep anomaly level), List.mem_append_right _ ?_, ?_⟩
  · exact List.mem_cons_self
  · simp [Decision.report?]

end Resolution

namespace Engine

variable {t : Template} {c : Context}

private theorem accounts_of_configure {defaults : OrderedMap String} {config : Config}
    (h : (configure defaults t c).1 = .ok config) : t.Accounts c defaults config := by
  have hv := getValue_of_configure h
  rw [configure_of_decided defaults (decided_of_configure h)] at h
  cases h
  constructor
  · intro n hn depth node code hr hf
    obtain ⟨anomaly, hc, hd⟩ := Condition.verdict_of_dataFault hf
    have hs := hr.anomalies_subset
    rw [hd] at hs
    refine ⟨by rw [hd], anomaly, List.mem_append_left _ ?_, hc⟩
    exact List.mem_flatMap.2 ⟨n, hn, hs (by simp)⟩
  · intro key p hp
    have hl := Template.lookup_decisions t c key
    rw [hp, Option.map_some] at hl
    rw [hv key, hl]
    cases hd : p.decide key (Resolution.trueNames (t.results c) t.conditionNames) with
    | serve text => exact .inl ⟨text, rfl⟩
    | keep anomaly level =>
      refine .inr ⟨rfl, anomaly, List.mem_append_right _ ?_, Parameter.mem_details_of_decide hd⟩
      rw [hd] at hl
      exact List.mem_map.2 ⟨_, Resolution.mem_reports hl, rfl⟩

theorem configure_eq_error_iff (defaults : OrderedMap String) (t : Template) (c : Context)
    (f : Failure) :
    (configure defaults t c).1 = .error f ↔ ∃ fault, f = .pattern fault ∧ t.Breaks c fault := by
  constructor
  · intro h
    rcases Condition.all_decided_or_first_failed Condition.defaultMaxDepth c t.conditions with
      hd | ⟨before, n, after, g, ht, hb, hg⟩
    · rw [configure_of_decided defaults hd] at h
      cases h
    · rw [configure_of_failed defaults ht hb hg] at h
      cases h
      obtain ⟨fault, hf, hr⟩ := (Condition.answer_eq_error_iff n.condition f).1 hg
      exact ⟨fault, hf, before, n, after, ht, hb, hr⟩
  · rintro ⟨fault, rfl, before, n, after, ht, hb, hr⟩
    exact configure_of_failed defaults ht hb
      ((Condition.answer_eq_error_iff n.condition _).2 ⟨fault, rfl, hr⟩)

/-- In a context, an evaluation fails for the version number before it comes to the conditions. -/
theorem evaluate_eq_error_iff {e : Engine} {text : String} {r : Request}
    (he : e.cached = some (t, text)) (hr : r.toContext = .ok c) (j : Journal) (f : Failure) :
    (e.evaluate r j).1 = .error f ↔
      f = .integerTooLong ∧ t.Unnumbered ∨
        ¬t.Unnumbered ∧ ∃ fault, f = .pattern fault ∧ t.Breaks c fault := by
  by_cases hu : t.Unnumbered
  · rw [evaluate_of_version he hr hu.versionNumber_eq]
    simp [hu, eq_comm]
  · obtain ⟨version, hv⟩ := Template.exists_versionNumber hu
    rw [evaluate_of_cached he hr hv, configure_eq_error_iff]
    simp [hu]

/-- With a template in the cache and a context built before, an evaluation fails exactly when the
version number of the template has no text or, otherwise, when a condition comes to a pattern with a
fault, and with this fault. If neither is so it answers with a config that accounts for every fault
of the data. -/
theorem evaluate_context {e : Engine} {text : String} (he : e.cached = some (t, text))
    (c : Context) (j : Journal) :
    (∀ f, (e.evaluate (.context c) j).1 = .error f ↔
      f = .integerTooLong ∧ t.Unnumbered ∨
        ¬t.Unnumbered ∧ ∃ fault, f = .pattern fault ∧ t.Breaks c fault) ∧
    (¬t.Unnumbered → (∀ fault, ¬t.Breaks c fault) →
      ∃ config, (e.evaluate (.context c) j).1 = .ok config ∧ t.Accounts c e.defaults config) := by
  refine ⟨evaluate_eq_error_iff he rfl j, ?_⟩
  intro hu h
  obtain ⟨version, hv⟩ := Template.exists_versionNumber hu
  rcases Template.decided_or_breaks t c with hd | ⟨fault, hf⟩
  · have hc := configure_of_decided e.defaults hd
    exact ⟨_, (evaluate_of_cached he rfl hv j).trans hc, accounts_of_configure hc⟩
  · exact absurd hf (h fault)

/-- A pattern that asks for more repetitions than can be counted. -/
def countingPattern : Template where
  conditions := [⟨"many", .signal ⟨"k", .string .matchesPattern, ["a{4294967295}"]⟩, by decide⟩]

def countingEngine : Engine := { cached := some (countingPattern, "") }

def countingContext : Context := ⟨.ofList [("k", "a")]⟩

theorem fullMatch_counting (text : String) :
    Pattern.fullMatch "a{4294967295}" text = .error .countTooLarge := by
  have hr : Pattern.Reader.steps {} (Pattern.Token.split "a{4294967295}".toList) =
      .error .countTooLarge :=
    (Pattern.Reader.steps_of_step rfl).trans (Pattern.Reader.steps_of_fault rfl)
  rw [Pattern.fullMatch, Pattern.Compiled.read, hr]
  rfl

theorem breaks_counting : countingPattern.Breaks countingContext .countTooLarge :=
  ⟨[], _, [], rfl, by simp, 0, _, "a", .here, by decide, rfl, rfl,
    .here (fullMatch_counting "a") (by decide)⟩

theorem numbered_counting : ¬countingPattern.Unnumbered := by
  rintro ⟨_, _, h, -⟩
  cases h

theorem evaluate_context_counting :
    (countingEngine.evaluate (.context countingContext) {}).1 = .error (.pattern .countTooLarge) :=
  ((evaluate_context (e := countingEngine) rfl countingContext {}).1 _).2
    (.inr ⟨numbered_counting, _, rfl, breaks_counting⟩)

/-- Template data alone can make an evaluation fail. -/
theorem evaluate_not_total :
    ¬∀ (e : Engine) (c : Context) (j : Journal), e.cached.isSome →
      ∃ config, (e.evaluate (.context c) j).1 = .ok config := by
  intro h
  obtain ⟨config, hc⟩ := h countingEngine countingContext {} rfl
  have hf := (evaluate_eq_error_iff (e := countingEngine) (r := .context countingContext) rfl rfl {}
    _).2 (.inr ⟨numbered_counting, _, rfl, breaks_counting⟩)
  rw [hc] at hf
  cases hf

end Engine

end TargetedConfig
