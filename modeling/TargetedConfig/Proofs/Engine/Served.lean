import TargetedConfig.Proofs.Engine.Configuration

/-!
# What an evaluation serves

The value under a key depends on four things only: the caller's default for the key, the
declaration of the key that counts, the names of the true conditions in order of first appearance,
and the values of the declared parameter. `getValue_of_evaluate` says how.
-/

namespace TargetedConfig

/-- The value of a key before the parameters are resolved. -/
def seedValue (defaults : OrderedMap String) (key : String) : Value :=
  match defaults.get? key with
  | some raw => ⟨.default, raw⟩
  | none => .static

namespace Template

/-- The names of the true conditions, each once and in order of first appearance. A repeated name
is as true as the last condition that carries it. -/
def trueNames (t : Template) (c : Context) : List String :=
  t.conditionNames.eraseDups.filter fun name =>
    match NamedCondition.last? name t.conditions with
    | some n => n.condition.holds Condition.defaultMaxDepth c
    | none => false

/-- The value that a template serves under a key. The first true condition with a value for the
declared parameter decides alone, and then an empty text is served like any other. Without one the
default of the parameter decides, and an empty text counts as none. What carries no text here
leaves the value as it was. -/
def served (t : Template) (c : Context) (key : String) (seed : Value) : Value :=
  match t.declared? key with
  | none => seed
  | some p =>
    match (t.trueNames c).find? p.conditional.contains with
    | some name =>
      match p.conditional.get? name with
      | some (.explicit text) => ⟨.remote, text⟩
      | some (.rollout _ (some text) _) => ⟨.remote, text⟩
      | _ => seed
    | none =>
      match p.default with
      | some (.explicit text) => if text = "" then seed else ⟨.remote, text⟩
      | some (.rollout _ (some text) _) => if text = "" then seed else ⟨.remote, text⟩
      | _ => seed

/-- For the choice of a value the resolver's list of true names, in which names are repeated, is as
good as the list without repetitions. -/
theorem find?_trueNames (t : Template) (c : Context) (p : String → Bool) :
    (Resolution.trueNames (t.results c) t.conditionNames).find? p = (t.trueNames c).find? p := by
  rw [Resolution.trueNames, trueNames, List.find?_filter, List.find?_filter, find?_eraseDups]
  congr 1
  funext name
  rw [results, NamedCondition.get?_resultPairs]
  cases NamedCondition.last? name t.conditions <;> rfl

end Template

namespace Parameter

private theorem served?_decideConditional (key name : String) (value : ParameterValue) :
    (decideConditional key name value).served? = value.text? := by
  cases value with
  | explicit text => rfl
  | inAppDefault => rfl
  | rollout id text percent => cases text <;> rfl
  | personalization id => rfl

private theorem served?_decideDefault (key : String) (value : ParameterValue) :
    (decideDefault key (some value)).served? = value.text?.filter (· ≠ "") := by
  cases value with
  | explicit text =>
    by_cases h : text = ""
    · subst h
      rfl
    · simp [decideDefault, ParameterValue.text?, Decision.served?, Option.filter, h]
  | inAppDefault => rfl
  | rollout id text percent =>
    cases text with
    | none => rfl
    | some text =>
      by_cases h : text = ""
      · subst h
        rfl
      · simp [decideDefault, ParameterValue.text?, Decision.served?, Option.filter, h]
  | personalization id => rfl

/-- The text that a decision serves, by the value for the first true condition or the default. -/
theorem served?_decide (key : String) (p : Parameter) (names : List String) :
    (p.decide key names).served? =
      match names.find? p.conditional.contains with
      | some name => (p.conditional.get? name).bind ParameterValue.text?
      | none => (p.default.bind ParameterValue.text?).filter (· ≠ "") := by
  rw [decide, conditional?_eq]
  cases hn : names.find? p.conditional.contains with
  | none =>
    cases p.default with
    | none => rfl
    | some value => exact served?_decideDefault key value
  | some name =>
    have hc : p.conditional.contains name = true := by
      simpa using List.find?_some hn
    obtain ⟨value, hv⟩ := Option.isSome_iff_exists.1 hc
    simp only [Option.bind_some, hv, Option.map_some]
    exact served?_decideConditional key name value

end Parameter

namespace Template

theorem lookup_decisions (t : Template) (c : Context) (key : String) :
    (t.decisions c).lookup key =
      (t.declared? key).map fun p =>
        p.decide key (Resolution.trueNames (t.results c) t.conditionNames) := by
  rw [decisions, Resolution.lookup_decisions, ← get?_declarations]
  rfl

/-- The text served under a key, if there is one. -/
theorem served_eq (t : Template) (c : Context) (key : String) (seed : Value) :
    t.served c key seed =
      match ((t.decisions c).lookup key).bind Decision.served? with
      | some text => ⟨.remote, text⟩
      | none => seed := by
  rw [lookup_decisions]
  rw [served]
  cases t.declared? key with
  | none => rfl
  | some p =>
    simp only [Option.map_some, Option.bind_some, Parameter.served?_decide, find?_trueNames]
    cases (t.trueNames c).find? p.conditional.contains with
    | some name =>
      dsimp only
      rcases p.conditional.get? name with _ | ⟨text⟩ | _ | ⟨id, _ | text, percent⟩ | ⟨id⟩ <;> rfl
    | none =>
      dsimp only
      rcases p.default with _ | ⟨text⟩ | _ | ⟨id, _ | text, percent⟩ | ⟨id⟩ <;>
        first
        | rfl
        | (by_cases h : text = "" <;> simp [ParameterValue.text?, Option.filter, h])

end Template

namespace Engine

/-- The config of a template holds what the decision about a key serves, or else the caller's
default. -/
theorem getValue_of_configure {defaults : OrderedMap String} {t : Template} {c : Context}
    {config : Config} (h : (configure defaults t c).1 = .ok config) (key : String) :
    config.getValue key =
      match ((t.decisions c).lookup key).bind Decision.served? with
      | some text => ⟨.remote, text⟩
      | none => seedValue defaults key := by
  rw [configure_of_decided defaults (decided_of_configure h)] at h
  cases h
  have hn : ((t.decisions c).map Prod.fst).Nodup := by
    rw [Template.decisions, Resolution.keys_decisions]
    exact t.declarations.parameters.distinct
  rw [Config.getValue, seedValue, Resolution.get?_serveAll _ hn, Resolution.get?_seed]
  cases ((t.decisions c).lookup key).bind Decision.served? with
  | some served => rfl
  | none => cases defaults.get? key <;> rfl

/-- Whenever an evaluation answers with a config, the config holds under every key what the template
serves there. -/
theorem getValue_of_evaluate {e : Engine} {t : Template} {text : String} {r : Request} {c : Context}
    {j after : Journal} {config : Config} (he : e.cached = some (t, text))
    (hr : r.toContext = .ok c) (h : e.evaluate r j = (.ok config, after)) (key : String) :
    config.getValue key = t.served c key (seedValue e.defaults key) := by
  rw [getValue_of_configure (configure_of_evaluate he hr h), Template.served_eq]

/-- Two conditions share a name, and the value for it is a rollout of the empty text. -/
def sharedName : Template where
  conditions :=
    [⟨"a", .never, by decide⟩, ⟨"b", .always, by decide⟩, ⟨"a", .or [.never, .always], by decide⟩]
  groups := .ofList [("g", { parameters := .ofList [("k",
    { conditional := .ofList [("b", .explicit "x"), ("a", .rollout "r" (some "") 5)] })] })]

def sharedNameEngine : Engine where
  defaults := .ofList [("k", "d")]
  cached := some (sharedName, "")

theorem getValue_of_evaluate_sharedName :
    ∃ config after, sharedNameEngine.evaluate (.signals .empty) {} = (.ok config, after) ∧
      config.getValue "k" = sharedName.served ⟨.empty⟩ "k" ⟨.default, "d"⟩ ∧
      sharedName.served ⟨.empty⟩ "k" ⟨.default, "d"⟩ = ⟨.remote, ""⟩ :=
  ⟨_, _, rfl, getValue_of_evaluate (e := sharedNameEngine) (r := .signals .empty) (j := {})
    rfl rfl rfl "k", rfl⟩

end Engine

end TargetedConfig
