import TargetedConfig.Proofs.Engine.Configuration
import TargetedConfig.Proofs.Targeting.Alike
import TargetedConfig.Proofs.Template.VersionNumber

/-!
# Saving and loading a template changes nothing that is served

A template that is read back from its text is decided, resolved and reported like the one that was
written, although it need not be the same: `evaluate_reloaded` relates the outcomes, and
`set_create` does so for an engine and a new one that is made from the text it has cached.
-/

namespace TargetedConfig

/-- Outcomes that a caller takes for the same: one failure, or the same values with anomalies that
are alike. -/
inductive Outcome.Alike : Except Failure Config → Except Failure Config → Prop where
  | failure (f) : Alike (.error f) (.error f)
  | config {values : OrderedMap Value} {as bs : List Anomaly} (h : Anomaly.AllAlike as bs) :
      Alike (.ok ⟨values, as⟩) (.ok ⟨values, bs⟩)

theorem Parameter.decide_reloaded (key : String) (p : Parameter) (names : List String) :
    p.reloaded.decide key names = p.decide key names := by
  have h (names : List String) : p.reloaded.conditional? names = p.conditional? names := by
    rw [conditional?_eq, conditional?_eq]
    rfl
  rw [decide, h]
  rfl

theorem Resolution.decisions_reloaded (names : List String)
    (parameters : List (String × Parameter)) :
    decisions names (parameters.map fun p => (p.1, p.2.reloaded)) =
      decisions names parameters := by
  rw [decisions, List.map_map]
  refine List.map_congr_left fun p _ => ?_
  exact congrArg (p.1, ·) (p.2.decide_reloaded p.1 names)

namespace Template

variable (t : Template) (c : Context)

theorem conditionNames_reloaded : t.reloaded.conditionNames = t.conditionNames := by
  rw [conditionNames, reloaded, List.map_map]
  rfl

theorem declarations_reloaded : t.reloaded.declarations = t.declarations.map Parameter.reloaded :=
  declarations_map Parameter.reloaded (fun _ => rfl) rfl rfl

theorem results_reloaded : t.reloaded.results c = t.results c := by
  unfold results reloaded
  rw [Condition.resultPairs_reloaded]

theorem decisions_reloaded : t.reloaded.decisions c = t.decisions c := by
  rw [decisions, results_reloaded, conditionNames_reloaded, declarations_reloaded]
  exact Resolution.decisions_reloaded _ _

theorem decided_reloaded {t : Template} {c : Context} (h : t.Decided c) : t.reloaded.Decided c := by
  intro n hn
  obtain ⟨m, hm, rfl⟩ := List.mem_map.1 hn
  exact Condition.decided_reloaded.2 (h m hm)

end Template

namespace Engine

/-- A template that is read back configures alike. -/
theorem configure_reloaded (defaults : OrderedMap String) (t : Template) (c : Context) :
    Outcome.Alike (configure defaults t c).1 (configure defaults t.reloaded c).1 := by
  rcases Condition.all_decided_or_first_failed Condition.defaultMaxDepth c t.conditions with
    hd | ⟨before, n, after, f, ht, hb, hf⟩
  · rw [configure_of_decided defaults hd, configure_of_decided defaults (t.decided_reloaded hd),
      t.decisions_reloaded, Template.parameterAnomalies, Template.parameterAnomalies,
      t.decisions_reloaded]
    exact .config (.append (Condition.anomalies_reloaded t.conditions) (.refl _))
  · have hr : t.reloaded.conditions = before.map NamedCondition.reloaded ++
        n.reloaded :: after.map NamedCondition.reloaded := by
      change t.conditions.map NamedCondition.reloaded = _
      rw [ht, List.map_append, List.map_cons]
    have hm : ∀ m ∈ before.map NamedCondition.reloaded,
        m.condition.Decided Condition.defaultMaxDepth c := by
      intro m hm
      obtain ⟨k, hk, rfl⟩ := List.mem_map.1 hm
      exact Condition.decided_reloaded.2 (hb k hk)
    have ha := Condition.verdict_reloaded Condition.defaultMaxDepth (some c) 0 n.condition
    have hg : (Condition.verdict Condition.defaultMaxDepth (some c) 0 n.reloaded.condition).answer =
        .error f := ha.answer.symm.trans hf
    rw [configure_of_failed defaults ht hb hf, configure_of_failed defaults hr hm hg]
    exact .failure f

/-- Only the details about the version differ between a template and what its text keeps of it. -/
theorem configure_written (defaults : OrderedMap String) (t : Template) (c : Context) :
    configure defaults t.written c = configure defaults t c := rfl

/-- With the same defaults a template and the one that is read back from it evaluate alike. -/
theorem evaluate_reloaded {t : Template} (h : t.Readable) (defaults : OrderedMap String)
    (text₁ text₂ : String) (r : Request) (j₁ j₂ : Journal) :
    Outcome.Alike (evaluate { defaults, cached := some (t, text₁) } r j₁).1
      (evaluate { defaults, cached := some (t.written.reloaded, text₂) } r j₂).1 := by
  obtain ⟨_, ht⟩ := Template.exists_versionNumber h.not_unnumbered
  obtain ⟨_, hu⟩ :=
    Template.exists_versionNumber (Template.not_unnumbered_of_load (Template.load_of_readable h))
  rcases hr : r.toContext with f | c
  · rw [evaluate_of_request rfl hr, evaluate_of_request rfl hr]
    exact .failure f
  · rw [evaluate_of_cached rfl hr ht, evaluate_of_cached rfl hr hu, ← configure_written _ t]
    exact configure_reloaded defaults t.written c

private theorem set_template {t : Template} (h : t.Readable) (e : Engine) (j : Journal) :
    ∃ after, e.set (.template t) j = (.ok (), { e with cached := some (t, t.render) }, after) := by
  obtain ⟨_, hv⟩ := Template.exists_versionNumber h.not_unnumbered
  unfold set Submission.load cachedNote
  dsimp only
  rw [Template.render?_of_readable h]
  dsimp only
  rw [hv]
  exact ⟨_, rfl⟩

private theorem create_text {t : Template} (h : t.Readable) (defaults : OrderedMap String)
    (j : Journal) :
    ∃ after, create defaults (some (.text t.render)) j =
      (.ok { defaults, cached := some (t.written.reloaded, t.render) }, after) := by
  have hl := Template.load_of_readable h
  obtain ⟨_, hv⟩ := Template.exists_versionNumber (Template.not_unnumbered_of_load hl)
  unfold create set Submission.load cachedNote
  dsimp only
  rw [hl]
  dsimp only [Except.map]
  rw [hv]
  exact ⟨_, rfl⟩

/-- A template whose text stays within the limits of the reader is read back to one that evaluates
alike, whatever the defaults and the request are. An engine that has been given the template and a
new one made from the text that it has cached evaluate alike, too. -/
theorem evaluate_alike_of_reload {t : Template} (h : t.Readable) :
    (∃ u notes, Template.load t.render = (.ok u, notes) ∧
      ∀ defaults text₁ text₂ r j₁ j₂, Outcome.Alike
        (evaluate { defaults, cached := some (t, text₁) } r j₁).1
        (evaluate { defaults, cached := some (u, text₂) } r j₂).1) ∧
    ∀ (e : Engine) j₁ j₂, ∃ e₁ e₂ after₁ after₂,
      e.set (.template t) j₁ = (.ok (), e₁, after₁) ∧
      create e.defaults (e₁.cachedText.map .text) j₂ = (.ok e₂, after₂) ∧
      ∀ r k₁ k₂, Outcome.Alike (e₁.evaluate r k₁).1 (e₂.evaluate r k₂).1 := by
  constructor
  · refine ⟨_, _, Template.load_of_readable h, ?_⟩
    intro defaults text₁ text₂ r j₁ j₂
    exact evaluate_reloaded h defaults text₁ text₂ r j₁ j₂
  · intro e j₁ j₂
    obtain ⟨after₁, hs⟩ := set_template h e j₁
    obtain ⟨after₂, hc⟩ := create_text h e.defaults j₂
    refine ⟨_, _, after₁, after₂, hs, hc, ?_⟩
    intro r k₁ k₂
    exact evaluate_reloaded h e.defaults t.render t.render r k₁ k₂

/-- Nodes that are no condition, an empty value type and a number without a text. -/
def lossy : Template where
  conditions :=
    [⟨"lost", .or [.malformed "unknown field", .and [.foreign "int"], .always], by decide⟩]
  parameters := .ofList [("k", { default := some (.explicit "v"), valueType := "" })]
  version := some (.ofList [("versionNumber", .float .nan)])

theorem evaluate_alike_of_reload_lossy :
    lossy.Readable ∧
    ∀ (e : Engine) j₁ j₂, ∃ e₁ e₂ after₁ after₂,
      e.set (.template lossy) j₁ = (.ok (), e₁, after₁) ∧
      create e.defaults (e₁.cachedText.map .text) j₂ = (.ok e₂, after₂) ∧
      ∀ r k₁ k₂, Outcome.Alike (e₁.evaluate r k₁).1 (e₂.evaluate r k₂).1 := by
  have hr : lossy.Readable := ⟨by decide, by decide⟩
  exact ⟨hr, (evaluate_alike_of_reload hr).2⟩

end Engine

end TargetedConfig
