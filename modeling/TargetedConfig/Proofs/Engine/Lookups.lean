import TargetedConfig.Proofs.Context
import TargetedConfig.Proofs.Engine.Failures

/-!
# Evaluations read a context by its lookups

Nothing in an evaluation depends on a context but what its lookups answer. Contexts that are the
same, whatever the order of their signals and the types they were given in, are therefore evaluated
alike, down to the entries written. Signals of which one has no text are not evaluated at all.
-/

namespace TargetedConfig

/-- Contexts in which every lookup answers alike. -/
def Context.Agrees (c d : Context) : Prop := ∀ key, c.get? key = d.get? key

namespace Condition

variable {c d : Context}

theorem evaluatePercent_congr (h : c.Agrees d) (slice : PercentSlice) :
    evaluatePercent (some c) slice = evaluatePercent (some d) slice := by
  have hid : c.randomizationId? = d.randomizationId? := h _
  rw [evaluatePercent, evaluatePercent, required, required, pure_bind, pure_bind, hid]

theorem evaluateSignal_congr (h : c.Agrees d) (test : SignalTest) :
    evaluateSignal (some c) test = evaluateSignal (some d) test := by
  rw [evaluateSignal, evaluateSignal, required, required, pure_bind, pure_bind, h]

private theorem evaluateAny_congr {maxDepth depth : Int} {children : List Condition}
    (h : ∀ child ∈ children, evaluate maxDepth (some c) depth child =
      evaluate maxDepth (some d) depth child) :
    evaluateAny maxDepth (some c) depth children =
      evaluateAny maxDepth (some d) depth children := by
  induction children with
  | nil => rfl
  | cons child rest ih =>
    rw [evaluateAny, evaluateAny, h child (by simp), ih fun other ho => h other (by simp [ho])]

private theorem evaluateAll_congr {maxDepth depth : Int} {children : List Condition}
    (h : ∀ child ∈ children, evaluate maxDepth (some c) depth child =
      evaluate maxDepth (some d) depth child) :
    evaluateAll maxDepth (some c) depth children =
      evaluateAll maxDepth (some d) depth children := by
  induction children with
  | nil => rfl
  | cons child rest ih =>
    rw [evaluateAll, evaluateAll, h child (by simp), ih fun other ho => h other (by simp [ho])]

/-- Conditions are evaluated alike in contexts in which every lookup answers alike. -/
theorem evaluate_congr (h : c.Agrees d) (maxDepth depth : Int) (condition : Condition) :
    evaluate maxDepth (some c) depth condition = evaluate maxDepth (some d) depth condition := by
  induction condition using tree_induction generalizing depth with
  | or children ih =>
    rw [evaluate, evaluate, evaluateAny_congr fun child hc => ih child hc (depth + 1)]
  | and children ih =>
    rw [evaluate, evaluate, evaluateAll_congr fun child hc => ih child hc (depth + 1)]
  | percent slice => rw [evaluate, evaluate, evaluatePercent_congr h]
  | signal test => rw [evaluate, evaluate, evaluateSignal_congr h]
  | always | never | malformed | foreign => rw [evaluate, evaluate]

theorem evaluateNamed_congr (h : c.Agrees d) (maxDepth : Int) (conditions : List NamedCondition)
    (done : OrderedMap Bool) :
    evaluateNamed maxDepth c conditions done = evaluateNamed maxDepth d conditions done := by
  induction conditions generalizing done with
  | nil => rfl
  | cons n rest ih =>
    rw [evaluateNamed, evaluateNamed, evaluate_congr h]
    simp only [ih]

end Condition

namespace Engine

variable {c d : Context}

/-- A template configures alike in contexts in which every lookup answers alike, and the same
entries are written. -/
theorem configure_congr (h : c.Agrees d) (defaults : OrderedMap String) (t : Template) :
    configure defaults t c = configure defaults t d := by
  have hc : evaluateConditions t c = evaluateConditions t d := by
    rw [evaluateConditions, evaluateConditions, Condition.evaluateConditions,
      Condition.evaluateConditions, Condition.evaluateNamed_congr h]
  rw [configure, configure, evaluateTemplate, evaluateTemplate, hc]

variable {e : Engine} {t : Template} {text : String}

/-- Requests for contexts that are the same have the same outcome. -/
theorem evaluate_congr (he : e.cached = some (t, text)) {r s : Request} (hr : r.toContext = .ok c)
    (hs : s.toContext = .ok d) (h : c.Agrees d) :
    (∀ j k, (e.evaluate r j).1 = (e.evaluate s k).1) ∧ ∀ j, e.evaluate r j = e.evaluate s j := by
  have hc := configure_congr h e.defaults t
  rcases hv : t.versionNumber with f | version
  · constructor
    · intro j k
      rw [evaluate_of_version he hr hv, evaluate_of_version he hs hv]
    · intro j
      rw [evaluate_of_version he hr hv, evaluate_of_version he hs hv]
  · constructor
    · intro j k
      rw [evaluate_of_cached he hr hv, evaluate_of_cached he hs hv, hc]
    · intro j
      rw [evaluate_eq he hr hv, evaluate_eq he hs hv, hc]

/-- Signals of which one has no text make an evaluation fail, for the first of these. -/
theorem evaluate_of_firstLacks (he : e.cached = some (t, text)) {signals : OrderedMap Signal}
    {f : Failure} (h : Signal.FirstLacks signals.entries f) (j : Journal) :
    e.evaluate (.signals signals) j = (.error f, j) := by
  have hr : (Request.signals signals).toContext = .error f := Context.ofSignals_eq_error_iff.2 h
  exact evaluate_of_request he hr j

/-- An evaluation fails for the type of a signal exactly when its signals give no context for this
reason. -/
theorem evaluate_eq_unsupported_iff (he : e.cached = some (t, text)) {signals : OrderedMap Signal}
    {typeName : String} :
    (∀ j, e.evaluate (.signals signals) j = (.error (.unsupportedSignal typeName), j)) ↔
      Signal.FirstLacks signals.entries (.unsupportedSignal typeName) := by
  constructor
  · intro h
    rw [← Context.ofSignals_eq_error_iff]
    cases hr : (Request.signals signals).toContext with
    | error f =>
      have hj := h {}
      rw [evaluate_of_request he hr] at hj
      cases hj
      exact hr
    | ok c =>
      have hf := (evaluate_eq_error_iff he hr {} _).1 (congrArg Prod.fst (h {}))
      rcases hf with ⟨hf, -⟩ | ⟨-, fault, hf, -⟩ <;> cases hf
  · intro h j
    exact evaluate_of_firstLacks he h j

/-- An evaluation of two requests for contexts that are the same, each made from signals or made
before, has the same outcome, and the contexts have the same hash, whatever is taken as the hash of
a set of signals. Signals of which one has no text make the evaluation fail for the first of these,
and then nothing is evaluated and nothing is written. So a type that no signal may have is what the
evaluation fails for exactly when no integer that is too long comes before it. -/
theorem evaluate_respects_same (he : e.cached = some (t, text)) :
    (∀ (r s : Request) (c d : Context), r.toContext = .ok c → s.toContext = .ok d →
      c.same d = true →
        (∀ ofSet, c.hash ofSet = d.hash ofSet) ∧
        (∀ j k, (e.evaluate r j).1 = (e.evaluate s k).1) ∧
        ∀ j, e.evaluate r j = e.evaluate s j) ∧
    (∀ (signals : OrderedMap Signal) key typeName, (key, .unsupported typeName) ∈ signals.entries →
      ∃ f, Signal.FirstLacks signals.entries f ∧
        ∀ j, e.evaluate (.signals signals) j = (.error f, j)) ∧
    ∀ signals : OrderedMap Signal,
      (∃ typeName, ∀ j,
        e.evaluate (.signals signals) j = (.error (.unsupportedSignal typeName), j)) ↔
      ∃ before key typeName after,
        signals.entries = before ++ (key, .unsupported typeName) :: after ∧
          ∀ p ∈ before, ∀ n, p.2 = .integer n → ¬Text.TooLong n := by
  refine ⟨?_, ?_, ?_⟩
  · intro r s c d hr hs h
    refine ⟨?_, evaluate_congr he hr hs (Context.same_iff_get?.1 h)⟩
    intro ofSet
    exact congrArg ofSet (Context.same_iff_items.1 h)
  · intro signals key typeName hm
    obtain ⟨f, hf⟩ := Signal.exists_firstLacks hm (.unsupported typeName)
    exact ⟨f, hf, evaluate_of_firstLacks he hf⟩
  · intro signals
    simp only [evaluate_eq_unsupported_iff he, Signal.exists_firstLacks_unsupported_iff]

/-- An engine whose template asks for a number. -/
def numbered : Engine where
  cached := some ({ conditions := [⟨"few", .signal ⟨"n", .numeric .less, ["7"]⟩, by decide⟩] }, "")

def typed : OrderedMap Signal :=
  .ofList [("n", .integer 5), ("x", .float (.zero true)), ("b", .bool true)]

/-- The texts of these signals in another order. -/
def retyped : Context := ⟨.ofList [("b", "true"), ("n", "5"), ("x", "-0.0")]⟩

theorem evaluate_respects_same_retyped :
    (∃ c, (Request.ofSignals? typed).toContext = .ok c ∧ c.same retyped = true ∧
      (∀ ofSet, c.hash ofSet = retyped.hash ofSet) ∧
      ∀ j, numbered.evaluate (.ofSignals? typed) j = numbered.evaluate (.context retyped) j) ∧
    ∀ j, numbered.evaluate (.signals (typed.insert "t" (.unsupported "list"))) j =
      (.error (.unsupportedSignal "list"), j) := by
  obtain ⟨same, -, refused⟩ := evaluate_respects_same (e := numbered) rfl
  constructor
  · obtain ⟨hash, -, run⟩ := same (.ofSignals? typed) (.context retyped) _ retyped rfl rfl rfl
    exact ⟨_, rfl, rfl, hash, run⟩
  · have short : ∀ p ∈ typed.entries, ∀ n, p.2 = .integer n → ¬Text.TooLong n := by
      intro p hp n hn
      change p ∈ [("n", Signal.integer 5), ("x", .float (.zero true)), ("b", .bool true)] at hp
      simp only [List.mem_cons, List.not_mem_nil, or_false] at hp
      rcases hp with rfl | rfl | rfl <;> cases hn
      decide
    obtain ⟨typeName, run⟩ := (refused (typed.insert "t" (.unsupported "list"))).2
      ⟨typed.entries, "t", "list", [], rfl, short⟩
    have hl : (numbered.evaluate (.signals (typed.insert "t" (.unsupported "list"))) {}).1 =
        .error (.unsupportedSignal "list") := rfl
    rw [run] at hl
    cases hl
    exact run

/-- An integer that is too long, and after it a signal of a type that none may have. -/
def longFirst : OrderedMap Signal :=
  .ofList [("a", .integer Text.leastTooLong), ("b", .unsupported "NoneType")]

/-- A type that no signal may have is not always what an evaluation fails for. -/
theorem evaluate_not_unsupported :
    ¬∀ (e : Engine) (signals : OrderedMap Signal) key typeName, e.cached.isSome →
      (key, .unsupported typeName) ∈ signals.entries →
        ∃ first, ∀ j, e.evaluate (.signals signals) j = (.error (.unsupportedSignal first), j) := by
  intro h
  have hm : ("b", .unsupported "NoneType") ∈ longFirst.entries :=
    OrderedMap.mem_entries_iff.2 (OrderedMap.get?_insert _ _ _ _)
  obtain ⟨first, hf⟩ := h numbered longFirst "b" "NoneType" rfl hm
  have hl : Signal.FirstLacks longFirst.entries .integerTooLong :=
    ⟨[], _, _, _, rfl, .tooLong Text.tooLong_leastTooLong, by simp⟩
  have he := evaluate_of_firstLacks (e := numbered) rfl hl {}
  rw [hf] at he
  cases he

end Engine

end TargetedConfig
