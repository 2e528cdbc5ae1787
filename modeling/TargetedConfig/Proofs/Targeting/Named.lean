import TargetedConfig.Proofs.OrderedMap
import TargetedConfig.Proofs.Targeting.Evaluation

/-!
# Named conditions

Named conditions are evaluated in order, each one on its own, up to the first failure. The result
under a name is that of the last condition with this name.
-/

namespace TargetedConfig

namespace Condition

open Audited

/-- A condition is decided when its evaluation ends with an answer. -/
def Decided (maxDepth : Int) (context : Context) (c : Condition) : Prop :=
  ∃ answer, (verdict maxDepth (some context) 0 c).answer = .ok answer

def holds (maxDepth : Int) (context : Context) (c : Condition) : Bool :=
  match (verdict maxDepth (some context) 0 c).answer with
  | .ok answer => answer
  | .error _ => false

def anomalies (maxDepth : Int) (context : Context) (c : Condition) : List Anomaly :=
  (verdict maxDepth (some context) 0 c).anomalies

variable {maxDepth : Int} {context : Context}

theorem answer_of_decided {c : Condition} (h : c.Decided maxDepth context) :
    (verdict maxDepth (some context) 0 c).answer = .ok (c.holds maxDepth context) := by
  obtain ⟨answer, ha⟩ := h
  simp [holds, ha]

theorem decided_or_failed (maxDepth : Int) (context : Context) (c : Condition) :
    c.Decided maxDepth context ∨ ∃ f, (verdict maxDepth (some context) 0 c).answer = .error f := by
  rw [Decided]
  cases (verdict maxDepth (some context) 0 c).answer <;> simp

/-- The names of conditions with their results, repetitions included. -/
def resultPairs (maxDepth : Int) (context : Context) (conditions : List NamedCondition) :
    List (String × Bool) :=
  conditions.map fun n => (n.name, n.condition.holds maxDepth context)

theorem uniform_evaluateNamed (maxDepth : Int) (context : Context)
    (conditions : List NamedCondition) (done : OrderedMap Bool) :
    (evaluateNamed maxDepth context conditions done).Uniform := by
  induction conditions generalizing done with
  | nil => exact uniform_pure _
  | cons n rest ih =>
    rw [evaluateNamed]
    exact uniform_bind (uniform_evaluate _ _ _ _) fun answer => ih _

private theorem verdict_evaluateNamed_cons (n : NamedCondition) (rest : List NamedCondition)
    (done : OrderedMap Bool) :
    (evaluateNamed maxDepth context (n :: rest) done).verdict =
      (verdict maxDepth (some context) 0 n.condition).andThen fun answer =>
        (evaluateNamed maxDepth context rest (done.insert n.name answer)).verdict := by
  rw [evaluateNamed, verdict_bind (uniform_evaluate _ _ _ _)
    fun answer => uniform_evaluateNamed _ _ _ _]
  rfl

/-- Decided conditions give the map of their results and warn of what each of them warns of. -/
theorem verdict_evaluateNamed {conditions : List NamedCondition}
    (h : ∀ n ∈ conditions, n.condition.Decided maxDepth context) (done : OrderedMap Bool) :
    (evaluateNamed maxDepth context conditions done).verdict =
      ⟨.ok (done.insertAll (resultPairs maxDepth context conditions)),
        conditions.flatMap fun n => n.condition.anomalies maxDepth context⟩ := by
  induction conditions generalizing done with
  | nil => rfl
  | cons n rest ih =>
    have hn := answer_of_decided (h n (by simp))
    rw [verdict_evaluateNamed_cons, Verdict.andThen, hn]
    dsimp only
    rw [ih fun m hm => h m (by simp [hm])]
    rfl

/-- The first failure among conditions ends their evaluation. -/
theorem answer_evaluateNamed_of_failed {before after : List NamedCondition} {n : NamedCondition}
    {f : Failure} (hb : ∀ m ∈ before, m.condition.Decided maxDepth context)
    (hf : (verdict maxDepth (some context) 0 n.condition).answer = .error f)
    (done : OrderedMap Bool) :
    (evaluateNamed maxDepth context (before ++ n :: after) done).verdict.answer = .error f := by
  induction before generalizing done with
  | nil =>
    rw [List.nil_append, verdict_evaluateNamed_cons, Verdict.andThen, hf]
  | cons m rest ih =>
    have hm := answer_of_decided (hb m (by simp))
    rw [List.cons_append, verdict_evaluateNamed_cons, Verdict.andThen, hm]
    exact ih (fun k hk => hb k (by simp [hk])) _

/-- Either all conditions are decided, or there is a first one that fails. -/
theorem all_decided_or_first_failed (maxDepth : Int) (context : Context)
    (conditions : List NamedCondition) :
    (∀ n ∈ conditions, n.condition.Decided maxDepth context) ∨
      ∃ before n after f, conditions = before ++ n :: after ∧
        (∀ m ∈ before, m.condition.Decided maxDepth context) ∧
        (verdict maxDepth (some context) 0 n.condition).answer = .error f := by
  induction conditions with
  | nil => exact .inl (by simp)
  | cons n rest ih =>
    rcases decided_or_failed maxDepth context n.condition with hn | ⟨f, hf⟩
    · rcases ih with hr | ⟨before, m, after, f, rfl, hb, hf⟩
      · left
        intro m hm
        rcases List.mem_cons.1 hm with rfl | hm
        · exact hn
        · exact hr m hm
      · refine .inr ⟨n :: before, m, after, f, rfl, ?_, hf⟩
        intro k hk
        rcases List.mem_cons.1 hk with rfl | hk
        · exact hn
        · exact hb k hk
    · exact .inr ⟨[], n, rest, f, rfl, by simp, hf⟩

/-- Decided conditions are all evaluated, and what each of them warns of is collected. -/
theorem runOn_evaluateConditions {conditions : List NamedCondition}
    (h : ∀ n ∈ conditions, n.condition.Decided maxDepth context) (l : Ledger) :
    ∃ after, (evaluateConditions maxDepth context conditions).runOn l =
        (.ok (.ofList (resultPairs maxDepth context conditions)), after) ∧
      after.collected = l.collected.map
        (· ++ conditions.flatMap fun n => n.condition.anomalies maxDepth context) := by
  rw [evaluateConditions, runOn_bind, uniform_evaluateNamed, verdict_evaluateNamed h]
  exact ⟨_, rfl, collected_warn _ _⟩

theorem runOn_evaluateConditions_of_failed {before after : List NamedCondition}
    {n : NamedCondition} {f : Failure} (hb : ∀ m ∈ before, m.condition.Decided maxDepth context)
    (hf : (verdict maxDepth (some context) 0 n.condition).answer = .error f) (l : Ledger) :
    ((evaluateConditions maxDepth context (before ++ n :: after)).runOn l).1 = .error f := by
  rw [evaluateConditions, runOn_bind, uniform_evaluateNamed, answer_evaluateNamed_of_failed hb hf]

end Condition

namespace NamedCondition

def last? (name : String) (conditions : List NamedCondition) : Option NamedCondition :=
  conditions.reverse.find? (·.name == name)

private theorem lookup_map_name {α : Type} (f : NamedCondition → α) (name : String)
    (conditions : List NamedCondition) :
    (conditions.map fun n => (n.name, f n)).lookup name =
      (conditions.find? (·.name == name)).map f := by
  induction conditions with
  | nil => rfl
  | cons n rest ih =>
    rw [List.map_cons, lookup_cons_eq_ite, ih, List.find?_cons]
    by_cases h : name = n.name
    · simp [h]
    · have hn : (n.name == name) = false := by simpa using Ne.symm h
      simp [h, hn]

/-- The result under a name is that of the last condition with this name. -/
theorem get?_resultPairs (maxDepth : Int) (context : Context) (conditions : List NamedCondition)
    (name : String) :
    (OrderedMap.ofList (Condition.resultPairs maxDepth context conditions)).get? name =
      (last? name conditions).map fun n => n.condition.holds maxDepth context := by
  rw [OrderedMap.ofList, OrderedMap.get?_insertAll, OrderedMap.get?_empty, Option.or_none,
    Condition.resultPairs, ← List.map_reverse, lookup_map_name]
  rfl

end NamedCondition

end TargetedConfig
