import Mathlib.Data.List.Forall2
import TargetedConfig.Proofs.Targeting.Named
import TargetedConfig.Proofs.Template.Reread

/-!
# Conditions evaluate alike after they are read

Reading a condition back changes no answer. All that may change in what it warns of is the reason
given for a node that is no condition.
-/

namespace TargetedConfig

/-- Anomalies that differ at most in the reason given for a node that is no condition. -/
structure Anomaly.Alike (a b : Anomaly) : Prop where
  code : a.code = b.code
  message : a.message = b.message
  details : a.details = b.details ∨
    a.code = .malformedCondition ∧
      ∃ r s, a.details = [("reason", .string r)] ∧ b.details = [("reason", .string s)]

theorem Anomaly.Alike.refl (a : Anomaly) : a.Alike a := ⟨rfl, rfl, .inl rfl⟩

/-- Lists of anomalies of one length that are alike position by position. -/
def Anomaly.AllAlike (as bs : List Anomaly) : Prop := List.Forall₂ Anomaly.Alike as bs

theorem Anomaly.AllAlike.refl (as : List Anomaly) : AllAlike as as :=
  List.forall₂_same.2 fun a _ => Alike.refl a

theorem Anomaly.AllAlike.append {as bs cs ds : List Anomaly} (h : AllAlike as bs)
    (k : AllAlike cs ds) : AllAlike (as ++ cs) (bs ++ ds) :=
  List.rel_append h k

namespace Verdict

variable {α : Type}

/-- Verdicts with the same answer that warn alike. -/
structure Alike (v w : Verdict α) : Prop where
  answer : v.answer = w.answer
  anomalies : Anomaly.AllAlike v.anomalies w.anomalies

theorem Alike.refl (v : Verdict α) : v.Alike v := ⟨rfl, .refl _⟩

theorem Alike.andThen {v w : Verdict α} (h : v.Alike w) {next then' : α → Verdict α}
    (hn : ∀ a, (next a).Alike (then' a)) : (v.andThen next).Alike (w.andThen then') := by
  obtain ⟨answer, warned⟩ := v
  obtain ⟨answer', warned'⟩ := w
  cases h.answer
  cases answer with
  | error f => exact ⟨rfl, h.anomalies⟩
  | ok a => exact ⟨(hn a).answer, h.anomalies.append (hn a).anomalies⟩

/-- Verdicts that are alike one by one are alike when they are read in turn. -/
theorem Alike.readWhile (go : Bool) {vs ws : List (Verdict Bool)} (h : List.Forall₂ Alike vs ws) :
    (readWhile go vs).Alike (readWhile go ws) := by
  induction h with
  | nil => exact .refl _
  | cons hv hs ih =>
    refine hv.andThen fun answer => ?_
    split
    · exact ih
    · exact .refl _

end Verdict

namespace Condition

variable {maxDepth depth : Int} {context : Option Context}

private theorem alike_children {children : List Condition}
    (h : ∀ c ∈ children,
      (verdict maxDepth context depth c).Alike (verdict maxDepth context depth c.reloaded)) :
    List.Forall₂ Verdict.Alike (children.map (verdict maxDepth context depth))
      ((children.map reloaded).map (verdict maxDepth context depth)) := by
  rw [List.map_map, List.forall₂_map_left_iff, List.forall₂_map_right_iff, List.forall₂_same]
  exact h

private theorem alike_noCondition (h : depth ≤ maxDepth) (reason : String) :
    Verdict.Alike ⟨.ok false, [noCondition reason]⟩
      (verdict maxDepth context depth (.malformed "no condition set")) := by
  rw [verdict_malformed h]
  exact ⟨rfl, .cons ⟨rfl, rfl, .inr ⟨rfl, _, _, rfl, rfl⟩⟩ .nil⟩

/-- Below the greatest depth all conditions are alike. -/
private theorem alike_of_within {c d : Condition}
    (h : depth ≤ maxDepth →
      (verdict maxDepth context depth c).Alike (verdict maxDepth context depth d)) :
    (verdict maxDepth context depth c).Alike (verdict maxDepth context depth d) := by
  by_cases hd : depth ≤ maxDepth
  · exact h hd
  · rw [verdict_of_lt (Int.not_le.1 hd), verdict_of_lt (Int.not_le.1 hd)]
    exact .refl _

/-- A condition that is read back evaluates alike at every depth and in every context. -/
theorem verdict_reloaded (maxDepth : Int) (context : Option Context) (depth : Int) (c : Condition) :
    (verdict maxDepth context depth c).Alike (verdict maxDepth context depth c.reloaded) := by
  induction c using tree_induction generalizing depth with
  | or children ih =>
    refine alike_of_within fun hd => ?_
    rw [reloaded_or, verdict_or hd, verdict_or hd]
    exact .readWhile false (alike_children fun c hc => ih c hc (depth + 1))
  | and children ih =>
    refine alike_of_within fun hd => ?_
    by_cases hc : children = []
    · subst hc
      exact .refl _
    · rw [reloaded_and, verdict_and hd hc, verdict_and hd (by simpa using hc)]
      exact .readWhile true (alike_children fun c hc => ih c hc (depth + 1))
  | malformed reason =>
    refine alike_of_within fun hd => ?_
    rw [verdict_malformed hd]
    exact alike_noCondition hd reason
  | foreign name =>
    refine alike_of_within fun hd => ?_
    rw [verdict_foreign hd]
    exact alike_noCondition hd name
  | always | never | percent | signal => exact .refl _

variable {context : Context}

theorem decided_reloaded {c : Condition} :
    c.reloaded.Decided maxDepth context ↔ c.Decided maxDepth context := by
  unfold Decided
  rw [(verdict_reloaded maxDepth (some context) 0 c).answer]

theorem holds_reloaded (c : Condition) :
    c.reloaded.holds maxDepth context = c.holds maxDepth context := by
  unfold holds
  rw [(verdict_reloaded maxDepth (some context) 0 c).answer]

/-- Named conditions that are read back have the same results. -/
theorem resultPairs_reloaded (conditions : List NamedCondition) :
    resultPairs maxDepth context (conditions.map NamedCondition.reloaded) =
      resultPairs maxDepth context conditions := by
  rw [resultPairs, List.map_map]
  refine List.map_congr_left fun n _ => ?_
  exact congrArg (n.name, ·) (holds_reloaded n.condition)

/-- Named conditions that are read back warn alike. -/
theorem anomalies_reloaded (conditions : List NamedCondition) :
    Anomaly.AllAlike (conditions.flatMap fun n => n.condition.anomalies maxDepth context)
      ((conditions.map NamedCondition.reloaded).flatMap fun n =>
        n.condition.anomalies maxDepth context) := by
  induction conditions with
  | nil => exact .nil
  | cons n rest ih =>
    have hn := (verdict_reloaded maxDepth (some context) 0 n.condition).anomalies
    exact hn.append ih

end Condition

end TargetedConfig
