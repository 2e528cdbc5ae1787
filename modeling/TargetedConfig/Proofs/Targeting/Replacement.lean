import Mathlib.Data.List.Forall2
import TargetedConfig.Proofs.Targeting.Meaning

/-!
# Replacing parts of a condition tree

`Condition.Replaced` relates two trees of one shape when parts of the first one, at any places, give
way to others. Which parts may do so can depend on the depth at which they stand. Two properties of
single replacements carry over to whole trees: that no evaluation can tell the parts from each
other, and that nothing true becomes false.
-/

namespace TargetedConfig.Condition

mutual

/-- A tree that stands at a depth, and the tree with some of its parts replaced: at each of these
places the parts are related at the depth of the place. -/
inductive Replaced (r : Int → Condition → Condition → Prop) :
    Int → Condition → Condition → Prop where
  | kept {depth} (c) : Replaced r depth c c
  | here {depth c d} (h : r depth c d) : Replaced r depth c d
  | or {depth children others} (h : ReplacedAll r (depth + 1) children others) :
      Replaced r depth (.or children) (.or others)
  | and {depth children others} (h : ReplacedAll r (depth + 1) children others) :
      Replaced r depth (.and children) (.and others)

/-- Trees with some of their parts replaced, one by one. -/
inductive ReplacedAll (r : Int → Condition → Condition → Prop) :
    Int → List Condition → List Condition → Prop where
  | nil {depth} : ReplacedAll r depth [] []
  | cons {depth c d children others} (first : Replaced r depth c d)
      (rest : ReplacedAll r depth children others) :
      ReplacedAll r depth (c :: children) (d :: others)

end

variable {r : Int → Condition → Condition → Prop} {maxDepth depth : Int} {context : Option Context}

/-- What holds of all single replacements, and of junctions whenever it holds of their children one
by one, holds of trees. -/
@[elab_as_elim]
theorem Replaced.pairs_induction {P : Int → Condition → Condition → Prop}
    (kept : ∀ depth c, P depth c c) (here : ∀ depth c d, r depth c d → P depth c d)
    (or : ∀ depth children others, List.Forall₂ (P (depth + 1)) children others →
      P depth (.or children) (.or others))
    (and : ∀ depth children others, List.Forall₂ (P (depth + 1)) children others →
      P depth (.and children) (.and others))
    {depth : Int} {c d : Condition} (h : Replaced r depth c d) : P depth c d := by
  -- The recursor of the mutual pair; what is shown of two lists is that their members are paired.
  refine @Replaced.rec r (fun depth c d _ => P depth c d)
    (fun depth children others _ => List.Forall₂ (P depth) children others)
    (kept _) (here _ _ _) ?_ ?_ .nil ?_ depth c d h
  · intro depth children others _ ih
    exact or depth children others ih
  · intro depth children others _ ih
    exact and depth children others ih
  · intro depth c d children others _ _ ih ihs
    exact .cons ih ihs

private theorem map_verdict_eq {children others : List Condition}
    (h : List.Forall₂
      (fun c d => verdict maxDepth context depth c = verdict maxDepth context depth d)
      children others) :
    children.map (verdict maxDepth context depth) =
      others.map (verdict maxDepth context depth) := by
  rw [← List.forall₂_eq_eq_eq, List.forall₂_map_left_iff, List.forall₂_map_right_iff]
  exact h

/-- Parts that evaluate alike may replace each other anywhere. -/
theorem Replaced.verdict_eq
    (hr : ∀ depth c d, r depth c d →
      verdict maxDepth context depth c = verdict maxDepth context depth d)
    {c d : Condition} (h : Replaced r depth c d) :
    verdict maxDepth context depth c = verdict maxDepth context depth d := by
  refine h.pairs_induction ?kept ?here ?or ?and
  case kept =>
    intro depth c
    rfl
  case here => exact hr
  case or =>
    intro depth children others ih
    refine verdict_eq_of_within fun hd => ?_
    rw [verdict_or hd, verdict_or hd, map_verdict_eq ih]
  case and =>
    intro depth children others ih
    refine verdict_eq_of_within fun hd => ?_
    cases ih with
    | nil => rfl
    | cons first rest =>
      rw [verdict_and hd (List.cons_ne_nil _ _), verdict_and hd (List.cons_ne_nil _ _),
        map_verdict_eq (.cons first rest)]

private theorem exists_sat_of_pairs {children others : List Condition}
    (h : List.Forall₂
      (fun c d => Sat maxDepth context depth c → Sat maxDepth context depth d) children others)
    (hs : ∃ c ∈ children, Sat maxDepth context depth c) :
    ∃ d ∈ others, Sat maxDepth context depth d := by
  induction h with
  | nil => exact hs
  | cons first rest ih =>
    rw [List.exists_mem_cons_iff] at hs ⊢
    exact hs.imp first ih

private theorem forall_sat_of_pairs {children others : List Condition}
    (h : List.Forall₂
      (fun c d => Sat maxDepth context depth c → Sat maxDepth context depth d) children others)
    (hs : ∀ c ∈ children, Sat maxDepth context depth c) :
    ∀ d ∈ others, Sat maxDepth context depth d := by
  induction h with
  | nil => exact hs
  | cons first rest ih =>
    rw [List.forall_mem_cons] at hs ⊢
    exact hs.imp first ih

/-- A tree that is true stays true when true parts of it give way to true ones only. -/
theorem Replaced.sat
    (hr : ∀ depth c d, r depth c d → Sat maxDepth context depth c → Sat maxDepth context depth d)
    {c d : Condition} (h : Replaced r depth c d) :
    Sat maxDepth context depth c → Sat maxDepth context depth d := by
  refine h.pairs_induction ?kept ?here ?or ?and
  case kept =>
    intro depth c hs
    exact hs
  case here => exact hr
  case or =>
    intro depth children others ih hs
    have hd := hs.within
    rw [sat_or_iff hd] at hs ⊢
    exact exists_sat_of_pairs ih hs
  case and =>
    intro depth children others ih hs
    have hd := hs.within
    rw [sat_and_iff hd] at hs ⊢
    obtain ⟨some, hs⟩ := hs
    refine ⟨?_, forall_sat_of_pairs ih hs⟩
    rintro rfl
    exact some (List.forall₂_nil_right_iff.1 ih)

end TargetedConfig.Condition
