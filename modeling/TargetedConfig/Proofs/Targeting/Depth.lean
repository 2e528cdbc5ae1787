import TargetedConfig.Proofs.Targeting.Faults
import TargetedConfig.Proofs.Targeting.Meaning
import TargetedConfig.Proofs.Targeting.Reporting

/-!
# The greatest depth

`Condition.cut` takes out of a tree what lies below the greatest depth, and `verdict_cut` says that
no evaluation tells the tree from what is left of it. A tree without a node below the greatest depth
evaluates as with any greater one, and a tree that is true stays true when the greatest depth grows,
unless the evaluation then comes to a fault of a pattern.
-/

namespace TargetedConfig

theorem Comparison.Faulting.severe {signal : String} {fault : Pattern.Fault}
    {patterns : List String} (h : Faulting signal fault patterns) : fault ≠ .malformed := by
  induction h with
  | here _ severe => exact severe
  | later _ _ ih => exact ih

namespace Condition

open Audited

mutual

/-- A condition of which nothing is left below the greatest depth but the places where nodes
stood. -/
def cut (maxDepth depth : Int) (c : Condition) : Condition :=
  if maxDepth < depth then .never
  else
    match c with
    | .or children => .or (cutAll maxDepth (depth + 1) children)
    | .and children => .and (cutAll maxDepth (depth + 1) children)
    | c => c
termination_by structural c

def cutAll (maxDepth depth : Int) : List Condition → List Condition
  | [] => []
  | c :: rest => cut maxDepth depth c :: cutAll maxDepth depth rest

end

/-- The nodes of a tree with their depths, when the tree stands at a depth. -/
inductive Stands : Int → Condition → Int → Condition → Prop where
  | here {depth c} : Stands depth c depth c
  | or {depth children c below node} (child : c ∈ children)
      (stands : Stands (depth + 1) c below node) : Stands depth (.or children) below node
  | and {depth children c below node} (child : c ∈ children)
      (stands : Stands (depth + 1) c below node) : Stands depth (.and children) below node

variable {maxDepth limit depth : Int} {context : Option Context}

/-! ### What lies below -/

private theorem cutAll_eq_map (maxDepth depth : Int) (children : List Condition) :
    cutAll maxDepth depth children = children.map (cut maxDepth depth) := by
  induction children with
  | nil => rfl
  | cons c rest ih => rw [cutAll, ih, List.map_cons]

section

variable (h : depth ≤ maxDepth)
include h

theorem cut_or (children : List Condition) :
    (or children).cut maxDepth depth = .or (children.map (cut maxDepth (depth + 1))) := by
  rw [cut, if_neg (Int.not_lt.2 h), cutAll_eq_map]

theorem cut_and (children : List Condition) :
    (and children).cut maxDepth depth = .and (children.map (cut maxDepth (depth + 1))) := by
  rw [cut, if_neg (Int.not_lt.2 h), cutAll_eq_map]

end

private theorem map_verdict_cut {children : List Condition}
    (h : ∀ c ∈ children,
      verdict maxDepth context depth (c.cut maxDepth depth) = verdict maxDepth context depth c) :
    (children.map (cut maxDepth depth)).map (verdict maxDepth context depth) =
      children.map (verdict maxDepth context depth) := by
  rw [List.map_map]
  exact List.map_congr_left h

/-- Nothing below the greatest depth counts for an evaluation. -/
theorem verdict_cut (maxDepth : Int) (context : Option Context) (depth : Int) (c : Condition) :
    verdict maxDepth context depth (c.cut maxDepth depth) = verdict maxDepth context depth c := by
  induction c using tree_induction generalizing depth with
  | or children ih =>
    refine verdict_eq_of_within fun hd => ?_
    rw [cut_or hd, verdict_or hd, verdict_or hd, map_verdict_cut fun c hc => ih c hc (depth + 1)]
  | and children ih =>
    refine verdict_eq_of_within fun hd => ?_
    rw [cut_and hd]
    by_cases hc : children = []
    · rw [hc, List.map_nil]
    · rw [verdict_and hd hc, verdict_and hd (by simpa using hc),
        map_verdict_cut fun c hc => ih c hc (depth + 1)]
  | always | never | percent | signal | malformed | foreign =>
    refine verdict_eq_of_within fun hd => ?_
    rw [cut.eq_def, if_neg (Int.not_lt.2 hd)]

/-! ### Trees that fit -/

/-- A tree that stands within the greatest depth evaluates as with any greater one. -/
theorem verdict_of_stands {c : Condition} (h : ∀ below node, Stands depth c below node →
    below ≤ maxDepth) (hl : maxDepth ≤ limit) :
    verdict limit context depth c = verdict maxDepth context depth c := by
  have hd := h depth c .here
  have hd' := Int.le_trans hd hl
  induction c using tree_induction generalizing depth with
  | always => rw [verdict_always hd, verdict_always hd']
  | never => rw [verdict_never hd, verdict_never hd']
  | or children ih =>
    have hr : children.map (verdict limit context (depth + 1)) =
        children.map (verdict maxDepth context (depth + 1)) := by
      refine List.map_congr_left fun c hc => ?_
      have hs : ∀ below node, Stands (depth + 1) c below node → below ≤ maxDepth :=
        fun below node stands => h below node (.or hc stands)
      exact ih c hc hs (hs _ _ .here) (Int.le_trans (hs _ _ .here) hl)
    rw [verdict_or hd, verdict_or hd', hr]
  | and children ih =>
    by_cases hc : children = []
    · rw [hc, verdict_and_nil hd, verdict_and_nil hd']
    · have hr : children.map (verdict limit context (depth + 1)) =
          children.map (verdict maxDepth context (depth + 1)) := by
        refine List.map_congr_left fun c hc => ?_
        have hs : ∀ below node, Stands (depth + 1) c below node → below ≤ maxDepth :=
          fun below node stands => h below node (.and hc stands)
        exact ih c hc hs (hs _ _ .here) (Int.le_trans (hs _ _ .here) hl)
      rw [verdict_and hd hc, verdict_and hd' hc, hr]
  | percent slice => rw [verdict_percent hd, verdict_percent hd']
  | signal test => rw [verdict_signal hd, verdict_signal hd']
  | malformed reason => rw [verdict_malformed hd, verdict_malformed hd']
  | foreign name => rw [verdict_foreign hd, verdict_foreign hd']

private theorem code_evaluatePercent (slice : PercentSlice) :
    ∀ a ∈ (evaluatePercent context slice).verdict.anomalies, a.code ≠ .maxDepthExceeded := by
  intro a ha
  cases context with
  | none => cases ha
  | some c =>
    rw [verdict_evaluatePercent] at ha
    split at ha
    · cases List.mem_singleton.1 ha
      intro h
      cases h
    · split at ha
      · cases ha
      · cases List.mem_singleton.1 ha
        intro h
        cases h

private theorem code_evaluateSignal (test : SignalTest) :
    ∀ a ∈ (evaluateSignal context test).verdict.anomalies, a.code ≠ .maxDepthExceeded := by
  intro a ha
  by_cases ht : test.targets = []
  · rw [verdict_evaluateSignal_of_nil ht] at ha
    cases List.mem_singleton.1 ha
    intro h
    cases h
  · cases context with
    | none =>
      have he : ¬test.targets.isEmpty = true := by simpa using ht
      rw [evaluateSignal, if_neg he] at ha
      cases ha
    | some c =>
      rw [verdict_evaluateSignal c ht] at ha
      split at ha
      · cases ha
      · split at ha
        · cases ha
        · cases ha
        · rename_i refusal _
          cases List.mem_singleton.1 ha
          intro h
          cases refusal <;> cases h

/-- A tree that stands below the greatest depth has a node there. -/
private theorem exists_stands_of_within {c : Condition}
    (h : depth ≤ maxDepth → ∃ below node, Stands depth c below node ∧ maxDepth < below) :
    ∃ below node, Stands depth c below node ∧ maxDepth < below := by
  by_cases hd : depth ≤ maxDepth
  · exact h hd
  · exact ⟨depth, c, .here, Int.not_le.1 hd⟩

/-- Only nodes below the greatest depth are warned of as too deep. -/
theorem exists_stands_of_mem_anomalies {c : Condition} {a : Anomaly}
    (h : a ∈ (verdict maxDepth context depth c).anomalies) (ha : a.code = .maxDepthExceeded) :
    ∃ below node, Stands depth c below node ∧ maxDepth < below := by
  induction c using tree_induction generalizing depth with
  | always =>
    refine exists_stands_of_within fun hd => ?_
    rw [verdict_always hd] at h
    cases h
  | never =>
    refine exists_stands_of_within fun hd => ?_
    rw [verdict_never hd] at h
    cases h
  | or children ih =>
    refine exists_stands_of_within fun hd => ?_
    rw [verdict_or hd] at h
    obtain ⟨v, hv, hm⟩ := Verdict.mem_anomalies_readWhile h
    obtain ⟨c, hc, rfl⟩ := List.mem_map.1 hv
    obtain ⟨below, node, stands, hl⟩ := ih c hc hm
    exact ⟨below, node, .or hc stands, hl⟩
  | and children ih =>
    refine exists_stands_of_within fun hd => ?_
    by_cases hn : children = []
    · subst hn
      rw [verdict_and_nil hd] at h
      cases List.mem_singleton.1 h
      cases ha
    · rw [verdict_and hd hn] at h
      obtain ⟨v, hv, hm⟩ := Verdict.mem_anomalies_readWhile h
      obtain ⟨c, hc, rfl⟩ := List.mem_map.1 hv
      obtain ⟨below, node, stands, hl⟩ := ih c hc hm
      exact ⟨below, node, .and hc stands, hl⟩
  | percent slice =>
    refine exists_stands_of_within fun hd => ?_
    rw [verdict_percent hd] at h
    exact absurd ha (code_evaluatePercent slice a h)
  | signal test =>
    refine exists_stands_of_within fun hd => ?_
    rw [verdict_signal hd] at h
    exact absurd ha (code_evaluateSignal test a h)
  | malformed reason =>
    refine exists_stands_of_within fun hd => ?_
    rw [verdict_malformed hd] at h
    cases List.mem_singleton.1 h
    cases ha
  | foreign name =>
    refine exists_stands_of_within fun hd => ?_
    rw [verdict_foreign hd] at h
    cases List.mem_singleton.1 h
    cases ha

/-! ### Trees that are true -/

/-- What is true stays true when the greatest depth grows. -/
theorem Sat.mono {c : Condition} (h : Sat maxDepth context depth c) (hl : maxDepth ≤ limit) :
    Sat limit context depth c := by
  induction h with
  | always within => exact .always (Int.le_trans within hl)
  | or within child sat ih => exact .or (Int.le_trans within hl) child ih
  | and within some sat ih => exact .and (Int.le_trans within hl) some ih
  | percent within given contains => exact .percent (Int.le_trans within hl) given contains
  | signal within targets given holds =>
    exact .signal (Int.le_trans within hl) targets given holds

/-- A condition that is true is true with any greater depth, or comes to a fault of a pattern. -/
theorem answer_of_true {context : Context} {c : Condition}
    (h : (verdict maxDepth (some context) depth c).answer = .ok true) (hl : maxDepth ≤ limit) :
    (verdict limit (some context) depth c).answer = .ok true ∨
      ∃ fault, fault ≠ .malformed ∧
        (verdict limit (some context) depth c).answer = .error (.pattern fault) := by
  have hs := ((sat_iff_of_answer h).1 rfl).mono hl
  cases ha : (verdict limit (some context) depth c).answer with
  | ok answer => exact .inl (by rw [(sat_iff_of_answer ha).2 hs])
  | error f =>
    obtain ⟨fault, rfl, below, test, text, -, -, -, -, hf⟩ := (answer_eq_error_iff c f).1 ha
    exact .inr ⟨fault, hf.severe, rfl⟩

/-- The greatest depth is a sound cut. Trees of which the same is left above it run alike on every
ledger. A tree all of whose nodes stand within it runs alike with every greater depth, and nothing
is warned of as too deep. And a tree that is true stays true with every greater depth, unless the
evaluation then comes to a fault of a pattern. -/
theorem greatest_depth_cuts (maxDepth : Int) (context : Context) (depth : Int) (c : Condition) :
    (∀ d : Condition, c.cut maxDepth depth = d.cut maxDepth depth → ∀ l,
      (evaluate maxDepth (some context) depth c).runOn l =
        (evaluate maxDepth (some context) depth d).runOn l) ∧
    ((∀ below node, Stands depth c below node → below ≤ maxDepth) →
      ∃ answer warnings, (∀ a ∈ warnings, a.code ≠ .maxDepthExceeded) ∧
        ∀ limit, maxDepth ≤ limit → ∀ l,
          (evaluate limit (some context) depth c).runOn l = (answer, warn l warnings)) ∧
    ∀ limit l k, maxDepth ≤ limit →
      ((evaluate maxDepth (some context) depth c).runOn l).1 = .ok true →
        ((evaluate limit (some context) depth c).runOn k).1 = .ok true ∨
          ∃ fault, fault ≠ .malformed ∧
            ((evaluate limit (some context) depth c).runOn k).1 = .error (.pattern fault) := by
  refine ⟨?_, ?_, ?_⟩
  · intro d h l
    have hv : verdict maxDepth (some context) depth c =
        verdict maxDepth (some context) depth d := by
      rw [← verdict_cut, h, verdict_cut]
    rw [runOn_evaluate, runOn_evaluate, hv]
  · intro h
    refine ⟨(verdict maxDepth (some context) depth c).answer,
      (verdict maxDepth (some context) depth c).anomalies, ?_, ?_⟩
    · intro a ha hc
      obtain ⟨below, node, stands, hl⟩ := exists_stands_of_mem_anomalies ha hc
      exact Int.not_lt.2 (h below node stands) hl
    · intro limit hl l
      rw [runOn_evaluate, verdict_of_stands h hl]
  · intro limit l k hl h
    rw [runOn_evaluate] at h
    rw [runOn_evaluate]
    exact answer_of_true h hl

/-- A disjunction that is true whatever is made of the pattern two conditions below it. -/
def sunken : Condition :=
  .or [.and [.or [.signal ⟨"k", .string .matchesPattern, ["a{4294967295}"]⟩]], .always]

/-- The same disjunction with another node in its depths. -/
def refilled : Condition := .or [.and [.malformed "several"], .always]

theorem le_two_of_stands_refilled {below : Int} {node : Condition}
    (h : Stands 0 refilled below node) : below ≤ 2 := by
  cases h with
  | here => decide
  | or child stands =>
    rcases List.mem_pair.1 child with rfl | rfl
    · cases stands with
      | here => decide
      | and child stands =>
        cases List.mem_singleton.1 child
        cases stands
        decide
    · cases stands
      decide

theorem greatest_depth_cuts_sunken :
    let context : Context := ⟨.ofList [("k", "a")]⟩
    (∀ l, (evaluate 1 (some context) 0 sunken).runOn l =
      (evaluate 1 (some context) 0 refilled).runOn l) ∧
    (∃ answer warnings, (∀ a ∈ warnings, a.code ≠ .maxDepthExceeded) ∧
      ∀ limit, 2 ≤ limit → ∀ l,
        (evaluate limit (some context) 0 refilled).runOn l = (answer, warn l warnings)) ∧
    (((evaluate 3 (some context) 0 sunken).runOn {}).1 = .ok true ∨
      ∃ fault, fault ≠ .malformed ∧
        ((evaluate 3 (some context) 0 sunken).runOn {}).1 = .error (.pattern fault)) := by
  intro context
  refine ⟨(greatest_depth_cuts 1 context 0 sunken).1 refilled rfl, ?_, ?_⟩
  · exact (greatest_depth_cuts 2 context 0 refilled).2.1 fun _ _ => le_two_of_stands_refilled
  · exact (greatest_depth_cuts 1 context 0 sunken).2.2 3 {} {} (by decide) rfl

end Condition

end TargetedConfig
