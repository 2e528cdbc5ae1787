import TargetedConfig.Proofs.Targeting.Evaluation

/-!
# What condition trees mean

`Condition.Sat` says when a condition is true at a depth, without an order in which children are
looked at. Evaluation looks at children in order and stops early, but whenever it answers, it answers
by this meaning. Trees that differ in the order and the repetition of children mean the same.
-/

namespace TargetedConfig

/-- A bucket lies in a slice. Without a range both bounds are zero, and without an operator no
bucket lies in it. -/
def PercentSlice.Contains (slice : PercentSlice) (bucket : Int) : Prop :=
  match slice.operator with
  | .lessOrEqual => bucket ≤ slice.bound
  | .greaterThan => slice.bound < bucket
  | .between => slice.range.elim 0 (·.lower) < bucket ∧ bucket ≤ slice.range.elim 0 (·.upper)
  | .unspecified => False

theorem PercentSlice.contains_iff (slice : PercentSlice) (bucket : Int) :
    slice.Contains bucket ↔ slice.holds? bucket = some true := by
  obtain ⟨operator, seed, bound, range⟩ := slice
  cases operator <;> cases range <;> simp [Contains, holds?]

namespace Verdict

/-- An answer read from verdicts is `go` when all of them say so, and otherwise that of one of
them. -/
theorem answer_readWhile {go answer : Bool} {vs : List (Verdict Bool)}
    (h : (readWhile go vs).answer = .ok answer) :
    (answer = go ∧ ∀ v ∈ vs, v.answer = .ok go) ∨
      (answer ≠ go ∧ ∃ v ∈ vs, v.answer = .ok answer) := by
  induction vs with
  | nil =>
    cases h
    exact .inl ⟨rfl, by simp⟩
  | cons v rest ih =>
    obtain ⟨told, warned⟩ := v
    cases told with
    | error f => cases h
    | ok first =>
      rw [readWhile, andThen_ok] at h
      by_cases hf : first = go
      · subst hf
        rw [if_pos rfl] at h
        rcases ih h with ⟨ha, hr⟩ | ⟨ha, v, hv, hr⟩
        · exact .inl ⟨ha, List.forall_mem_cons.2 ⟨rfl, hr⟩⟩
        · exact .inr ⟨ha, v, List.mem_cons_of_mem _ hv, hr⟩
      · rw [if_neg hf] at h
        cases h
        exact .inr ⟨hf, _, List.mem_cons_self, rfl⟩

end Verdict

namespace Condition

/-- A condition is true at a depth. No condition below the greatest depth is. -/
inductive Sat (maxDepth : Int) (context : Option Context) : Int → Condition → Prop where
  | always {depth} (within : depth ≤ maxDepth) : Sat maxDepth context depth .always
  | or {depth children c} (within : depth ≤ maxDepth) (child : c ∈ children)
      (sat : Sat maxDepth context (depth + 1) c) : Sat maxDepth context depth (.or children)
  | and {depth children} (within : depth ≤ maxDepth) (some : children ≠ [])
      (sat : ∀ c ∈ children, Sat maxDepth context (depth + 1) c) :
      Sat maxDepth context depth (.and children)
  | percent {depth slice id} (within : depth ≤ maxDepth)
      (given : context.bind (·.randomizationId?) = some id)
      (contains : slice.Contains (Bucket.ofId slice.seed id)) :
      Sat maxDepth context depth (.percent slice)
  | signal {depth test text} (within : depth ≤ maxDepth) (targets : test.targets ≠ [])
      (given : context.bind (·.get? test.key) = some text)
      (holds : Comparison.compare test.operator text test.targets = .ok (.ok true)) :
      Sat maxDepth context depth (.signal test)

variable {maxDepth depth : Int} {context : Option Context}

theorem Sat.within {c : Condition} (h : Sat maxDepth context depth c) : depth ≤ maxDepth := by
  cases h <;> assumption

theorem sat_or_iff {children : List Condition} (h : depth ≤ maxDepth) :
    Sat maxDepth context depth (.or children) ↔
      ∃ c ∈ children, Sat maxDepth context (depth + 1) c := by
  constructor
  · rintro (_ | ⟨-, child, sat⟩)
    exact ⟨_, child, sat⟩
  · rintro ⟨c, child, sat⟩
    exact .or h child sat

theorem sat_and_iff {children : List Condition} (h : depth ≤ maxDepth) :
    Sat maxDepth context depth (.and children) ↔
      children ≠ [] ∧ ∀ c ∈ children, Sat maxDepth context (depth + 1) c := by
  constructor
  · rintro (_ | _ | ⟨-, some, sat⟩)
    exact ⟨some, sat⟩
  · rintro ⟨some, sat⟩
    exact .and h some sat

private theorem sat_percent_iff_of_answer (h : depth ≤ maxDepth) {slice : PercentSlice}
    {answer : Bool} (ha : (evaluatePercent context slice).verdict.answer = .ok answer) :
    answer = true ↔ Sat maxDepth context depth (.percent slice) := by
  have hs : Sat maxDepth context depth (.percent slice) ↔
      ∃ id, context.bind (·.randomizationId?) = some id ∧
        slice.holds? (Bucket.ofId slice.seed id) = some true := by
    constructor
    · rintro (_ | _ | _ | ⟨-, given, contains⟩)
      exact ⟨_, given, (slice.contains_iff _).1 contains⟩
    · rintro ⟨id, given, contains⟩
      exact .percent h given ((slice.contains_iff _).2 contains)
  rw [hs]
  cases context with
  | none => cases ha
  | some c =>
    rw [verdict_evaluatePercent] at ha
    rw [Option.bind_some]
    cases hc : c.randomizationId? with
    | none =>
      rw [hc] at ha
      cases ha
      simp
    | some id =>
      rw [hc] at ha
      dsimp only at ha
      cases hi : slice.holds? (Bucket.ofId slice.seed id) with
      | none =>
        rw [hi] at ha
        cases ha
        simp [hi]
      | some told =>
        rw [hi] at ha
        cases ha
        simp [hi]

private theorem sat_signal_iff_of_answer (h : depth ≤ maxDepth) {test : SignalTest}
    {answer : Bool} (ha : (evaluateSignal context test).verdict.answer = .ok answer) :
    answer = true ↔ Sat maxDepth context depth (.signal test) := by
  have hs : Sat maxDepth context depth (.signal test) ↔ test.targets ≠ [] ∧
      ∃ text, context.bind (·.get? test.key) = some text ∧
        Comparison.compare test.operator text test.targets = .ok (.ok true) := by
    constructor
    · rintro (_ | _ | _ | _ | ⟨-, targets, given, holds⟩)
      exact ⟨targets, _, given, holds⟩
    · rintro ⟨targets, text, given, holds⟩
      exact .signal h targets given holds
  rw [hs]
  by_cases ht : test.targets = []
  · rw [verdict_evaluateSignal_of_nil ht] at ha
    cases ha
    simp [ht]
  · cases context with
    | none =>
      have he : ¬test.targets.isEmpty = true := by simpa using ht
      rw [evaluateSignal, if_neg he] at ha
      cases ha
    | some c =>
      rw [verdict_evaluateSignal c ht] at ha
      rw [Option.bind_some]
      cases hc : c.get? test.key with
      | none =>
        rw [hc] at ha
        cases ha
        simp
      | some text =>
        rw [hc] at ha
        dsimp only at ha
        rcases hk : Comparison.compare test.operator text test.targets with
          fault | refusal | told
        · rw [hk] at ha
          cases ha
        · rw [hk] at ha
          cases ha
          simp [hk]
        · rw [hk] at ha
          cases ha
          simp [hk, ht]

/-- Below the greatest depth the answer is no and no condition is true. -/
private theorem sat_iff_of_within {c : Condition} {answer : Bool}
    (ha : (verdict maxDepth context depth c).answer = .ok answer)
    (h : depth ≤ maxDepth → (answer = true ↔ Sat maxDepth context depth c)) :
    answer = true ↔ Sat maxDepth context depth c := by
  by_cases hd : depth ≤ maxDepth
  · exact h hd
  · rw [verdict_of_lt (Int.not_le.1 hd)] at ha
    cases ha
    simpa using fun hs : Sat maxDepth context depth c => hd hs.within

/-- An answer of an evaluation is the meaning of the condition. -/
theorem sat_iff_of_answer {c : Condition} {answer : Bool}
    (ha : (verdict maxDepth context depth c).answer = .ok answer) :
    answer = true ↔ Sat maxDepth context depth c := by
  induction c using tree_induction generalizing depth answer with
  | always =>
    refine sat_iff_of_within ha fun hd => ?_
    rw [verdict_always hd] at ha
    cases ha
    simpa using Sat.always hd
  | never =>
    refine sat_iff_of_within ha fun hd => ?_
    rw [verdict_never hd] at ha
    cases ha
    simpa using nofun
  | or children ih =>
    refine sat_iff_of_within ha fun hd => ?_
    rw [verdict_or hd] at ha
    rw [sat_or_iff hd]
    rcases Verdict.answer_readWhile ha with ⟨rfl, hr⟩ | ⟨hn, v, hv, hr⟩
    · -- every child was asked, and each of them is false
      rw [List.forall_mem_map] at hr
      simpa using fun c hc hs => Bool.false_ne_true ((ih c hc (hr c hc)).2 hs)
    · obtain ⟨c, hc, rfl⟩ := List.mem_map.1 hv
      rw [eq_true_of_ne_false hn] at hr ⊢
      simpa using ⟨c, hc, (ih c hc hr).1 rfl⟩
  | and children ih =>
    refine sat_iff_of_within ha fun hd => ?_
    rw [sat_and_iff hd]
    by_cases hc : children = []
    · subst hc
      rw [verdict_and_nil hd] at ha
      cases ha
      simp
    · rw [verdict_and hd hc] at ha
      rcases Verdict.answer_readWhile ha with ⟨rfl, hr⟩ | ⟨hn, v, hv, hr⟩
      · rw [List.forall_mem_map] at hr
        simpa using ⟨hc, fun c hm => (ih c hm (hr c hm)).1 rfl⟩
      · -- the child that decided is false
        obtain ⟨c, hm, rfl⟩ := List.mem_map.1 hv
        rw [eq_false_of_ne_true hn] at hr ⊢
        simpa using fun _ => ⟨c, hm, fun hs => Bool.false_ne_true ((ih c hm hr).2 hs)⟩
  | percent slice =>
    refine sat_iff_of_within ha fun hd => ?_
    rw [verdict_percent hd] at ha
    exact sat_percent_iff_of_answer hd ha
  | signal test =>
    refine sat_iff_of_within ha fun hd => ?_
    rw [verdict_signal hd] at ha
    exact sat_signal_iff_of_answer hd ha
  | malformed reason =>
    refine sat_iff_of_within ha fun hd => ?_
    rw [verdict_malformed hd] at ha
    cases ha
    simpa using nofun
  | foreign name =>
    refine sat_iff_of_within ha fun hd => ?_
    rw [verdict_foreign hd] at ha
    cases ha
    simpa using nofun

/-- The two ways to join children. -/
inductive Junction where
  | any
  | all

def Junction.over : Junction → List Condition → Condition
  | .any, children => .or children
  | .all, children => .and children

/-- Trees that can be made from each other by permuting and duplicating children, and by taking
duplicates away again, at all levels. -/
inductive Rearranged : Condition → Condition → Prop where
  | refl (c) : Rearranged c c
  | symm {c d} (h : Rearranged c d) : Rearranged d c
  | trans {c d e} (h : Rearranged c d) (k : Rearranged d e) : Rearranged c e
  | permute (j : Junction) {children others} (h : children.Perm others) :
      Rearranged (j.over children) (j.over others)
  | duplicate (j : Junction) {c children} (h : c ∈ children) :
      Rearranged (j.over children) (j.over (c :: children))
  | inside (j : Junction) {before c d after} (h : Rearranged c d) :
      Rearranged (j.over (before ++ c :: after)) (j.over (before ++ d :: after))

/-- A junction means the same over lists that have the same meanings in them. -/
private theorem sat_over_of_sat (j : Junction) {children others : List Condition}
    (h : ∀ c ∈ children, ∃ d ∈ others,
      Sat maxDepth context (depth + 1) c ↔ Sat maxDepth context (depth + 1) d)
    (k : ∀ d ∈ others, ∃ c ∈ children,
      Sat maxDepth context (depth + 1) c ↔ Sat maxDepth context (depth + 1) d)
    (hs : Sat maxDepth context depth (j.over children)) :
    Sat maxDepth context depth (j.over others) := by
  have hd := hs.within
  cases j with
  | any =>
    obtain ⟨c, hc, hs⟩ := (sat_or_iff hd).1 hs
    obtain ⟨d, hm, hi⟩ := h c hc
    exact (sat_or_iff hd).2 ⟨d, hm, hi.1 hs⟩
  | all =>
    obtain ⟨hn, hs⟩ := (sat_and_iff hd).1 hs
    refine (sat_and_iff hd).2 ⟨?_, ?_⟩
    · obtain ⟨c, hc⟩ := List.exists_mem_of_ne_nil children hn
      obtain ⟨d, hm, -⟩ := h c hc
      exact List.ne_nil_of_mem hm
    · intro d hm
      obtain ⟨c, hc, hi⟩ := k d hm
      exact hi.1 (hs c hc)

private theorem sat_over_iff (j : Junction) {children others : List Condition}
    (h : ∀ c ∈ children, ∃ d ∈ others,
      Sat maxDepth context (depth + 1) c ↔ Sat maxDepth context (depth + 1) d)
    (k : ∀ d ∈ others, ∃ c ∈ children,
      Sat maxDepth context (depth + 1) c ↔ Sat maxDepth context (depth + 1) d) :
    Sat maxDepth context depth (j.over children) ↔ Sat maxDepth context depth (j.over others) := by
  refine ⟨sat_over_of_sat j h k, sat_over_of_sat j ?_ ?_⟩
  · simpa only [Iff.comm] using k
  · simpa only [Iff.comm] using h

private theorem exists_sat_iff_of_replaced {before after : List Condition} {c d : Condition}
    (h : Sat maxDepth context depth c ↔ Sat maxDepth context depth d) :
    ∀ e ∈ before ++ c :: after, ∃ f ∈ before ++ d :: after,
      Sat maxDepth context depth e ↔ Sat maxDepth context depth f := by
  intro e he
  rcases List.mem_append.1 he with hb | hr
  · exact ⟨e, by simp [hb], Iff.rfl⟩
  · rcases List.mem_cons.1 hr with rfl | ha
    · exact ⟨d, by simp, h⟩
    · exact ⟨e, by simp [ha], Iff.rfl⟩

/-- Rearranged trees mean the same at every depth. -/
theorem Rearranged.sat_iff {c d : Condition} (h : Rearranged c d) (depth : Int) :
    Sat maxDepth context depth c ↔ Sat maxDepth context depth d := by
  induction h generalizing depth with
  | refl => exact Iff.rfl
  | symm _ ih => exact (ih depth).symm
  | trans _ _ ih ih' => exact (ih depth).trans (ih' depth)
  | permute j h =>
    exact sat_over_iff j (fun c hc => ⟨c, h.mem_iff.1 hc, Iff.rfl⟩)
      fun d hd => ⟨d, h.mem_iff.2 hd, Iff.rfl⟩
  | duplicate j h =>
    refine sat_over_iff j (fun c hc => ⟨c, List.mem_cons_of_mem _ hc, Iff.rfl⟩) ?_
    intro d hd
    rcases List.mem_cons.1 hd with rfl | hd
    · exact ⟨d, h, Iff.rfl⟩
    · exact ⟨d, hd, Iff.rfl⟩
  | inside j h ih =>
    refine sat_over_iff j (exists_sat_iff_of_replaced (ih _)) ?_
    simpa only [Iff.comm] using exists_sat_iff_of_replaced (ih _).symm

/-- Whenever an evaluation answers, it answers by the meaning of the condition, so that no
rearrangement of the tree changes the answer, as long as both evaluations give one. -/
theorem evaluate_iff_sat (maxDepth : Int) (context : Option Context) (depth : Int)
    (c : Condition) :
    (∀ l answer, ((evaluate maxDepth context depth c).runOn l).1 = .ok answer →
      (answer = true ↔ Sat maxDepth context depth c)) ∧
    ∀ d, Rearranged c d → ∀ l k answer other,
      ((evaluate maxDepth context depth c).runOn l).1 = .ok answer →
      ((evaluate maxDepth context depth d).runOn k).1 = .ok other → answer = other := by
  constructor
  · intro l answer h
    rw [runOn_evaluate] at h
    exact sat_iff_of_answer h
  · intro d hr l k answer other h h'
    rw [runOn_evaluate] at h h'
    rw [Bool.eq_iff_iff, sat_iff_of_answer h, sat_iff_of_answer h']
    exact hr.sat_iff depth

/-- A node that is none, before a conjunction that holds of the signal `k`. -/
def listed : Condition :=
  .or [.malformed "several", .and [.always, .signal ⟨"k", .string .exactlyMatches, ["v"]⟩]]

/-- The same with both lists turned round and the conjunction repeated. -/
def relisted : Condition :=
  .or [.and [.signal ⟨"k", .string .exactlyMatches, ["v"]⟩, .always],
    .and [.signal ⟨"k", .string .exactlyMatches, ["v"]⟩, .always], .malformed "several"]

theorem rearranged_listed : Rearranged listed relisted :=
  .trans (@Rearranged.inside .any [.malformed "several"] _ _ [] (.permute .all (.swap _ _ [])))
    (.trans (.permute .any (.swap _ _ [])) (.duplicate .any List.mem_cons_self))

def valued : Option Context := some ⟨.ofList [("k", "v")]⟩

theorem evaluate_iff_sat_listed :
    Sat 2 valued 0 listed ∧
      ∃ answer other, ((evaluate 2 valued 0 listed).runOn {}).1 = .ok answer ∧
        ((evaluate 2 valued 0 relisted).runOn {}).1 = .ok other ∧ answer = other := by
  have h : ((evaluate 2 valued 0 listed).runOn {}).1 = .ok true := rfl
  have k : ((evaluate 2 valued 0 relisted).runOn {}).1 = .ok true := rfl
  obtain ⟨means, agrees⟩ := evaluate_iff_sat 2 valued 0 listed
  exact ⟨(means {} true h).1 rfl, true, true, h, k,
    agrees relisted rearranged_listed {} {} true true h k⟩

end Condition

end TargetedConfig
