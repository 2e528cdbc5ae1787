import TargetedConfig.Proofs.Targeting.Replacement

/-!
# Slices of the buckets

Bounds cut the buckets of a seed into slices: `PercentSlice.slices` lists them, and every bucket
lies in exactly one. In a condition tree a slice between two bounds may be written as a conjunction
of two slices with one bound each, and slices that grow make no tree false for anyone for whom it
was true.
-/

namespace TargetedConfig

namespace PercentSlice

def upTo (seed : String) (bound : Int) : PercentSlice := { operator := .lessOrEqual, seed, bound }

def beyond (seed : String) (bound : Int) : PercentSlice := { operator := .greaterThan, seed, bound }

/-- The buckets beyond one bound and up to another one. -/
def between (seed : String) (lower upper : Int) : PercentSlice :=
  { operator := .between, seed, range := some ⟨lower, upper⟩ }

/-- The lower bound of the range; zero without a range. -/
def lower (slice : PercentSlice) : Int := slice.range.elim 0 (·.lower)

/-- The upper bound of the range; zero without a range. -/
def upper (slice : PercentSlice) : Int := slice.range.elim 0 (·.upper)

@[simp] theorem seed_between (seed : String) (lower upper : Int) :
    (between seed lower upper).seed = seed := rfl

@[simp] theorem seed_upTo (seed : String) (bound : Int) : (upTo seed bound).seed = seed := rfl

@[simp] theorem seed_beyond (seed : String) (bound : Int) : (beyond seed bound).seed = seed := rfl

@[simp] theorem contains_upTo {seed : String} {bound bucket : Int} :
    (upTo seed bound).Contains bucket ↔ bucket ≤ bound := Iff.rfl

@[simp] theorem contains_beyond {seed : String} {bound bucket : Int} :
    (beyond seed bound).Contains bucket ↔ bound < bucket := Iff.rfl

@[simp] theorem contains_between {seed : String} {lower upper bucket : Int} :
    (between seed lower upper).Contains bucket ↔ lower < bucket ∧ bucket ≤ upper := Iff.rfl

theorem contains_of_lessOrEqual {slice : PercentSlice} (h : slice.operator = .lessOrEqual)
    {bucket : Int} : slice.Contains bucket ↔ bucket ≤ slice.bound := by
  rw [Contains, h]

theorem contains_of_greaterThan {slice : PercentSlice} (h : slice.operator = .greaterThan)
    {bucket : Int} : slice.Contains bucket ↔ slice.bound < bucket := by
  rw [Contains, h]

theorem contains_of_between {slice : PercentSlice} (h : slice.operator = .between) {bucket : Int} :
    slice.Contains bucket ↔ slice.lower < bucket ∧ bucket ≤ slice.upper := by
  rw [Contains, h]
  exact Iff.rfl

instance (slice : PercentSlice) (bucket : Int) : Decidable (slice.Contains bucket) :=
  decidable_of_iff' _ (slice.contains_iff bucket)

theorem holds?_eq {slice : PercentSlice} (h : slice.operator ≠ .unspecified) (bucket : Int) :
    slice.holds? bucket = some (decide (slice.Contains bucket)) := by
  cases hc : slice.holds? bucket with
  | none =>
    obtain ⟨operator, seed, bound, range⟩ := slice
    cases operator with
    | unspecified => exact absurd rfl h
    | lessOrEqual | greaterThan | between => cases hc
  | some answer => cases answer <;> simp [contains_iff, hc]

/-! ### Cutting at bounds -/

/-- The slices above a bound: up to the next bound and so on, and beyond the last one. -/
def slicesAbove (seed : String) (lower : Int) : List Int → List PercentSlice
  | [] => [beyond seed lower]
  | upper :: rest => between seed lower upper :: slicesAbove seed upper rest

/-- The slices that bounds cut: up to the first bound, between each bound and the next, and beyond
the last one. -/
def slices (seed : String) (first : Int) (rest : List Int) : List PercentSlice :=
  upTo seed first :: slicesAbove seed first rest

@[simp] theorem length_slicesAbove (seed : String) (lower : Int) (rest : List Int) :
    (slicesAbove seed lower rest).length = rest.length + 1 := by
  induction rest generalizing lower with
  | nil => rfl
  | cons upper rest ih => rw [slicesAbove, List.length_cons, ih, List.length_cons]

@[simp] theorem length_slices (seed : String) (first : Int) (rest : List Int) :
    (slices seed first rest).length = rest.length + 2 := by
  rw [slices, List.length_cons, length_slicesAbove]

private theorem of_mem_slicesAbove {seed : String} {lower : Int} {rest : List Int}
    {slice : PercentSlice} (h : slice ∈ slicesAbove seed lower rest) :
    slice.seed = seed ∧ slice.operator ≠ .unspecified := by
  induction rest generalizing lower with
  | nil =>
    rw [List.mem_singleton.1 h]
    exact ⟨rfl, nofun⟩
  | cons upper rest ih =>
    rcases List.mem_cons.1 h with rfl | h
    · exact ⟨rfl, nofun⟩
    · exact ih h

theorem of_mem_slices {seed : String} {first : Int} {rest : List Int} {slice : PercentSlice}
    (h : slice ∈ slices seed first rest) : slice.seed = seed ∧ slice.operator ≠ .unspecified := by
  rcases List.mem_cons.1 h with rfl | h
  · exact ⟨rfl, nofun⟩
  · exact of_mem_slicesAbove h

/-- When the least bound does not lie below a bucket, no bound does. -/
private theorem countP_lt_eq_ite {first : Int} {rest : List Int}
    (sorted : (first :: rest).Pairwise (· ≤ ·)) (bucket : Int) :
    (first :: rest).countP (· < bucket) =
      if first < bucket then rest.countP (· < bucket) + 1 else 0 := by
  split
  · next h => simp [h]
  · next h =>
    rw [List.countP_eq_zero, List.forall_mem_cons]
    refine ⟨by simpa using h, fun bound hb => ?_⟩
    have hl := List.rel_of_pairwise_cons sorted hb
    simpa using Int.le_trans (Int.not_lt.1 h) hl

/-- Counting the bounds below a bucket finds its slice. -/
private theorem contains_slicesAbove_iff {seed : String} {lower : Int} {rest : List Int}
    (sorted : (lower :: rest).Pairwise (· ≤ ·)) (bucket : Int) {j : Nat}
    (h : j < (slicesAbove seed lower rest).length) :
    (slicesAbove seed lower rest)[j].Contains bucket ↔
      lower < bucket ∧ j = rest.countP (· < bucket) := by
  induction rest generalizing lower j with
  | nil =>
    have hj : j = 0 := by simpa using h
    subst hj
    simp [slicesAbove]
  | cons upper rest ih =>
    -- The first slice is met when no bound lies below the bucket; in the others the first one does.
    have hl : lower ≤ upper := List.rel_of_pairwise_cons sorted List.mem_cons_self
    have hs := List.Pairwise.of_cons sorted
    rw [countP_lt_eq_ite hs]
    cases j with
    | zero =>
      simp only [slicesAbove, List.getElem_cons_zero, contains_between]
      split <;> omega
    | succ j =>
      have hj : j < (slicesAbove seed upper rest).length := by
        simpa [slicesAbove] using h
      simp only [slicesAbove, List.getElem_cons_succ, ih hs hj]
      split <;> omega

/-- A bucket lies in the slice whose place is the number of bounds below it, and in no other. -/
theorem contains_slices_iff {seed : String} {first : Int} {rest : List Int}
    (sorted : (first :: rest).Pairwise (· ≤ ·)) (bucket : Int) {j : Nat}
    (h : j < (slices seed first rest).length) :
    (slices seed first rest)[j].Contains bucket ↔
      j = (first :: rest).countP (· < bucket) := by
  rw [countP_lt_eq_ite sorted]
  cases j with
  | zero =>
    simp only [slices, List.getElem_cons_zero, contains_upTo]
    split <;> omega
  | succ j =>
    have hj : j < (slicesAbove seed first rest).length := by
      simpa [slices] using h
    simp only [slices, List.getElem_cons_succ, contains_slicesAbove_iff sorted bucket hj]
    split <;> omega

/-! ### Growing -/

/-- A slice grows into one with the same operator and seed, with no bucket less. Slices without an
operator contain nothing, and may become anything. -/
def Grows (slice other : PercentSlice) : Prop :=
  match slice.operator with
  | .lessOrEqual =>
    other.operator = .lessOrEqual ∧ other.seed = slice.seed ∧ slice.bound ≤ other.bound
  | .greaterThan =>
    other.operator = .greaterThan ∧ other.seed = slice.seed ∧ other.bound ≤ slice.bound
  | .between =>
    other.operator = .between ∧ other.seed = slice.seed ∧
      other.lower ≤ slice.lower ∧ slice.upper ≤ other.upper
  | .unspecified => True

theorem Grows.contains {slice other : PercentSlice} (h : slice.Grows other) {bucket : Int}
    (hc : slice.Contains bucket) : other.seed = slice.seed ∧ other.Contains bucket := by
  rw [Grows] at h
  split at h
  · next operator =>
    obtain ⟨operator', seed, bound⟩ := h
    rw [contains_of_lessOrEqual operator] at hc
    rw [contains_of_lessOrEqual operator']
    exact ⟨seed, Int.le_trans hc bound⟩
  · next operator =>
    obtain ⟨operator', seed, bound⟩ := h
    rw [contains_of_greaterThan operator] at hc
    rw [contains_of_greaterThan operator']
    exact ⟨seed, Int.lt_of_le_of_lt bound hc⟩
  · next operator =>
    obtain ⟨operator', seed, lower, upper⟩ := h
    rw [contains_of_between operator] at hc
    rw [contains_of_between operator']
    exact ⟨seed, Int.lt_of_le_of_lt lower hc.1, Int.le_trans hc.2 upper⟩
  · next operator =>
    rw [Contains, operator] at hc
    exact hc.elim

end PercentSlice

/-- Two answers without warnings are read as their conjunction. -/
theorem Verdict.readWhile_pair (p q : Bool) :
    readWhile true [⟨.ok p, []⟩, ⟨.ok q, []⟩] = ⟨.ok (p && q), []⟩ := by
  cases p <;> cases q <;> rfl

namespace Condition

open Audited PercentSlice

variable {maxDepth depth : Int} {context : Option Context}

/-- A percent condition with an operator asks for the randomization id, and then for its bucket. -/
theorem verdict_percent_of_operator (h : depth ≤ maxDepth) (c : Context) {slice : PercentSlice}
    (ho : slice.operator ≠ .unspecified) :
    verdict maxDepth (some c) depth (.percent slice) =
      match c.randomizationId? with
      | none => ⟨.ok false, [noRandomizationId]⟩
      | some id => ⟨.ok (decide (slice.Contains (Bucket.ofId slice.seed id))), []⟩ := by
  rw [verdict_percent h, verdict_evaluatePercent]
  cases c.randomizationId? with
  | none => rfl
  | some id => simp only [holds?_eq ho]

/-- The slices that non-decreasing bounds cut are a partition of the users: exactly one of them is
true for a randomization id, and nothing is warned of. Without a randomization id all are false, and
each of them warns of that once. -/
theorem slices_partition (seed : String) {first : Int} {rest : List Int}
    (sorted : (first :: rest).Pairwise (· ≤ ·)) (within : depth ≤ maxDepth) (context : Context) :
    (slices seed first rest).length = rest.length + 2 ∧
    (∀ id, context.randomizationId? = some id →
      ∃ i < (slices seed first rest).length,
        ∀ j (h : j < (slices seed first rest).length) l,
          (evaluate maxDepth (some context) depth (.percent (slices seed first rest)[j])).runOn l =
            (.ok (decide (j = i)), l)) ∧
    (context.randomizationId? = none →
      ∀ slice ∈ slices seed first rest, ∀ l,
        (evaluate maxDepth (some context) depth (.percent slice)).runOn l =
          (.ok false, warn l [noRandomizationId])) := by
  refine ⟨length_slices seed first rest, ?_, ?_⟩
  · intro id given
    let bucket : Int := Bucket.ofId seed id
    have hi : (first :: rest).countP (· < bucket) < (slices seed first rest).length := by
      rw [length_slices]
      exact Nat.lt_succ_of_le List.countP_le_length
    refine ⟨_, hi, fun j h l => ?_⟩
    obtain ⟨hs, ho⟩ := of_mem_slices (List.getElem_mem h)
    rw [runOn_evaluate, verdict_percent_of_operator within context ho]
    simp only [given, hs, contains_slices_iff sorted, warn_nil, bucket]
  · intro absent slice h l
    rw [runOn_evaluate, verdict_percent_of_operator within context (of_mem_slices h).2]
    simp only [absent]

/-- Bounds of which one stands twice, one below all buckets and one above them. -/
theorem slices_partition_user :
    let user : Context := ⟨.ofList [("randomizationId", "user-1")]⟩
    let nobody : Context := ⟨.ofList []⟩
    let cut := slices "summer" (-5) [20000000, 20000000, 200000000]
    ([-5, 20000000, 20000000, 200000000] : List Int).Pairwise (· ≤ ·) ∧
    (∃ i < cut.length, ∀ j (h : j < cut.length) l,
      (evaluate 10 (some user) 0 (.percent cut[j])).runOn l = (.ok (decide (j = i)), l)) ∧
    ∀ l, (evaluate 10 (some nobody) 0 (.percent (upTo "summer" (-5)))).runOn l =
      (.ok false, warn l [noRandomizationId]) := by
  intro user nobody cut
  have sorted : ([-5, 20000000, 20000000, 200000000] : List Int).Pairwise (· ≤ ·) := by decide
  obtain ⟨-, given, -⟩ := slices_partition "summer" sorted (show (0 : Int) ≤ 10 by decide) user
  obtain ⟨-, -, absent⟩ := slices_partition "summer" sorted (show (0 : Int) ≤ 10 by decide) nobody
  exact ⟨sorted, given "user-1" rfl, absent rfl (upTo "summer" (-5)) List.mem_cons_self⟩

/-! ### Growing and splitting in a tree -/

/-- A percent condition whose slice has grown, at any depth. -/
inductive Growth : Int → Condition → Condition → Prop where
  | percent {depth slice other} (grows : slice.Grows other) :
      Growth depth (.percent slice) (.percent other)

theorem Growth.sat {c d : Condition} (h : Growth depth c d)
    (hs : Sat maxDepth context depth c) : Sat maxDepth context depth d := by
  cases h with
  | percent grows =>
    cases hs with
    | percent within given contains =>
      obtain ⟨seed, contains⟩ := grows.contains contains
      rw [← seed] at contains
      exact .percent within given contains

/-- Growing slices drop nobody: a tree that is true is not false after any of its percent conditions
have grown. -/
theorem true_of_growth (maxDepth : Int) (context : Option Context) (depth : Int)
    {c d : Condition} (h : Replaced Growth depth c d) (l k : Ledger)
    (hc : ((evaluate maxDepth context depth c).runOn l).1 = .ok true) {answer : Bool}
    (hd : ((evaluate maxDepth context depth d).runOn k).1 = .ok answer) : answer = true := by
  rw [runOn_evaluate] at hc hd
  have hs : Sat maxDepth context depth c := (sat_iff_of_answer hc).1 rfl
  have hg : Sat maxDepth context depth d := h.sat (fun _ _ _ => Growth.sat) hs
  exact (sat_iff_of_answer hd).2 hg

/-- A rollout to some users. -/
def started : Condition :=
  .and [.percent (upTo "summer" 41000000),
    .or [.percent (.between "summer" 40000000 41000000), .never]]

/-- The same rollout to more of them. -/
def continued : Condition :=
  .and [.percent (upTo "summer" 50000000), .or [.percent (.between "summer" 0 41000000), .never]]

theorem replaced_started : Replaced Growth 0 started continued :=
  .and (.cons (.here (.percent ⟨rfl, rfl, by decide⟩))
    (.cons (.or (.cons (.here (.percent ⟨rfl, rfl, by decide, by decide⟩))
      (.cons (.kept .never) .nil))) .nil))

theorem true_of_growth_started :
    let context : Context := ⟨.ofList [("randomizationId", "user-1")]⟩
    ((evaluate 10 (some context) 0 started).runOn {}).1 = .ok true ∧
      ∃ answer, ((evaluate 10 (some context) 0 continued).runOn {}).1 = .ok answer ∧
        answer = true := by
  intro context
  have given : context.randomizationId? = some "user-1" := rfl
  have bucket : Bucket.ofId "summer" "user-1" = 40893098 := by decide +kernel
  have answers : ∀ c ∈ [started, continued],
      ((evaluate 10 (some context) 0 c).runOn {}).1 = .ok true := by
    intro c hc
    have hc : c = started ∨ c = continued := by simpa using hc
    rw [runOn_evaluate]
    rcases hc with rfl | rfl <;>
      simp (disch := decide) [started, continued, verdict_and, verdict_or,
        verdict_percent_of_operator, given, bucket, Verdict.readWhile]
  have h := answers started (by simp)
  have k := answers continued (by simp)
  exact ⟨h, true, k, true_of_growth 10 (some context) 0 replaced_started {} {} h k⟩

/-- A percent condition between two bounds, above the greatest depth, and the conjunction of a
percent condition for each of the bounds. -/
inductive Splitting (maxDepth : Int) : Int → Condition → Condition → Prop where
  | between {depth slice} (within : depth < maxDepth) (operator : slice.operator = .between) :
      Splitting maxDepth depth (.percent slice)
        (.and [.percent (beyond slice.seed slice.lower), .percent (upTo slice.seed slice.upper)])

theorem Splitting.verdict_eq {c d : Condition} (h : Splitting maxDepth depth c d) :
    verdict maxDepth context depth c = verdict maxDepth context depth d := by
  cases h with
  | @between slice within operator =>
    have ho : slice.operator ≠ .unspecified := by simp [operator]
    have below : depth + 1 ≤ maxDepth := within
    rw [verdict_and (Int.le_of_lt within) (List.cons_ne_nil _ _)]
    cases context with
    | none =>
      rw [verdict_percent (Int.le_of_lt within), List.map_cons, verdict_percent below]
      rfl
    | some c =>
      have hl : (beyond slice.seed slice.lower).operator ≠ .unspecified := nofun
      have hu : (upTo slice.seed slice.upper).operator ≠ .unspecified := nofun
      rw [List.map_cons, List.map_singleton, verdict_percent_of_operator below c hl,
        verdict_percent_of_operator below c hu,
        verdict_percent_of_operator (Int.le_of_lt within) c ho]
      cases c.randomizationId? with
      | none => rfl
      | some id =>
        dsimp only
        rw [Verdict.readWhile_pair]
        simp [contains_of_between operator]

/-- A tree in which percent conditions between two bounds are split runs as before on every
ledger. -/
theorem runOn_of_splitting (maxDepth : Int) (context : Option Context) (depth : Int)
    {c d : Condition} (h : Replaced (Splitting maxDepth) depth c d) (l : Ledger) :
    (evaluate maxDepth context depth c).runOn l = (evaluate maxDepth context depth d).runOn l := by
  have hv : verdict maxDepth context depth c = verdict maxDepth context depth d :=
    h.verdict_eq fun _ _ _ => Splitting.verdict_eq
  rw [runOn_evaluate, runOn_evaluate, hv]

/-- A slice and one without a range, two levels down. -/
def ranged : Condition :=
  .or [.never, .and [.percent (.between "summer" 1 50), .percent { operator := .between }]]

/-- The same with both of them split. -/
def split : Condition :=
  .or [.never, .and [.and [.percent (beyond "summer" 1), .percent (upTo "summer" 50)],
    .and [.percent (beyond "" 0), .percent (upTo "" 0)]]]

theorem runOn_of_splitting_ranged :
    Replaced (Splitting 3) 0 ranged split ∧
      ∀ context l,
        (evaluate 3 context 0 ranged).runOn l = (evaluate 3 context 0 split).runOn l := by
  have h : Replaced (Splitting 3) 0 ranged split :=
    .or (.cons (.kept .never) (.cons (.and
      (.cons (.here (.between (by decide) rfl))
        (.cons (.here (.between (by decide) rfl)) .nil))) .nil))
  exact ⟨h, fun context => runOn_of_splitting 3 context 0 h⟩

end Condition

end TargetedConfig
