import Mathlib.Order.Fin.Basic
import Mathlib.Order.PiLex
import TargetedConfig.Proofs.Relation
import TargetedConfig.Version

/-!
# The order of versions

Two lists of segments are ordered as the sequences that they begin are, lexicographically, when
zeros follow their last segments. Versions have at most five segments, so that this is the
lexicographic order of tuples of five numbers.
-/

namespace TargetedConfig.Version

/-- The sequence of some segments and of zeros after them. -/
def padded (segments : List Int) : Lex (ℕ → Int) := toLex fun i => segments.getD i 0

def shift (f : Lex (ℕ → Int)) : Lex (ℕ → Int) := toLex fun i => f (i + 1)

private theorem lt_of_head {f g : Lex (ℕ → Int)} (h : f 0 < g 0) : f < g :=
  ⟨0, fun _ hj => absurd hj (Nat.not_lt_zero _), h⟩

private theorem lt_of_shift {f g : Lex (ℕ → Int)} (h : f 0 = g 0) (hs : shift f < shift g) :
    f < g := by
  obtain ⟨i, before, at'⟩ := hs
  refine ⟨i + 1, ?_, at'⟩
  intro j hj
  cases j with
  | zero => exact h
  | succ j => exact before j (Nat.lt_of_succ_lt_succ hj)

private theorem eq_of_shift {f g : Lex (ℕ → Int)} (h : f 0 = g 0) (hs : shift f = shift g) :
    f = g := by
  funext i
  cases i with
  | zero => exact h
  | succ i => exact congrFun hs i

/-- Sequences are compared by their first members and then by what follows. -/
private theorem compares_then {f g : Lex (ℕ → Int)} {o : Ordering}
    (h : o.Compares (shift f) (shift g)) : ((compare (f 0) (g 0)).then o).Compares f g := by
  rcases lt_trichotomy (f 0) (g 0) with hl | he | hg
  · rw [compare_lt_iff_lt.2 hl]
    exact lt_of_head hl
  · rw [compare_eq_iff_eq.2 he]
    cases o with
    | lt => exact lt_of_shift he h
    | eq => exact eq_of_shift he h
    | gt => exact lt_of_shift he.symm h
  · rw [compare_gt_iff_gt.2 hg]
    exact lt_of_head hg

/-- Missing segments count as zero, however many are missing on either side. -/
theorem compares_order (v w : List Int) : (order v w).Compares (padded v) (padded w) := by
  -- The sequence of a tail is the shifted sequence by definition; the empty list is its own tail.
  induction v, w using order.induct with
  | case1 =>
    rw [order]
    exact rfl
  | case2 a v ih =>
    rw [order]
    exact compares_then (f := padded (a :: v)) (g := padded []) ih
  | case3 b w ih =>
    rw [order]
    exact compares_then (f := padded []) (g := padded (b :: w)) ih
  | case4 a v b w ih =>
    rw [order]
    exact compares_then (f := padded (a :: v)) (g := padded (b :: w)) ih

/-- The five numbers of a version: its segments, and zero for each missing one. -/
def tuple (segments : List ℕ) : Lex (Fin 5 → ℕ) := toLex fun i => segments.getD i 0

/-- Five numbers and zeros after them. -/
def extended (t : Lex (Fin 5 → ℕ)) : Lex (ℕ → Int) :=
  toLex fun i => if h : i < 5 then (t ⟨i, h⟩ : Int) else 0

private theorem extended_lt {s t : Lex (Fin 5 → ℕ)} (h : s < t) : extended s < extended t := by
  obtain ⟨i, before, at'⟩ := h
  refine ⟨i, ?_, ?_⟩
  · intro j hj
    have hb := before ⟨j, by omega⟩ hj
    simp only [extended, Pi.toLex_apply]
    rw [dif_pos (by omega), dif_pos (by omega), hb]
  · simpa [extended] using at'

private theorem padded_eq_extended {segments : List ℕ} (h : segments.length ≤ 5) :
    padded (segments.map Int.ofNat) = extended (tuple segments) := by
  funext i
  simp only [padded, extended, tuple, Pi.toLex_apply]
  by_cases hi : i < segments.length
  · have h5 : i < 5 := Nat.lt_of_lt_of_le hi h
    simp [h5, hi]
  · simp [hi]

/-- Versions are ordered as their tuples are. -/
theorem compares_compareSegments {v w : List ℕ} (hv : v.length ≤ 5) (hw : w.length ≤ 5) :
    (compareSegments v w).Compares (tuple v) (tuple w) := by
  have mono : StrictMono extended := fun _ _ => extended_lt
  refine mono.compares.1 ?_
  rw [← padded_eq_extended hv, ← padded_eq_extended hw]
  exact compares_order _ _

end TargetedConfig.Version
