import Mathlib.Data.List.DropRight
import Mathlib.Data.List.GetD
import TargetedConfig.Proofs.Version.Order

/-!
# Lists of segments as a total preorder

Whatever their lengths, lists of segments are totally preordered, and two lists are equivalent when
they are equal but for zeros at their ends. Comparing two lists is looking for the first place where
they differ once the shorter one has been filled up with zeros.
-/

namespace TargetedConfig.Version

/-- The order of two lists as a number: below zero, zero or above zero. -/
def cmp (v w : List Int) : Int :=
  match order v w with
  | .lt => -1
  | .eq => 0
  | .gt => 1

/-- The order at the first place where two lists differ. -/
def firstDifference : List Int → List Int → Int
  | a :: v, b :: w => if a < b then -1 else if b < a then 1 else firstDifference v w
  | _, _ => 0

/-- Zeros up to a number of segments. -/
def filled (length : Nat) (v : List Int) : List Int := v ++ List.replicate (length - v.length) 0

def trimmed (v : List Int) : List Int := v.rdropWhile (· = 0)

variable {u v w : List Int}

/-! ### The order -/

instance : Std.OrientedCmp order where
  eq_swap {v w} := (compares_order v w).inj (compares_order w v).swap

theorem isLE_order_iff : (order v w).isLE = true ↔ ¬padded w < padded v :=
  Ordering.isLE_iff_ne_gt.trans (not_congr (compares_order v w).eq_gt)

instance : Std.TransCmp order where
  isLE_trans := by
    intro u v w h k
    rw [isLE_order_iff] at h k ⊢
    exact not_lt.2 (le_trans (not_lt.1 h) (not_lt.1 k))

theorem order_eq_iff : order v w = .eq ↔ padded v = padded w := (compares_order v w).eq_eq

/-! ### Zeros at the end -/

theorem padded_append_zeros (v : List Int) (n : Nat) :
    padded (v ++ List.replicate n 0) = padded v := by
  funext i
  rw [padded, padded, Pi.toLex_apply, Pi.toLex_apply]
  by_cases h : i < v.length
  · exact List.getD_append _ _ _ _ h
  · have hl : v.length ≤ i := Nat.le_of_not_lt h
    rw [List.getD_append_right _ _ _ _ hl, List.getD_eq_default v _ hl, List.getD_eq_getElem?_getD,
      List.getElem?_getD_replicate_default_eq]

theorem padded_trimmed (v : List Int) : padded (trimmed v) = padded v := by
  have hz : v.rtakeWhile (· = 0) = List.replicate (v.rtakeWhile (· = 0)).length 0 :=
    List.eq_replicate_of_mem fun a ha => by simpa using List.mem_rtakeWhile_imp ha
  have hv : trimmed v ++ v.rtakeWhile (· = 0) = v := List.rdropWhile_append_rtakeWhile
  nth_rewrite 2 [← hv]
  rw [hz, padded_append_zeros]

/-- A list that does not end in zero is no longer than any list with the same sequence. -/
theorem length_le_of_padded_eq (hw : trimmed w = w) (h : padded v = padded w) :
    w.length ≤ v.length := by
  by_contra hl
  have hne : w ≠ [] := List.ne_nil_of_length_pos (by omega)
  have hn : w.getLast hne ≠ 0 := by
    simpa using List.rdropWhile_eq_self_iff.1 hw hne
  have hi : padded v (w.length - 1) = padded w (w.length - 1) := congrFun h _
  rw [padded, padded, Pi.toLex_apply, Pi.toLex_apply, List.getD_eq_default v _ (by omega),
    List.getD_eq_getElem w _ (by omega), ← List.getLast_eq_getElem hne] at hi
  exact hn hi.symm

/-- A sequence tells the list that it begins with, up to zeros at the end. -/
theorem trimmed_eq_iff : trimmed v = trimmed w ↔ padded v = padded w := by
  constructor
  · intro h
    rw [← padded_trimmed v, h, padded_trimmed]
  · intro h
    rw [← padded_trimmed v, ← padded_trimmed w] at h
    have hv : trimmed (trimmed v) = trimmed v := List.rdropWhile_idempotent _ _
    have hw : trimmed (trimmed w) = trimmed w := List.rdropWhile_idempotent _ _
    refine List.ext_getElem ?_ fun i hi hj => ?_
    · exact Nat.le_antisymm (length_le_of_padded_eq hv h.symm) (length_le_of_padded_eq hw h)
    · have he : padded (trimmed v) i = padded (trimmed w) i := congrFun h i
      rwa [padded, padded, Pi.toLex_apply, Pi.toLex_apply, List.getD_eq_getElem _ _ hi,
        List.getD_eq_getElem _ _ hj] at he

theorem order_append_zeros (v w : List Int) (m n : Nat) :
    order (v ++ List.replicate m 0) (w ++ List.replicate n 0) = order v w := by
  have h := compares_order (v ++ List.replicate m 0) (w ++ List.replicate n 0)
  rw [padded_append_zeros, padded_append_zeros] at h
  exact h.inj (compares_order v w)

/-! ### Answers as numbers -/

theorem cmp_nonpos_iff : cmp v w ≤ 0 ↔ (order v w).isLE = true := by
  rw [cmp]
  cases order v w <;> decide

theorem cmp_eq_zero_iff : cmp v w = 0 ↔ order v w = .eq := by
  rw [cmp]
  cases order v w <;> decide

theorem cmp_swap (v w : List Int) : cmp w v = -cmp v w := by
  have hs : order w v = (order v w).swap := Std.OrientedCmp.eq_swap
  rw [cmp, cmp, hs]
  cases order v w <;> rfl

/-- Lists of one length are compared where they first differ. -/
theorem firstDifference_eq (h : v.length = w.length) : firstDifference v w = cmp v w := by
  induction v generalizing w with
  | nil =>
    cases w with
    | nil => simp [firstDifference, cmp, order]
    | cons b w => cases h
  | cons a v ih =>
    cases w with
    | nil => cases h
    | cons b w =>
      rw [firstDifference, ih (Nat.succ.inj h), cmp, cmp, order]
      rcases lt_trichotomy a b with hl | he | hg
      · rw [if_pos hl, compare_lt_iff_lt.2 hl, Ordering.lt_then]
      · rw [if_neg (by omega), if_neg (by omega), compare_eq_iff_eq.2 he, Ordering.eq_then]
      · rw [if_neg (by omega), if_pos hg, compare_gt_iff_gt.2 hg, Ordering.gt_then]

theorem cmp_eq_firstDifference (v w : List Int) :
    cmp v w = firstDifference (filled (max v.length w.length) v)
      (filled (max v.length w.length) w) := by
  have hl : (filled (max v.length w.length) v).length =
      (filled (max v.length w.length) w).length := by
    simp only [filled, List.length_append, List.length_replicate]
    omega
  rw [firstDifference_eq hl, cmp, cmp, filled, filled, order_append_zeros]

/-- Comparing lists of segments answers less, equal or greater by the first place where the lists
differ, once both are filled up with zeros to the longer of the two. Swapping the lists negates the
answer, and the answers are those of a preorder, in which two lists are equivalent if they are equal
but for zeros at their ends. Such zeros never matter, and neither does an exchange of equivalent
lists. -/
theorem cmp_total_preorder (u v w : List Int) :
    (cmp u v = -1 ∨ cmp u v = 0 ∨ cmp u v = 1) ∧
      cmp u v = firstDifference (filled (max u.length v.length) u)
        (filled (max u.length v.length) v) ∧
      cmp v u = -cmp u v ∧
      (cmp u v ≤ 0 → cmp v w ≤ 0 → cmp u w ≤ 0) ∧
      (cmp u v = 0 ↔ trimmed u = trimmed v) ∧
      (∀ m n, cmp (u ++ List.replicate m 0) (v ++ List.replicate n 0) = cmp u v) ∧
      (cmp u v = 0 → cmp u w = cmp v w) := by
  refine ⟨?_, cmp_eq_firstDifference u v, cmp_swap u v, ?_, ?_, ?_, ?_⟩
  · rw [cmp]
    cases order u v <;> decide
  · simp only [cmp_nonpos_iff]
    exact Std.TransCmp.isLE_trans
  · rw [cmp_eq_zero_iff, order_eq_iff, trimmed_eq_iff]
  · intro m n
    rw [cmp, cmp, order_append_zeros]
  · intro h
    rw [cmp, cmp, Std.TransCmp.congr_left (cmp_eq_zero_iff.1 h)]

/-- Three lists of different lengths, one of them empty and one with a negative segment. -/
theorem cmp_total_preorder_negative :
    cmp [0, -2, 7] [] ≤ 0 ∧ cmp [] [0, 0] = 0 ∧ cmp [0, -2, 7] [0, 0] ≤ 0 ∧
      cmp [] [0, -3] = cmp [0, 0] [0, -3] := by
  have hl : cmp [0, -2, 7] [] ≤ 0 := by simp [cmp, order, compare, compareOfLessAndEq]
  have he : cmp [] [0, 0] = 0 := by simp [cmp, order]
  have hz : cmp [] [0, 0] ≤ 0 := Int.le_of_eq he
  obtain ⟨-, -, -, transitive, -⟩ := cmp_total_preorder [0, -2, 7] [] [0, 0]
  obtain ⟨-, -, -, -, -, -, exchange⟩ := cmp_total_preorder [] [0, 0] [0, -3]
  exact ⟨hl, he, transitive hl hz, exchange he⟩

end TargetedConfig.Version
