import Mathlib.Algebra.Order.Field.Basic
import Mathlib.Tactic.Linarith
import TargetedConfig.Proofs.Binary64.Magnitude

/-!
# The nearest number

Rounding a quotient gives a number of the format that no other one is nearer to; of two that are
equally near it gives the one whose last significant bit is zero. So a decimal that does not
overflow has the nearest number next to it, and an integer has as well.
-/

namespace TargetedConfig.Binary64

-- Powers of numbers are those of the core library, whatever else is imported.
attribute [local instance (1100)] instPowNat

variable {den : Nat}

/-- How far a count is from a quotient, in parts of one. -/
def gap (num den count : Nat) : Nat := ((count * den : Int) - num).natAbs

theorem gap_mul (num den count step : Nat) :
    gap num (den * step) count = gap num den (count * step) := by
  rw [gap, gap]
  congr 2
  push_cast
  ring

/-- Rounding a quotient is off by less than one half, or by one half and even. -/
theorem gap_roundDiv (num : Nat) (positive : 0 < den) :
    2 * gap num den (roundDiv num den) < den ∨
      2 * gap num den (roundDiv num den) = den ∧ 2 ∣ roundDiv num den := by
  have hm : num % den < den := Nat.mod_lt num positive
  have hn : den * (num / den) + num % den = num := Nat.div_add_mod num den
  have hc : ((num / den : Nat) : Int) * den = den * (num / den : Nat) := Int.mul_comm _ _
  unfold roundDiv gap
  dsimp only
  generalize num / den = quotient at hn hc ⊢
  generalize num % den = rest at hm hn ⊢
  have hi : (num : Int) = den * quotient + rest := by exact_mod_cast hn.symm
  have hs : ((quotient + 1 : Nat) : Int) * den = quotient * den + den := by
    push_cast
    ring
  split
  · left
    omega
  · split
    · left
      omega
    · split
      · right
        omega
      · right
        omega

/-- Two counts are not both nearer than one half. -/
theorem den_le_gap_add (num den : Nat) {a b : Nat} (h : a ≠ b) :
    den ≤ gap num den a + gap num den b := by
  wlog hab : a < b generalizing a b
  · rw [Nat.add_comm]
    exact this (Ne.symm h) (by omega)
  have hd : ((a + 1 : Nat) : Int) * den ≤ b * den :=
    Int.mul_le_mul_of_nonneg_right (Int.ofNat_le.2 hab) (Int.natCast_nonneg den)
  have hs : ((a + 1 : Nat) : Int) * den = a * den + den := by
    push_cast
    ring
  unfold gap
  omega

/-- No count is nearer to a quotient than the rounded one, and that is even if another one is
equally near. -/
theorem roundDiv_nearest (num : Nat) (positive : 0 < den) (count : Nat) :
    gap num den (roundDiv num den) ≤ gap num den count ∧
      (gap num den (roundDiv num den) = gap num den count →
        count = roundDiv num den ∨ 2 ∣ roundDiv num den) := by
  have hr := gap_roundDiv num positive
  by_cases hc : count = roundDiv num den
  · rw [hc]
    exact ⟨Nat.le_refl _, fun _ => .inl rfl⟩
  · have hs := den_le_gap_add num den hc
    constructor
    · omega
    · intro he
      right
      rcases hr with hr | ⟨-, even⟩
      · omega
      · exact even

/-! ### Counts of units -/

/-- The last one of the significant bits is zero. -/
def EndsEven (units : Nat) : Prop := 2 ∣ units / spacing units

theorem endsEven_two_pow_succ (k : Nat) : EndsEven (2 ^ (k + 1)) := by
  have hl : (2 ^ (k + 1)).log2 = k + 1 := Nat.log2_two_pow
  rw [EndsEven, spacing, hl, Nat.pow_div (by omega) (by decide)]
  obtain ⟨m, hm⟩ : ∃ m, k + 1 - (k + 1 - 52) = m + 1 := ⟨k - (k + 1 - 52), by omega⟩
  rw [hm, Nat.pow_succ]
  exact Nat.dvd_mul_left _ _

theorem endsEven_roundUnits {num : Nat} (h : 2 ∣ roundDiv num (den * spacing (num / den))) :
    EndsEven (roundUnits num den) := by
  rcases Nat.lt_or_eq_of_le (roundUnits_le_two_pow Nat.lt_log2_self) with hlt | heq
  · -- Where the spacing is not larger, the significant bits are those of the quotient, shifted.
    have hl : (roundUnits num den).log2 ≤ (num / den).log2 := by
      by_cases hz : roundUnits num den = 0
      · simp [hz]
      · have := (Nat.log2_lt hz).2 hlt
        omega
    have hs : spacing (roundUnits num den) ∣ spacing (num / den) :=
      Nat.pow_dvd_pow 2 (Nat.sub_le_sub_right hl 52)
    have hr : roundUnits num den =
        roundDiv num (den * spacing (num / den)) * spacing (num / den) := rfl
    rw [EndsEven]
    nth_rewrite 1 [hr]
    rw [Nat.mul_div_assoc _ hs]
    exact Nat.dvd_mul_right_of_dvd h _
  · rw [heq]
    exact endsEven_two_pow_succ _

theorem gap_of_le {num count : Nat} (h : count * den ≤ num) :
    gap num den count = num - count * den := by
  unfold gap
  omega

/-- No count of at most 53 significant bits is nearer to a quotient than the rounded one, and that
ends even if another one is equally near. -/
theorem roundUnits_nearest (num : Nat) (positive : 0 < den) {units : Nat}
    (fits : spacing units ∣ units) :
    gap num den (roundUnits num den) ≤ gap num den units ∧
      (gap num den (roundUnits num den) = gap num den units →
        units = roundUnits num den ∨ EndsEven (roundUnits num den)) := by
  have hp : 0 < den * spacing (num / den) := Nat.mul_pos positive (spacing_pos _)
  have hr : gap num den (roundUnits num den) =
      gap num (den * spacing (num / den)) (roundDiv num (den * spacing (num / den))) := by
    rw [gap_mul]
    rfl
  by_cases hl : (num / den).log2 ≤ units.log2
  · have hs : spacing (num / den) ∣ units :=
      Nat.dvd_trans (Nat.pow_dvd_pow 2 (Nat.sub_le_sub_right hl 52)) fits
    obtain ⟨count, hc⟩ := hs
    rw [Nat.mul_comm] at hc
    have hn := roundDiv_nearest num hp count
    rw [← hr, gap_mul, ← hc] at hn
    refine ⟨hn.1, fun he => ?_⟩
    rcases hn.2 he with hk | even
    · left
      rw [hc, hk]
      rfl
    · right
      exact endsEven_roundUnits even
  · -- A power of two lies between such a count and the quotient, and it is a multiple of the step.
    have hq : num / den ≠ 0 := by
      intro hz
      simp [hz] at hl
    have hu : units < 2 ^ (num / den).log2 := by
      by_cases hz : units = 0
      · rw [hz]
        exact Nat.two_pow_pos _
      · exact (Nat.log2_lt hz).1 (by omega)
    have hd : spacing (num / den) ∣ 2 ^ (num / den).log2 := Nat.pow_dvd_pow 2 (Nat.sub_le _ _)
    have hle : 2 ^ (num / den).log2 * den ≤ num :=
      (Nat.le_div_iff_mul_le positive).1 (Nat.log2_self_le hq)
    have hlt : units * den < 2 ^ (num / den).log2 * den := Nat.mul_lt_mul_of_pos_right hu positive
    obtain ⟨count, hc⟩ := hd
    rw [Nat.mul_comm] at hc
    have hn := (roundDiv_nearest num hp count).1
    rw [← hr, gap_mul, ← hc, gap_of_le hle] at hn
    have hg := gap_of_le (Nat.le_of_lt (Nat.lt_of_lt_of_le hlt hle))
    constructor
    · omega
    · intro he
      omega

/-! ### Numbers -/

/-- The rational number that a finite number stands for. -/
def toRat? : Binary64 → Option ℚ
  | .finite negative units _ => some (signFactor negative * ratOf units)
  | _ => none

/-- The number is finite, no finite number is nearer to the rational one, and if another one is
equally near, the last significant bit of the number is zero. -/
def IsNearest (q : ℚ) : Binary64 → Prop
  | .finite negative units _ => ∀ (y : Binary64) (r : ℚ), y.toRat? = some r →
      |signFactor negative * ratOf units - q| ≤ |r - q| ∧
        (|signFactor negative * ratOf units - q| = |r - q| →
          r = signFactor negative * ratOf units ∨ EndsEven units)
  | _ => False

theorem abs_ratOf_sub (num : Nat) (positive : 0 < den) (units : Nat) :
    |ratOf units - num / den| = gap (num * unitsOfOne) den units / (den * unitsOfOne : ℚ) := by
  have hd : (0 : ℚ) < den := Nat.cast_pos.2 positive
  have hu : (0 : ℚ) < unitsOfOne := Nat.cast_pos.2 unitsOfOne_pos
  have he : ratOf units - num / den =
      ((units * den : Int) - (num * unitsOfOne : Nat) : Int) / (den * unitsOfOne : ℚ) := by
    rw [ratOf, div_sub_div _ _ hu.ne' hd.ne']
    push_cast
    rw [mul_comm (unitsOfOne : ℚ) num, mul_comm (unitsOfOne : ℚ) den]
  have hn : |(((units * den : Int) - (num * unitsOfOne : Nat) : Int) : ℚ)| =
      gap (num * unitsOfOne) den units := by
    rw [gap, Nat.cast_natAbs, Int.cast_abs]
  rw [he, abs_div, abs_of_pos (mul_pos hd hu), hn]

/-- A rounded quotient stands for the nearest rational number. -/
theorem ratOf_nearest (num : Nat) (positive : 0 < den) {units : Nat}
    (fits : spacing units ∣ units) :
    |ratOf (roundUnits (num * unitsOfOne) den) - num / den| ≤ |ratOf units - num / den| ∧
      (|ratOf (roundUnits (num * unitsOfOne) den) - num / den| = |ratOf units - num / den| →
        units = roundUnits (num * unitsOfOne) den ∨
          EndsEven (roundUnits (num * unitsOfOne) den)) := by
  have hd : (0 : ℚ) < den * unitsOfOne :=
    mul_pos (Nat.cast_pos.2 positive) (Nat.cast_pos.2 unitsOfOne_pos)
  have hn := roundUnits_nearest (num * unitsOfOne) positive fits
  rw [abs_ratOf_sub num positive, abs_ratOf_sub num positive, div_le_div_iff_of_pos_right hd,
    div_left_inj' (ne_of_gt hd), Nat.cast_le, Nat.cast_inj]
  exact hn

theorem abs_signFactor (negative : Bool) : |(signFactor negative : ℚ)| = 1 := by
  cases negative <;> simp [signFactor]

theorem ratOf_nonneg (units : Nat) : 0 ≤ ratOf units :=
  div_nonneg (Nat.cast_nonneg _) (Nat.cast_nonneg _)

theorem ratOf_zero : ratOf 0 = 0 := by
  rw [ratOf, Nat.cast_zero, zero_div]

theorem isNearest_finite {num : Nat} (positive : 0 < den) (negative : Bool) {rounded : Nat}
    (fits : Representable rounded) (h : rounded = roundUnits (num * unitsOfOne) den) :
    IsNearest (signFactor negative * (num / den)) (.finite negative rounded fits) := by
  subst h
  intro y r hy
  cases y with
  | nan => cases hy
  | infinite => cases hy
  | finite other units fits' =>
    cases hy
    have hq : (0 : ℚ) ≤ num / den := div_nonneg (Nat.cast_nonneg _) (Nat.cast_nonneg _)
    have hu := ratOf_nonneg units
    rw [← mul_sub, abs_mul, abs_signFactor, one_mul]
    by_cases hs : other = negative
    · have hn := ratOf_nearest num positive fits'.2
      rw [hs, ← mul_sub, abs_mul, abs_signFactor, one_mul]
      refine ⟨hn.1, fun he => ?_⟩
      rcases hn.2 he with rfl | even
      · exact .inl rfl
      · exact .inr even
    · -- On the other side of zero nothing is nearer than zero.
      have hz := ratOf_nearest num positive (Nat.dvd_zero (spacing 0))
      have hf : (signFactor other : ℚ) = -signFactor negative := by
        cases other <;> cases negative <;> simp_all [signFactor]
      have hd : |(signFactor other : ℚ) * ratOf units - signFactor negative * (num / den)| =
          ratOf units + num / den := by
        rw [hf, neg_mul, ← neg_add', ← mul_add, abs_neg, abs_mul, abs_signFactor, one_mul,
          abs_of_nonneg (by linarith)]
      rw [ratOf_zero, zero_sub, abs_neg, abs_of_nonneg hq] at hz
      rw [hd]
      constructor
      · linarith
      · intro he
        right
        have hu : ratOf units = 0 := by linarith
        rw [hu, zero_add] at he
        rcases hz.2 he with hr | even
        · rw [← hr, EndsEven, Nat.zero_div]
          exact Nat.dvd_zero _
        · exact even

/-! ### Decimals and integers -/

theorem ofDecimal_of_fits (d : Decimal)
    (fits : Representable (decimalUnits d.coefficient d.exponent)) :
    ofDecimal d = .finite d.negative (decimalUnits d.coefficient d.exponent) fits := by
  have hz (h : decimalUnits d.coefficient d.exponent = 0) :
      zero d.negative = .finite d.negative (decimalUnits d.coefficient d.exponent) fits := by
    simp only [zero, h]
  rw [ofDecimal]
  split_ifs with hc hg hl
  · apply hz
    rw [hc, decimalUnits_zero]
  · have ho := overflowUnits_le_decimalUnits d hc hg
    exact absurd fits.1 (Nat.not_lt.2 ho)
  · exact hz (decimalUnits_of_magnitude_lt d hl)
  · exact ofUnits_of_representable fits

/-- A decimal that does not overflow denotes the number that is nearest to it. -/
theorem isNearest_ofDecimal (d : Decimal)
    (h : decimalUnits d.coefficient d.exponent < overflowUnits) :
    ∃ units fits, ofDecimal d = .finite d.negative units fits ∧
      IsNearest d.toRat (.finite d.negative units fits) := by
  obtain ⟨shift, hs⟩ : ∃ shift : Nat, 0 ≤ d.exponent + shift := ⟨d.exponent.natAbs, by omega⟩
  have hp : 0 < 10 ^ shift := Nat.pow_pos (by decide)
  have fits : Representable (decimalUnits d.coefficient d.exponent) :=
    ⟨h, spacing_decimalUnits_dvd _ _⟩
  have hd := ofDecimal_of_fits d fits
  have hu : decimalUnits d.coefficient d.exponent =
      roundUnits (d.steps shift * unitsOfOne) (10 ^ shift) := by
    rw [decimalUnits_eq _ _ hs, Decimal.steps, unitsOfOne]
  have hq : d.toRat = signFactor d.negative * (d.steps shift / (10 ^ shift : Nat)) := by
    rw [d.toRat_eq hs]
    push_cast
    ring
  rw [hd, hq]
  exact ⟨_, fits, rfl, isNearest_finite hp d.negative fits hu⟩

/-- An integer of few enough bits does not overflow. -/
theorem decimalUnits_lt_overflowUnits {n k : Nat} (h : n < 2 ^ k)
    (hk : k + 1074 < overflowExponent) :
    decimalUnits n 0 < overflowUnits := by
  have hp : 2 ^ k * unitsOfOne = 2 ^ (k + 1074) := by
    unfold unitsOfOne
    generalize 1074 = j
    exact (Nat.pow_add 2 k j).symm
  have hu : n * unitsOfOne / 1 < 2 ^ (k + 1074) := by
    rw [Nat.div_one, ← hp]
    exact Nat.mul_lt_mul_of_pos_right h unitsOfOne_pos
  have hd : decimalUnits n 0 = roundUnits (n * unitsOfOne) 1 := by
    rw [@decimalUnits_eq n 0 0 (by decide), unitsOfOne]
    simp only [Nat.cast_zero, Int.add_zero, Int.toNat_zero, Nat.pow_zero, Nat.mul_one]
  calc decimalUnits n 0 = roundUnits (n * unitsOfOne) 1 := hd
    _ ≤ 2 ^ (k + 1074) := roundUnits_le_two_pow hu
    _ < overflowUnits := Nat.pow_lt_pow_right Nat.one_lt_two hk

end TargetedConfig.Binary64
