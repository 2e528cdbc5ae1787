import TargetedConfig.Binary64.Decimal
import TargetedConfig.Proofs.Binary64.Rounding

/-!
# Shortest decimals read back

The binary64 number next to a decimal depends on the value of the decimal only, so that factors ten
may move between coefficient and exponent. The decimal that `shortest` chooses for a number has this
number next to it.
-/

namespace TargetedConfig

-- Powers of numbers are those of the core library, whatever else is imported.
attribute [local instance (1100)] instPowNat

namespace Binary64

/-- The count of units next to a decimal, as one quotient for exponents of either sign. -/
theorem decimalUnits_eq (coefficient : Nat) (exponent : Int) {shift : Nat}
    (h : 0 ≤ exponent + shift) :
    decimalUnits coefficient exponent =
      roundUnits (coefficient * 10 ^ (exponent + shift).toNat * 2 ^ (1074 : Nat)) (10 ^ shift) := by
  have ht (n : Nat) : 0 < 10 ^ n := Nat.pow_pos (by decide)
  cases exponent with
  | ofNat e =>
    have he : (Int.ofNat e + shift).toNat = e + shift := by
      rw [Int.ofNat_eq_natCast]
      omega
    rw [decimalUnits, he]
    generalize 2 ^ (1074 : Nat) = unit
    rw [← roundUnits_mul_right _ _ (ht shift), Nat.one_mul, Nat.pow_add,
      Nat.mul_right_comm _ unit, Nat.mul_assoc coefficient]
  | negSucc e =>
    obtain ⟨k, rfl⟩ : ∃ k, shift = e + 1 + k := ⟨shift - (e + 1), by omega⟩
    have he : (Int.negSucc e + ((e + 1 + k : Nat) : Int)).toNat = k := by omega
    rw [decimalUnits, he]
    generalize 2 ^ (1074 : Nat) = unit
    rw [← roundUnits_mul_right _ _ (ht k), Nat.mul_right_comm coefficient, ← Nat.pow_add]

/-- Factors ten may move between exponent and coefficient. -/
theorem decimalUnits_mul_pow (coefficient : Nat) (exponent : Int) (k : Nat) :
    decimalUnits (coefficient * 10 ^ k) (exponent - k) = decimalUnits coefficient exponent := by
  obtain ⟨shift, hshift⟩ : ∃ shift : Nat, 0 ≤ exponent - k + shift :=
    ⟨exponent.natAbs + k, by omega⟩
  have hs : (exponent + shift).toNat = k + (exponent - k + shift).toNat := by omega
  have he : 0 ≤ exponent + shift := by omega
  rw [decimalUnits_eq _ _ hshift, decimalUnits_eq coefficient exponent he, hs, Nat.pow_add 10 k,
    Nat.mul_assoc coefficient]

end Binary64

namespace Decimal

/-- Factors ten of a coefficient are zeros behind its digits. -/
theorem toDigits_mul_pow {coefficient : Nat} (h : coefficient ≠ 0) (k : Nat) :
    Nat.toDigits 10 (coefficient * 10 ^ k) =
      Nat.toDigits 10 coefficient ++ List.replicate k '0' := by
  induction k with
  | zero => simp
  | succ k ih =>
    have hp : 0 < coefficient * 10 ^ k :=
      Nat.mul_pos (Nat.pos_of_ne_zero h) (Nat.pow_pos (by decide))
    have hd := Nat.toDigits_append_toDigits (b := 10) (d := 0) (by decide) hp (by decide)
    rw [Nat.add_zero, ih, Nat.toDigits_zero, List.append_assoc,
      ← List.replicate_succ'] at hd
    rw [hd, Nat.pow_succ', Nat.mul_left_comm]

/-- A positive coefficient lies between the powers of ten that its number of digits tells. -/
theorem pow_le_coefficient (d : Decimal) (h : d.coefficient ≠ 0) :
    10 ^ (d.digits.length - 1) ≤ d.coefficient := by
  refine Nat.le_of_not_lt fun hl => ?_
  have hp : 0 < d.digits.length := Nat.length_toDigits_pos
  by_cases h1 : d.digits.length = 1
  · rw [h1] at hl
    omega
  · have hs : d.digits.length ≤ d.digits.length - 1 :=
      (Nat.length_toDigits_le_iff (by decide) (by omega)).2 hl
    omega

theorem coefficient_lt_pow (d : Decimal) : d.coefficient < 10 ^ d.digits.length :=
  (Nat.length_toDigits_le_iff (by decide) Nat.length_toDigits_pos).1 (Nat.le_refl _)

end Decimal

namespace Binary64

/-- The number next to a decimal is the same when factors ten move between its parts. -/
theorem ofDecimal_mul_pow (negative : Bool) (coefficient : Nat) (exponent : Int) (k : Nat) :
    ofDecimal ⟨negative, coefficient * 10 ^ k, exponent - k⟩ =
      ofDecimal ⟨negative, coefficient, exponent⟩ := by
  by_cases h : coefficient = 0
  · simp [ofDecimal, h]
  · have hp : coefficient * 10 ^ k ≠ 0 :=
      Nat.mul_ne_zero h (Nat.ne_of_gt (Nat.pow_pos (by decide)))
    have hm : Decimal.magnitude ⟨negative, coefficient * 10 ^ k, exponent - k⟩ =
        Decimal.magnitude ⟨negative, coefficient, exponent⟩ := by
      simp only [Decimal.magnitude, Decimal.digits, Decimal.toDigits_mul_pow h,
        List.length_append, List.length_replicate]
      omega
    unfold ofDecimal
    rw [if_neg h, if_neg hp, hm, decimalUnits_mul_pow]

theorem ofDecimal_stripZeros (negative : Bool) (coefficient : Nat) (exponent : Int) :
    ofDecimal (Decimal.stripZeros negative coefficient exponent) =
      ofDecimal ⟨negative, coefficient, exponent⟩ := by
  fun_induction Decimal.stripZeros negative coefficient exponent with
  | case1 coefficient exponent h ih =>
    have hm := ofDecimal_mul_pow negative (coefficient / 10) (exponent + 1) 1
    rw [Nat.pow_one, Nat.div_mul_cancel (Nat.dvd_of_mod_eq_zero h.2)] at hm
    rw [ih, ← hm]
    congr 2
    omega
  | case2 => rfl

theorem decimalUnits_zero (exponent : Int) : decimalUnits 0 exponent = 0 := by
  rw [decimalUnits_eq 0 exponent (by omega : 0 ≤ exponent + (exponent.natAbs : Nat))]
  generalize 2 ^ (1074 : Nat) = unit
  rw [Nat.zero_mul, Nat.zero_mul]
  exact roundUnits_zero (Nat.pow_pos (by decide))

private theorem two_mul_lt_pow_add {n k m unit : Nat} (hn : n ≤ 10 ^ k)
    (hu : 2 * unit < 10 ^ m) : 2 * (n * unit) < 10 ^ (k + m) :=
  calc 2 * (n * unit) ≤ 2 * (10 ^ k * unit) :=
        Nat.mul_le_mul_left _ (Nat.mul_le_mul_right _ hn)
    _ = 10 ^ k * (2 * unit) := Nat.mul_left_comm _ _ _
    _ < 10 ^ k * 10 ^ m := Nat.mul_lt_mul_of_pos_left hu (Nat.pow_pos (by decide))
    _ = 10 ^ (k + m) := (Nat.pow_add _ _ _).symm

private theorem le_div_of_pow_add_le {n k m unit bound : Nat} (hn : 10 ^ (m + k) ≤ n)
    (hb : bound ≤ 10 ^ m * unit) : bound ≤ n * unit / 10 ^ k := by
  rw [Nat.le_div_iff_mul_le (Nat.pow_pos (by decide))]
  calc bound * 10 ^ k ≤ 10 ^ m * unit * 10 ^ k := Nat.mul_le_mul_right _ hb
    _ = 10 ^ (m + k) * unit := by rw [Nat.pow_add, Nat.mul_right_comm]
    _ ≤ n * unit := Nat.mul_le_mul_right _ hn

/-- Decimals of magnitude below -330 vanish whatever their digits. -/
theorem decimalUnits_of_magnitude_lt (d : Decimal) (h : d.magnitude < -330) :
    decimalUnits d.coefficient d.exponent = 0 := by
  obtain ⟨k, hshift⟩ : ∃ k : Nat, 0 ≤ d.exponent + ((k + 330 : Nat) : Int) :=
    ⟨d.exponent.natAbs, by omega⟩
  have he : d.digits.length + (d.exponent + ((k + 330 : Nat) : Int)).toNat ≤ k := by
    rw [Decimal.magnitude] at h
    omega
  have hn : d.coefficient * 10 ^ (d.exponent + ((k + 330 : Nat) : Int)).toNat ≤ 10 ^ k := by
    refine Nat.le_trans (Nat.mul_le_mul_right _ (Nat.le_of_lt d.coefficient_lt_pow)) ?_
    rw [← Nat.pow_add]
    exact Nat.pow_le_pow_right (by decide) he
  rw [decimalUnits_eq _ _ hshift]
  exact roundUnits_eq_zero (two_mul_lt_pow_add hn (by decide +kernel))

/-- Decimals of magnitude above 309 overflow whatever their digits. -/
theorem overflowUnits_le_decimalUnits (d : Decimal) (hc : d.coefficient ≠ 0)
    (h : 309 < d.magnitude) : overflowUnits ≤ decimalUnits d.coefficient d.exponent := by
  obtain ⟨k, hshift⟩ : ∃ k : Nat, 0 ≤ d.exponent + k := ⟨d.exponent.natAbs, by omega⟩
  have he : 310 + k ≤ d.digits.length - 1 + (d.exponent + k).toNat := by
    rw [Decimal.magnitude] at h
    omega
  have hn : 10 ^ (310 + k) ≤ d.coefficient * 10 ^ (d.exponent + k).toNat := by
    refine Nat.le_trans (Nat.pow_le_pow_right (by decide) he) ?_
    rw [Nat.pow_add]
    exact Nat.mul_le_mul_right _ (d.pow_le_coefficient hc)
  rw [decimalUnits_eq _ _ hshift]
  exact two_pow_le_roundUnits (le_div_of_pow_add_le hn (by decide +kernel))

/-- A decimal whose nearest count of units is a positive number of the format denotes it. -/
theorem ofDecimal_of_decimalUnits (d : Decimal) {units : Nat} (hu : 0 < units)
    (fits : Representable units) (h : decimalUnits d.coefficient d.exponent = units) :
    ofDecimal d = .finite d.negative units fits := by
  have hc : d.coefficient ≠ 0 := by
    intro hc
    rw [hc, decimalUnits_zero] at h
    omega
  have hg : ¬309 < d.magnitude := by
    intro hm
    have ho := overflowUnits_le_decimalUnits d hc hm
    rw [h] at ho
    exact absurd fits.1 (Nat.not_lt.2 ho)
  have hl : ¬d.magnitude < -330 := by
    intro hm
    rw [decimalUnits_of_magnitude_lt d hm] at h
    omega
  rw [ofDecimal, if_neg hc, if_neg hg, if_neg hl, h, ofUnits_of_representable fits]

/-- What is found on a grid reads back. -/
theorem decimalUnits_of_nearestOnGrid {units c : Nat} {exponent : Int}
    (h : nearestOnGrid units exponent = some c) : decimalUnits c exponent = units := by
  rw [nearestOnGrid] at h
  dsimp only at h
  split at h
  · rename_i hb
    cases h
    rcases roundDiv_eq_or (inSteps units exponent).1 (inSteps units exponent).2 with hr | hr
    · rw [hr]
      exact hb.1
    · rw [hr]
      exact hb.2
  · split at h
    · rename_i hb
      cases h
      exact hb
    · split at h
      · rename_i hb
        cases h
        exact hb
      · cases h

theorem decimalUnits_of_firstHit {units count c : Nat} {point exponent : Int}
    (h : firstHit units point count = some (c, exponent)) : decimalUnits c exponent = units := by
  fun_induction firstHit units point count with
  | case1 count hc c' hg =>
    cases h
    exact decimalUnits_of_nearestOnGrid hg
  | case2 count hc hg ih => exact ih h
  | case3 => cases h

/-- The exact decimal of a number reads back. -/
theorem decimalUnits_exact {units : Nat} (fits : Representable units) :
    decimalUnits (units * 5 ^ (1074 : Nat)) (-1074) = units := by
  obtain ⟨k, hk⟩ : ∃ k : Nat, 1074 = k := ⟨_, rfl⟩
  have he : (-1074 : Int) = -(k : Int) := by omega
  have hz : (-(k : Int) + k).toNat = 0 := by omega
  rw [he, @decimalUnits_eq _ _ k (by omega), hz, hk, Nat.pow_zero, Nat.mul_one, Nat.mul_assoc,
    ← Nat.mul_pow]
  exact roundUnits_of_representable fits (Nat.pow_pos (by decide))

theorem stripZeros_eq (negative : Bool) (coefficient : Nat) (exponent : Int) :
    Decimal.stripZeros negative coefficient exponent =
      { Decimal.stripZeros false coefficient exponent with negative := negative } := by
  fun_induction Decimal.stripZeros false coefficient exponent with
  | case1 coefficient exponent h ih => rw [Decimal.stripZeros, dif_pos h, ih]
  | case2 coefficient exponent h => rw [Decimal.stripZeros, dif_neg h]

/-- The sign of a number is that of its shortest decimal and nothing else of it. -/
theorem shortest_eq (negative : Bool) (units : Nat) :
    shortest negative units = { shortest false units with negative := negative } := by
  rw [shortest, shortest]
  split
  · rfl
  · split <;> exact stripZeros_eq _ _ _

theorem negative_shortest (negative : Bool) (units : Nat) :
    (shortest negative units).negative = negative :=
  congrArg Decimal.negative (shortest_eq negative units)

/-- The shortest decimal of a number denotes it. -/
theorem ofDecimal_shortest (negative : Bool) {units : Nat} (fits : Representable units) :
    ofDecimal (shortest negative units) = .finite negative units fits := by
  rw [shortest]
  by_cases hz : units = 0
  · subst hz
    rfl
  · have hu : 0 < units := Nat.pos_of_ne_zero hz
    rw [if_neg hz]
    split
    · rename_i c e hf
      rw [ofDecimal_stripZeros]
      exact ofDecimal_of_decimalUnits _ hu fits (decimalUnits_of_firstHit hf)
    · rw [ofDecimal_stripZeros]
      exact ofDecimal_of_decimalUnits _ hu fits (decimalUnits_exact fits)

theorem coefficient_shortest_ne (negative : Bool) {units : Nat} (fits : Representable units)
    (hu : units ≠ 0) : (shortest negative units).coefficient ≠ 0 := by
  intro hc
  have hd := ofDecimal_shortest negative fits
  rw [ofDecimal, if_pos hc, zero, finite.injEq] at hd
  exact hu hd.2.symm

end Binary64

end TargetedConfig
