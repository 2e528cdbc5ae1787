import Mathlib.Tactic.NormNum
import TargetedConfig.Proofs.Binary64.Monotone

/-!
# Where shortest decimals start

The shortest decimal of a number starts at a power of ten or above exactly when the number is not
less than the one next to this power, provided that the power itself is shown for the latter.
-/

namespace TargetedConfig.Binary64

-- Powers of numbers are those of the core library, whatever else is imported.
attribute [local instance (1100)] instPowNat

theorem decimalUnits_mono {c c' : Nat} {e e' : Int} {shift : Nat} (he : 0 ≤ e + shift)
    (he' : 0 ≤ e' + shift) (h : c * 10 ^ (e + shift).toNat ≤ c' * 10 ^ (e' + shift).toNat) :
    decimalUnits c e ≤ decimalUnits c' e' := by
  rw [decimalUnits_eq c e he, decimalUnits_eq c' e' he']
  exact roundUnits_mono _ (Nat.mul_le_mul_right _ h)

section Magnitude

variable (d : Decimal) {p : Int}

theorem decimalUnits_pow_le (hc : d.coefficient ≠ 0) (h : p ≤ d.magnitude) :
    decimalUnits 1 p ≤ decimalUnits d.coefficient d.exponent := by
  obtain ⟨shift, hp, hd⟩ : ∃ shift : Nat, 0 ≤ p + shift ∧ 0 ≤ d.exponent + shift :=
    ⟨p.natAbs + d.exponent.natAbs, by omega, by omega⟩
  have hm : (p + shift).toNat ≤ d.digits.length - 1 + (d.exponent + shift).toNat := by
    rw [Decimal.magnitude] at h
    omega
  refine decimalUnits_mono hp hd ?_
  calc 1 * 10 ^ (p + shift).toNat
      ≤ 10 ^ (d.digits.length - 1 + (d.exponent + shift).toNat) := by
        rw [Nat.one_mul]
        exact Nat.pow_le_pow_right (by decide) hm
    _ = 10 ^ (d.digits.length - 1) * 10 ^ (d.exponent + shift).toNat := Nat.pow_add _ _ _
    _ ≤ d.coefficient * 10 ^ (d.exponent + shift).toNat :=
        Nat.mul_le_mul_right _ (d.pow_le_coefficient hc)

theorem decimalUnits_le_pow (h : d.magnitude < p) :
    decimalUnits d.coefficient d.exponent ≤ decimalUnits 1 p := by
  obtain ⟨shift, hp, hd⟩ : ∃ shift : Nat, 0 ≤ p + shift ∧ 0 ≤ d.exponent + shift :=
    ⟨p.natAbs + d.exponent.natAbs, by omega, by omega⟩
  have hm : d.digits.length + (d.exponent + shift).toNat ≤ (p + shift).toNat := by
    rw [Decimal.magnitude] at h
    omega
  refine decimalUnits_mono hd hp ?_
  calc d.coefficient * 10 ^ (d.exponent + shift).toNat
      ≤ 10 ^ d.digits.length * 10 ^ (d.exponent + shift).toNat :=
        Nat.mul_le_mul_right _ (Nat.le_of_lt d.coefficient_lt_pow)
    _ = 10 ^ (d.digits.length + (d.exponent + shift).toNat) := (Nat.pow_add _ _ _).symm
    _ ≤ 1 * 10 ^ (p + shift).toNat := by
        rw [Nat.one_mul]
        exact Nat.pow_le_pow_right (by decide) hm

end Magnitude

variable {units : Nat}

/-- The shortest decimal is rounded to the number, whatever its magnitude. -/
theorem decimalUnits_shortest (negative : Bool) (fits : Representable units) :
    decimalUnits (shortest negative units).coefficient (shortest negative units).exponent =
      units := by
  have h := rank_ofDecimal_eq (shortest negative units)
  rw [ofDecimal_shortest negative fits, negative_shortest, rank_finite, Option.some.injEq] at h
  have hf := fits.1
  have hm := Int.natCast_inj.1 (signFactor_mul_cancel h)
  omega

theorem le_magnitude_shortest_iff (negative : Bool) (fits : Representable units)
    (positive : units ≠ 0) {p : Int}
    (shown : (shortest negative (decimalUnits 1 p)).magnitude = p) :
    p ≤ (shortest negative units).magnitude ↔ decimalUnits 1 p ≤ units := by
  have hd := decimalUnits_shortest negative fits
  constructor
  · intro h
    have hc := coefficient_shortest_ne negative fits positive
    exact hd ▸ decimalUnits_pow_le _ hc h
  · intro h
    -- A number that is not above the one next to the power would be this number, which starts there.
    by_contra hn
    have hle : units ≤ decimalUnits 1 p := hd ▸ decimalUnits_le_pow _ (Int.not_le.1 hn)
    rw [Nat.le_antisymm h hle] at shown
    omega

/-! ### One thousandth and ten million -/

/-- The rational number that a count of units stands for. -/
def ratOf (units : Nat) : ℚ := units / unitsOfOne

theorem magnitude_thousandth (negative : Bool) :
    (shortest negative (decimalUnits 1 (-3))).magnitude = -3 := by
  cases negative <;> decide +kernel

theorem magnitude_tenMillion (negative : Bool) :
    (shortest negative (decimalUnits 1 7)).magnitude = 7 := by
  cases negative <;> decide +kernel

theorem le_ratOf_iff {num den : Nat} (hd : 0 < den) :
    (num / den : ℚ) ≤ ratOf units ↔ num * unitsOfOne ≤ units * den := by
  have hu : (0 : ℚ) < unitsOfOne := Nat.cast_pos.2 unitsOfOne_pos
  rw [ratOf, div_le_div_iff₀ (Nat.cast_pos.2 hd) hu]
  exact_mod_cast Iff.rfl

/-- A number is not less than what it is rounded up from exactly when it is not less than what is
rounded. -/
theorem roundUnits_le_iff (fits : Representable units) {num den : Nat} (hd : 0 < den)
    (up : num * unitsOfOne ≤ roundUnits (num * unitsOfOne) den * den) :
    roundUnits (num * unitsOfOne) den ≤ units ↔ (num / den : ℚ) ≤ ratOf units := by
  rw [le_ratOf_iff hd]
  constructor
  · intro h
    exact Nat.le_trans up (Nat.mul_le_mul_right den h)
  · intro h
    exact roundUnits_of_representable fits hd ▸ roundUnits_mono den h

theorem decimalUnits_thousandth_le_iff (fits : Representable units) :
    decimalUnits 1 (-3) ≤ units ↔ 1 / 1000 ≤ ratOf units := by
  have he : decimalUnits 1 (-3) = roundUnits (1 * unitsOfOne) 1000 := by decide +kernel
  have hr := roundUnits_le_iff fits (by decide : 0 < 1000)
    (by decide +kernel : 1 * unitsOfOne ≤ roundUnits (1 * unitsOfOne) 1000 * 1000)
  rw [he, hr]
  norm_num

theorem decimalUnits_tenMillion_le_iff (fits : Representable units) :
    decimalUnits 1 7 ≤ units ↔ 10000000 ≤ ratOf units := by
  have he : decimalUnits 1 7 = roundUnits (10000000 * unitsOfOne) 1 := by decide +kernel
  have hr := roundUnits_le_iff fits (by decide : 0 < 1)
    (by decide +kernel : 10000000 * unitsOfOne ≤ roundUnits (10000000 * unitsOfOne) 1 * 1)
  rw [he, hr]
  norm_num

theorem magnitude_shortest_iff_units (negative : Bool) (fits : Representable units)
    (positive : units ≠ 0) :
    (-3 ≤ (shortest negative units).magnitude ∧ (shortest negative units).magnitude < 7) ↔
      decimalUnits 1 (-3) ≤ units ∧ units < decimalUnits 1 7 := by
  have low := le_magnitude_shortest_iff negative fits positive (magnitude_thousandth negative)
  have high := le_magnitude_shortest_iff negative fits positive (magnitude_tenMillion negative)
  rw [← low, ← not_le, high, not_le]

/-- Signals are written positionally from one thousandth up to ten million. -/
theorem magnitude_shortest_iff (negative : Bool) (fits : Representable units)
    (positive : units ≠ 0) :
    (-3 ≤ (shortest negative units).magnitude ∧ (shortest negative units).magnitude < 7) ↔
      1 / 1000 ≤ ratOf units ∧ ratOf units < 10000000 := by
  rw [magnitude_shortest_iff_units negative fits positive, decimalUnits_thousandth_le_iff fits,
    ← not_le, decimalUnits_tenMillion_le_iff fits, not_le]

end TargetedConfig.Binary64
