import TargetedConfig.Binary64.Basic

/-!
# Rounding quotients

What is rounded is the value of a quotient and not the way it is written: a common factor of its
parts does not matter. A quotient whose value is a number of the format is kept.
-/

namespace TargetedConfig.Binary64

-- Powers of numbers are those of the core library, whatever else is imported.
attribute [local instance (1100)] instPowNat

/-- A whole number rounded from a quotient is one of the two next to it. -/
theorem roundDiv_eq_or (num den : Nat) :
    roundDiv num den = num / den ∨ roundDiv num den = num / den + 1 := by
  unfold roundDiv
  dsimp only
  split
  · exact .inl rfl
  · split
    · exact .inr rfl
    · split
      · exact .inl rfl
      · exact .inr rfl

theorem div_le_roundDiv (num den : Nat) : num / den ≤ roundDiv num den := by
  rcases roundDiv_eq_or num den with h | h <;> omega

theorem roundDiv_mul_right (num den : Nat) {k : Nat} (hk : 0 < k) :
    roundDiv (num * k) (den * k) = roundDiv num den := by
  have hd : num * k / (den * k) = num / den := Nat.mul_div_mul_right num den hk
  have hm : 2 * (num * k % (den * k)) = 2 * (num % den) * k := by
    rw [Nat.mul_mod_mul_right, Nat.mul_assoc]
  unfold roundDiv
  dsimp only
  rw [hd, hm]
  simp only [Nat.mul_lt_mul_right hk]

theorem roundDiv_of_mul (quotient : Nat) {den : Nat} (h : 0 < den) :
    roundDiv (quotient * den) den = quotient := by
  unfold roundDiv
  dsimp only
  rw [Nat.mul_mod_left, Nat.mul_div_cancel _ h, if_pos h]

theorem spacing_pos (units : Nat) : 0 < spacing units := Nat.two_pow_pos _

/-- A common factor of both parts of a quotient does not matter. -/
theorem roundUnits_mul_right (num den : Nat) {k : Nat} (hk : 0 < k) :
    roundUnits (num * k) (den * k) = roundUnits num den := by
  unfold roundUnits
  dsimp only
  rw [Nat.mul_div_mul_right num den hk, Nat.mul_right_comm den k, roundDiv_mul_right _ _ hk]

/-- A number of the format is kept. -/
theorem roundUnits_of_representable {units : Nat} (h : Representable units) {den : Nat}
    (hd : 0 < den) : roundUnits (units * den) den = units := by
  have hm : units / spacing units * spacing units = units := Nat.div_mul_cancel h.2
  have hs : units * den = units / spacing units * (den * spacing units) := by
    rw [Nat.mul_left_comm, hm, Nat.mul_comm]
  have hr := roundDiv_of_mul (units / spacing units) (Nat.mul_pos hd (spacing_pos units))
  rw [← hs] at hr
  unfold roundUnits
  dsimp only
  rw [Nat.mul_div_cancel _ hd, hr, hm]

/-- What is below half a unit vanishes. -/
theorem roundUnits_eq_zero {num den : Nat} (h : 2 * num < den) : roundUnits num den = 0 := by
  have hn : num < den := by omega
  have hs : spacing 0 = 1 := by decide
  unfold roundUnits roundDiv
  dsimp only
  rw [Nat.div_eq_of_lt hn, hs, Nat.mul_one, Nat.mul_one, Nat.mod_eq_of_lt hn, if_pos h,
    Nat.div_eq_of_lt hn]

theorem roundUnits_zero {den : Nat} (h : 0 < den) : roundUnits 0 den = 0 :=
  roundUnits_eq_zero h

/-- Rounding keeps a quotient above the powers of two that it reaches. -/
theorem two_pow_le_roundUnits {num den k : Nat} (h : 2 ^ k ≤ num / den) :
    2 ^ k ≤ roundUnits num den := by
  have hq : num / den ≠ 0 := Nat.ne_of_gt (Nat.lt_of_lt_of_le (Nat.two_pow_pos k) h)
  have hk : 2 ^ k ≤ 2 ^ (num / den).log2 :=
    Nat.pow_le_pow_right (by decide) ((Nat.le_log2 hq).2 h)
  have hd : spacing (num / den) ∣ 2 ^ (num / den).log2 :=
    Nat.pow_dvd_pow 2 (Nat.sub_le _ _)
  have hl : 2 ^ (num / den).log2 / spacing (num / den) ≤ num / (den * spacing (num / den)) := by
    rw [← Nat.div_div_eq_div_mul]
    exact Nat.div_le_div_right (Nat.log2_self_le hq)
  calc 2 ^ k ≤ 2 ^ (num / den).log2 := hk
    _ = 2 ^ (num / den).log2 / spacing (num / den) * spacing (num / den) :=
      (Nat.div_mul_cancel hd).symm
    _ ≤ roundUnits num den :=
      Nat.mul_le_mul_right _ (Nat.le_trans hl (div_le_roundDiv _ _))

end TargetedConfig.Binary64
