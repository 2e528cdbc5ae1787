import TargetedConfig.Proofs.Binary64.Nearest

/-!
# Where decimals overflow

A decimal is never rounded to something that is not a number. It is rounded to an infinity, that of
its own sign, exactly when its absolute value is `2 ^ 1024 - 2 ^ 970` or more. This bound lies halfway
between the largest finite number and the power of two above it, whose significant bits end in zero.
-/

namespace TargetedConfig.Binary64

-- Powers of numbers are those of the core library, whatever else is imported.
attribute [local instance (1100)] instPowNat

variable {num den : Nat} {negative : Bool} {d : Decimal}

/-- A quotient reaches an even count from one half below it on. -/
theorem le_roundDiv_iff (positive : 0 < den) {count : Nat} (even : 2 ∣ count) (least : 0 < count) :
    count ≤ roundDiv num den ↔ (2 * count - 1) * den ≤ 2 * num := by
  have hm : num % den < den := Nat.mod_lt num positive
  have hn : den * (num / den) + num % den = num := Nat.div_add_mod num den
  have hr := roundDiv_eq_or num den
  rcases Nat.lt_trichotomy (num / den + 1) count with hlt | heq | hgt
  · -- More than one half is missing.
    have hc : (2 * (num / den) + 3) * den ≤ (2 * count - 1) * den :=
      Nat.mul_le_mul_right _ (by omega)
    have hs : (2 * (num / den) + 3) * den = 2 * (den * (num / den)) + 3 * den := by ring
    omega
  · -- The count is the next one, and the one below it is odd.
    subst heq
    have hs : (2 * (num / den + 1) - 1) * den = 2 * (den * (num / den)) + den := by
      have ho : 2 * (num / den + 1) - 1 = 2 * (num / den) + 1 := by omega
      rw [ho]
      ring
    have hd : num / den + 1 ≤ roundDiv num den ↔ den ≤ 2 * (num % den) := by
      unfold roundDiv
      dsimp only
      split_ifs <;> omega
    rw [hd, hs]
    omega
  · have hl := div_le_roundDiv num den
    have hc : (2 * count - 1) * den ≤ 2 * (num / den) * den :=
      Nat.mul_le_mul_right _ (by omega)
    have hs : 2 * (num / den) * den = 2 * (den * (num / den)) := by ring
    omega

/-- A quotient reaches a power of two from half a step of the 53 bits below it on. -/
theorem two_pow_le_roundUnits_iff (positive : 0 < den) (k : Nat) :
    2 ^ (k + 54) ≤ roundUnits num den ↔ (2 ^ 54 - 1) * (2 ^ k * den) ≤ num := by
  have hp : 2 ^ (k + 54) = 2 ^ 54 * 2 ^ k := by rw [Nat.add_comm, Nat.pow_add]
  have hh : 2 ^ (k + 53) = 2 ^ 53 * 2 ^ k := by rw [Nat.add_comm, Nat.pow_add]
  by_cases high : 2 ^ (k + 54) ≤ num / den
  · have hn : 2 ^ (k + 54) * den ≤ num := (Nat.le_div_iff_mul_le positive).1 high
    have hc : (2 ^ 54 - 1) * (2 ^ k * den) ≤ 2 ^ (k + 54) * den := by
      rw [hp, Nat.mul_assoc]
      exact Nat.mul_le_mul_right _ (by decide)
    exact iff_of_true (two_pow_le_roundUnits high) (Nat.le_trans hc hn)
  · by_cases low : num / den < 2 ^ (k + 53)
    · have hr := roundUnits_le_two_pow low
      have hn : num < 2 ^ (k + 53) * den := (Nat.div_lt_iff_lt_mul positive).1 low
      have hc : 2 ^ (k + 53) * den ≤ (2 ^ 54 - 1) * (2 ^ k * den) := by
        rw [hh, Nat.mul_assoc]
        exact Nat.mul_le_mul_right _ (by decide)
      have hk := Nat.two_pow_pos k
      exact iff_of_false (by omega) (by omega)
    · -- In between the steps are those of the power of two below.
      have hl : (num / den).log2 = k + 53 := by
        have hz : num / den ≠ 0 := by
          have := Nat.two_pow_pos (k + 53)
          omega
        exact (Nat.log2_eq_iff hz).2 ⟨Nat.not_lt.1 low, Nat.not_le.1 high⟩
      have hs : spacing (num / den) = 2 * 2 ^ k := by
        rw [spacing, hl, ← Nat.pow_succ']
        congr 1
      have hd : 0 < den * (2 * 2 ^ k) := Nat.mul_pos positive (by positivity)
      have hu : 2 ^ (k + 54) ≤ roundUnits num den ↔ 2 ^ 53 ≤ roundDiv num (den * (2 * 2 ^ k)) := by
        have hq : 2 ^ (k + 54) = 2 ^ 53 * (2 * 2 ^ k) := by
          rw [hp]
          ring
        unfold roundUnits
        dsimp only
        rw [hs, hq]
        exact Nat.mul_le_mul_right_iff (by positivity)
      have ht : (2 * 2 ^ 53 - 1) * (den * (2 * 2 ^ k)) = 2 * ((2 ^ 54 - 1) * (2 ^ k * den)) := by
        ring
      rw [hu, le_roundDiv_iff hd (by decide) (by decide), ht]
      exact Nat.mul_le_mul_left_iff (by decide)

/-- The same for quotients in units, of which a power of two makes up the number one. -/
theorem two_pow_le_roundUnits_mul_iff (positive : 0 < den) (num half unit : Nat) :
    2 ^ (half + 54 + unit) ≤ roundUnits (num * 2 ^ unit) den ↔
      (2 ^ 54 - 1) * 2 ^ half * den ≤ num := by
  have he : half + 54 + unit = half + unit + 54 := by omega
  have hm : (2 ^ 54 - 1) * (2 ^ (half + unit) * den) =
      (2 ^ 54 - 1) * 2 ^ half * den * 2 ^ unit := by
    rw [Nat.pow_add]
    ring
  rw [he, two_pow_le_roundUnits_iff positive, hm]
  exact Nat.mul_le_mul_right_iff (Nat.two_pow_pos unit)

/-- What a decimal is rounded to. -/
theorem ofDecimal_eq (d : Decimal) :
    ofDecimal d = ofUnits d.negative (decimalUnits d.coefficient d.exponent) := by
  by_cases h : decimalUnits d.coefficient d.exponent < overflowUnits
  · have fits : Representable (decimalUnits d.coefficient d.exponent) :=
      ⟨h, spacing_decimalUnits_dvd _ _⟩
    rw [ofDecimal_of_fits d fits, ofUnits_of_representable fits]
  · have hu : ofUnits d.negative (decimalUnits d.coefficient d.exponent) =
        .infinite d.negative := dif_neg fun fits => h fits.1
    have hp : 0 < overflowUnits := Nat.two_pow_pos _
    rw [hu, ofDecimal]
    split_ifs with hc hg hl
    · rw [hc, decimalUnits_zero] at h
      exact absurd hp h
    · rfl
    · rw [decimalUnits_of_magnitude_lt d hl] at h
      exact absurd hp h
    · exact hu

/-- A decimal is rounded to a number. -/
theorem ofDecimal_ne_nan (d : Decimal) : ofDecimal d ≠ .nan := by
  rw [ofDecimal_eq, ofUnits]
  split <;> simp

theorem ofDecimal_eq_infinite_iff_units : ofDecimal d = .infinite negative ↔
    negative = d.negative ∧ overflowUnits ≤ decimalUnits d.coefficient d.exponent := by
  have hr : Representable (decimalUnits d.coefficient d.exponent) ↔
      ¬overflowUnits ≤ decimalUnits d.coefficient d.exponent := by
    rw [Nat.not_le]
    exact and_iff_left (spacing_decimalUnits_dvd _ _)
  rw [ofDecimal_eq, ofUnits]
  split
  · rename_i fits
    simp [hr.1 fits]
  · rename_i fits
    rw [Binary64.infinite.injEq, eq_comm]
    exact (and_iff_left (Classical.not_not.1 fun h => fits (hr.2 h))).symm

theorem abs_toRat (d : Decimal) {shift : Nat} (h : 0 ≤ d.exponent + shift) :
    |d.toRat| = (d.steps shift : ℚ) / (10 ^ shift : Nat) := by
  rw [d.toRat_eq h, abs_div, Nat.abs_cast, Int.cast_mul, abs_mul, abs_signFactor, one_mul,
    Int.cast_natCast, Nat.abs_cast]

theorem overflowUnits_le_decimalUnits_iff (d : Decimal) {shift half : Nat}
    (h : 0 ≤ d.exponent + shift) (hh : half + 54 + 1074 = overflowExponent) :
    overflowUnits ≤ decimalUnits d.coefficient d.exponent ↔
      (2 ^ 54 - 1) * 2 ^ half * 10 ^ shift ≤ d.steps shift := by
  rw [decimalUnits_eq _ _ h, overflowUnits, ← hh, Decimal.steps,
    two_pow_le_roundUnits_mul_iff (Nat.pow_pos (by decide))]

/-- Decimals overflow from the middle between the largest finite number and the next power of two
on, and nowhere below it. -/
theorem ofDecimal_eq_infinite_iff : ofDecimal d = .infinite negative ↔
    negative = d.negative ∧ (2 ^ 1024 - 2 ^ 970 : ℚ) ≤ |d.toRat| := by
  obtain ⟨shift, hs⟩ : ∃ shift : Nat, 0 ≤ d.exponent + shift := ⟨d.exponent.natAbs, by omega⟩
  have hp : (0 : ℚ) < (10 ^ shift : Nat) := Nat.cast_pos.2 (Nat.pow_pos (by decide))
  have hb (half : Nat) : (2 ^ (half + 54) - 2 ^ half : ℚ) = ((2 ^ 54 - 1) * 2 ^ half : Nat) := by
    push_cast
    rw [pow_add]
    ring
  have hu (half : Nat) (hh : half + 54 + 1074 = overflowExponent) :
      overflowUnits ≤ decimalUnits d.coefficient d.exponent ↔
        (2 ^ (half + 54) - 2 ^ half : ℚ) ≤ |d.toRat| := by
    rw [overflowUnits_le_decimalUnits_iff d hs hh, abs_toRat d hs, hb, le_div_iff₀ hp,
      ← Nat.cast_mul, Nat.cast_le]
  rw [ofDecimal_eq_infinite_iff_units, hu 970 rfl]

end TargetedConfig.Binary64
