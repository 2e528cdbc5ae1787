import Mathlib.Order.Monotone.Odd
import Mathlib.Algebra.Order.Field.Rat
import Mathlib.Tactic.FieldSimp
import Mathlib.Tactic.Ring
import TargetedConfig.Proofs.Binary64.Shortest

/-!
# Rounding keeps the order

A larger quotient is never rounded to a smaller number, and neither is a larger decimal: sign,
overflow and vanishing digits keep the order of the rational numbers that decimals stand for.
Integers of at most 53 bits are numbers of the format, so that their order is kept strictly.
-/

namespace TargetedConfig

-- Powers of numbers are those of the core library, whatever else is imported.
attribute [local instance (1100)] instPowNat

namespace Binary64

theorem roundDiv_mono {n m : Nat} (den : Nat) (h : n ≤ m) : roundDiv n den ≤ roundDiv m den := by
  rcases Nat.lt_or_eq_of_le (Nat.div_le_div_right h : n / den ≤ m / den) with hlt | heq
  · have hn := roundDiv_eq_or n den
    have hm := div_le_roundDiv m den
    omega
  · have hr : n % den ≤ m % den := by
      have hn := Nat.div_add_mod n den
      have hm := Nat.div_add_mod m den
      rw [heq] at hn
      omega
    unfold roundDiv
    dsimp only
    rw [heq]
    split_ifs <;> omega

theorem log2_le {n m : Nat} (h : n ≤ m) : n.log2 ≤ m.log2 := by
  by_cases hn : n = 0
  · simp [hn]
  · exact (Nat.le_log2 (by omega)).2 (Nat.le_trans (Nat.log2_self_le hn) h)

theorem spacing_dvd_two_pow {units k : Nat} (h : units < 2 ^ k) : spacing units ∣ 2 ^ k := by
  refine Nat.pow_dvd_pow 2 ?_
  by_cases hu : units = 0
  · simp [hu]
  · have := (Nat.log2_lt hu).2 h
    omega

/-- Rounding keeps a quotient up to the powers of two that it does not reach. -/
theorem roundUnits_le_two_pow {num den k : Nat} (h : num / den < 2 ^ k) :
    roundUnits num den ≤ 2 ^ k := by
  have hd := spacing_dvd_two_pow h
  have hq : num / (den * spacing (num / den)) < 2 ^ k / spacing (num / den) := by
    rw [← Nat.div_div_eq_div_mul]
    exact Nat.div_lt_div_of_lt_of_dvd hd h
  have hr := roundDiv_eq_or num (den * spacing (num / den))
  calc roundUnits num den
      ≤ 2 ^ k / spacing (num / den) * spacing (num / den) :=
        Nat.mul_le_mul_right _ (by omega)
    _ = 2 ^ k := Nat.div_mul_cancel hd

/-- Where the spacing grows, a power of two lies between what two quotients are rounded to. -/
theorem roundUnits_mono {n m : Nat} (den : Nat) (h : n ≤ m) :
    roundUnits n den ≤ roundUnits m den := by
  have hq : n / den ≤ m / den := Nat.div_le_div_right h
  by_cases hs : (n / den).log2 = (m / den).log2
  · have he : spacing (n / den) = spacing (m / den) := by rw [spacing, spacing, hs]
    unfold roundUnits
    dsimp only
    rw [he]
    exact Nat.mul_le_mul_right _ (roundDiv_mono _ h)
  · have hl : (n / den).log2 + 1 ≤ (m / den).log2 := by
      have := log2_le hq
      omega
    have hm : m / den ≠ 0 := by
      intro hz
      rw [hz] at hl
      simp at hl
    calc roundUnits n den ≤ 2 ^ ((n / den).log2 + 1) :=
          roundUnits_le_two_pow Nat.lt_log2_self
      _ ≤ roundUnits m den := two_pow_le_roundUnits ((Nat.le_log2 hm).1 hl)

/-- What is rounded to needs at most 53 significant bits. -/
theorem spacing_roundUnits_dvd (num den : Nat) :
    spacing (roundUnits num den) ∣ roundUnits num den := by
  rcases Nat.lt_or_eq_of_le (roundUnits_le_two_pow Nat.lt_log2_self) with hlt | heq
  · have hl : (roundUnits num den).log2 ≤ (num / den).log2 := by
      by_cases hz : roundUnits num den = 0
      · simp [hz]
      · have := (Nat.log2_lt hz).2 hlt
        omega
    have hs : spacing (roundUnits num den) ∣ spacing (num / den) :=
      Nat.pow_dvd_pow 2 (Nat.sub_le_sub_right hl 52)
    exact Nat.dvd_trans hs (Nat.dvd_mul_left _ _)
  · rw [heq]
    exact Nat.pow_dvd_pow 2 (by rw [Nat.log2_two_pow]; omega)

/-! ### The order of decimals -/

def unitsOfOne : Nat := 2 ^ (1074 : Nat)

theorem unitsOfOne_pos : 0 < unitsOfOne := by
  unfold unitsOfOne
  generalize 1074 = k
  exact Nat.two_pow_pos k

/-- The units that a quotient is rounded to, cut off where the infinities are. -/
def cappedUnits (num den : Nat) : Nat := min (roundUnits (num * unitsOfOne) den) overflowUnits

theorem cappedUnits_mono {n m : Nat} (den : Nat) (h : n ≤ m) :
    cappedUnits n den ≤ cappedUnits m den :=
  min_le_min_right _ (roundUnits_mono den (Nat.mul_le_mul_right _ h))

theorem cappedUnits_zero {den : Nat} (h : 0 < den) : cappedUnits 0 den = 0 := by
  rw [cappedUnits, Nat.zero_mul, roundUnits_zero h, Nat.zero_min]

def signFactor (negative : Bool) : Int := if negative then -1 else 1

/-- The place in the order of the number next to a quotient. -/
def place (num : Int) (den : Nat) : Int := num.sign * cappedUnits num.natAbs den

theorem place_mono {n m : Int} (den : Nat) (h : n ≤ m) : place n den ≤ place m den := by
  -- Rounding leaves the sign alone, so that numbers from zero on decide.
  refine @monotone_of_odd_of_monotoneOn_nonneg _ _ _ _ _ _ _ _ (place · den)
    (fun n => by simp [place]) (fun n hn m hm h => ?_) _ _ h
  dsimp only
  have hc : (cappedUnits n.natAbs den : Int) ≤ cappedUnits m.natAbs den := by
    refine Int.ofNat_le.2 (cappedUnits_mono den ?_)
    rw [Set.mem_Ici] at hn
    omega
  rcases eq_or_lt_of_le (Set.mem_Ici.1 hn) with hz | hp
  · rw [← hz, place, Int.sign_zero, Int.zero_mul]
    exact Int.mul_nonneg (Int.sign_nonneg_iff.2 hm) (Int.natCast_nonneg _)
  · rw [place, place, Int.sign_eq_one_of_pos hp, Int.sign_eq_one_of_pos (lt_of_lt_of_le hp h),
      Int.one_mul, Int.one_mul]
    exact hc

theorem place_signed (negative : Bool) (n : Nat) {den : Nat} (h : 0 < den) :
    place (signFactor negative * n) den = signFactor negative * cappedUnits n den := by
  rcases Nat.eq_zero_or_pos n with rfl | hn
  · simp [place, cappedUnits_zero h]
  · have hs : (n : Int).sign = 1 := Int.sign_eq_one_of_pos (by omega)
    cases negative <;> simp [place, signFactor, hs]

theorem signFactor_mul_cancel {negative : Bool} {a b : Int}
    (h : signFactor negative * a = signFactor negative * b) : a = b := by
  cases negative <;> simpa [signFactor] using h

@[simp] theorem rank_zero (negative : Bool) : (zero negative).rank = some 0 := by
  cases negative <;> rfl

@[simp] theorem rank_infinite (negative : Bool) :
    (infinite negative).rank = some (signFactor negative * overflowUnits) := by
  cases negative with
  | false => simp only [rank, signFactor, Bool.false_eq_true, if_false, one_mul]
  | true => simp only [rank, signFactor, if_true, neg_mul, one_mul]

@[simp] theorem rank_finite (negative : Bool) {units : Nat} (fits : Representable units) :
    (finite negative units fits).rank = some (signFactor negative * units) := by
  cases negative with
  | false => simp only [rank, signFactor, Bool.false_eq_true, if_false, one_mul]
  | true => simp only [rank, signFactor, if_true, neg_mul, one_mul]

theorem rank_ofUnits (negative : Bool) {units : Nat} (h : spacing units ∣ units) :
    (ofUnits negative units).rank =
      some (signFactor negative * (min units overflowUnits : Nat)) := by
  by_cases hu : units < overflowUnits
  · have hr : Representable units := ⟨hu, h⟩
    rw [ofUnits_of_representable hr, min_eq_left (Nat.le_of_lt hu), rank_finite]
  · rw [ofUnits, dif_neg (fun hr => hu hr.1), min_eq_right (Nat.le_of_not_lt hu), rank_infinite]

end Binary64

namespace Decimal

open Binary64 (signFactor)

/-- The rational number that a decimal stands for. -/
def toRat (d : Decimal) : ℚ := signFactor d.negative * d.coefficient * 10 ^ d.exponent

/-- Factors ten may move between coefficient and exponent. -/
theorem toRat_mul_pow (negative : Bool) (coefficient : Nat) (exponent : Int) (k : Nat) :
    toRat ⟨negative, coefficient * 10 ^ k, exponent - k⟩ =
      toRat ⟨negative, coefficient, exponent⟩ := by
  have hp : (10 : ℚ) ^ exponent = 10 ^ k * 10 ^ (exponent - k) := by
    rw [← zpow_natCast, ← zpow_add₀ (by norm_num)]
    congr 1
    omega
  rw [toRat, toRat, hp]
  push_cast
  ring

/-- A decimal in steps of `10 ^ (-shift)`. -/
def steps (d : Decimal) (shift : Nat) : Nat := d.coefficient * 10 ^ (d.exponent + shift).toNat

theorem toRat_eq (d : Decimal) {shift : Nat} (h : 0 ≤ d.exponent + shift) :
    d.toRat = (signFactor d.negative * d.steps shift : Int) / (10 ^ shift : Nat) := by
  have he : ((d.exponent + shift).toNat : Int) = d.exponent + shift := Int.toNat_of_nonneg h
  have hp : (10 : ℚ) ^ (d.exponent + shift).toNat = 10 ^ d.exponent * 10 ^ shift := by
    rw [← zpow_natCast, he, zpow_add₀ (by norm_num), zpow_natCast]
  rw [toRat, steps]
  push_cast
  rw [hp]
  field_simp

end Decimal

namespace Binary64

theorem spacing_decimalUnits_dvd (coefficient : Nat) (exponent : Int) :
    spacing (decimalUnits coefficient exponent) ∣ decimalUnits coefficient exponent := by
  rw [decimalUnits_eq coefficient exponent (by omega : 0 ≤ exponent + (exponent.natAbs : Nat))]
  exact spacing_roundUnits_dvd _ _

/-- The cutoffs for long exponents only leave out powers of ten that decide nothing. -/
theorem rank_ofDecimal_eq (d : Decimal) :
    (ofDecimal d).rank = some (signFactor d.negative *
      (min (decimalUnits d.coefficient d.exponent) overflowUnits : Nat)) := by
  rw [ofDecimal]
  split_ifs with hc hg hl
  · rw [rank_zero, hc, decimalUnits_zero]
    simp
  · rw [rank_infinite, min_eq_right (overflowUnits_le_decimalUnits d hc hg)]
  · rw [rank_zero, decimalUnits_of_magnitude_lt d hl]
    simp
  · exact rank_ofUnits _ (spacing_decimalUnits_dvd _ _)

theorem rank_ofDecimal (d : Decimal) {shift : Nat} (h : 0 ≤ d.exponent + shift) :
    (ofDecimal d).rank = some (place (signFactor d.negative * d.steps shift) (10 ^ shift)) := by
  rw [place_signed _ _ (Nat.pow_pos (by decide)), rank_ofDecimal_eq, decimalUnits_eq _ _ h,
    cappedUnits, Decimal.steps, unitsOfOne]

/-- A decimal that is not greater has no greater number next to it. -/
theorem rank_ofDecimal_mono {d e : Decimal} (h : d.toRat ≤ e.toRat) :
    ∃ a b, (ofDecimal d).rank = some a ∧ (ofDecimal e).rank = some b ∧ a ≤ b := by
  -- In steps of one small power of ten both decimals are whole, and the quotients to round have one
  -- denominator.
  obtain ⟨shift, hd, he⟩ :
      ∃ shift : Nat, 0 ≤ d.exponent + shift ∧ 0 ≤ e.exponent + shift :=
    ⟨d.exponent.natAbs + e.exponent.natAbs, by omega, by omega⟩
  have hp : (0 : ℚ) < (10 ^ shift : Nat) := Nat.cast_pos.2 (Nat.pow_pos (by decide))
  refine ⟨_, _, rank_ofDecimal d hd, rank_ofDecimal e he, place_mono _ ?_⟩
  rw [d.toRat_eq hd, e.toRat_eq he, div_le_div_iff_of_pos_right hp] at h
  exact Int.cast_le.1 h

theorem rank_ofDecimal_congr {d e : Decimal} (h : d.toRat = e.toRat) :
    (ofDecimal d).rank = (ofDecimal e).rank := by
  obtain ⟨a, b, ha, hb, hab⟩ := rank_ofDecimal_mono h.le
  obtain ⟨b', a', hb', ha', hba⟩ := rank_ofDecimal_mono h.ge
  rw [ha] at ha' ⊢
  rw [hb] at hb' ⊢
  cases ha'
  cases hb'
  rw [le_antisymm hab hba]

/-! ### Integers -/

/-- At most 53 bits before zeros are a number of the format, unless there are too many zeros. -/
theorem representable_mul_two_pow {n k : Nat} (h : n ≤ 2 ^ (53 : Nat))
    (hk : 53 + k < overflowExponent) : Representable (n * 2 ^ k) := by
  have hle : n * 2 ^ k ≤ 2 ^ (53 + k) := by
    rw [Nat.pow_add]
    exact Nat.mul_le_mul_right _ h
  refine ⟨Nat.lt_of_le_of_lt hle (Nat.pow_lt_pow_right (by decide) hk), ?_⟩
  rcases Nat.lt_or_eq_of_le hle with hlt | heq
  · by_cases hz : n * 2 ^ k = 0
    · rw [hz]
      exact Nat.dvd_zero _
    · have hl := (Nat.log2_lt hz).2 hlt
      have hs : spacing (n * 2 ^ k) ∣ 2 ^ k := Nat.pow_dvd_pow 2 (by omega)
      exact Nat.dvd_trans hs (Nat.dvd_mul_left _ _)
  · rw [heq]
    exact Nat.pow_dvd_pow 2 (by rw [Nat.log2_two_pow]; omega)

theorem cappedUnits_of_le {n den : Nat} (h : n ≤ 2 ^ (53 : Nat)) (hd : 0 < den) :
    cappedUnits (n * den) den = n * unitsOfOne := by
  have hr : Representable (n * unitsOfOne) := by
    rw [unitsOfOne]
    exact @representable_mul_two_pow n 1074 h (by decide)
  rw [cappedUnits, Nat.mul_right_comm, roundUnits_of_representable hr hd,
    min_eq_left (Nat.le_of_lt hr.1)]

theorem place_int {a : Int} {den : Nat} (ha : |a| ≤ 2 ^ (53 : Nat)) (hd : 0 < den) :
    place (a * den) den = a * unitsOfOne := by
  have hn : a.natAbs ≤ 2 ^ (53 : Nat) := by
    rw [Int.abs_eq_natAbs] at ha
    exact_mod_cast ha
  have hs : (den : Int).sign = 1 := Int.sign_eq_one_of_pos (by omega)
  rw [place, Int.sign_mul, hs, mul_one, Int.natAbs_mul, Int.natAbs_natCast,
    cappedUnits_of_le hn hd, Nat.cast_mul, ← mul_assoc, Int.sign_mul_natAbs]

/-- An integer of at most 53 bits is a number of the format. -/
theorem rank_ofDecimal_int {d : Decimal} {a : Int} (h : d.toRat = a)
    (ha : |a| ≤ 2 ^ (53 : Nat)) : (ofDecimal d).rank = some (a * unitsOfOne) := by
  obtain ⟨shift, hd⟩ : ∃ shift : Nat, 0 ≤ d.exponent + shift := ⟨d.exponent.natAbs, by omega⟩
  have hp : 0 < 10 ^ shift := Nat.pow_pos (by decide)
  have hs : signFactor d.negative * d.steps shift = a * (10 ^ shift : Nat) := by
    rw [d.toRat_eq hd, div_eq_iff (Nat.cast_ne_zero.2 (Nat.ne_of_gt hp))] at h
    exact_mod_cast h
  rw [rank_ofDecimal d hd, hs, place_int ha hp]

end Binary64

end TargetedConfig
