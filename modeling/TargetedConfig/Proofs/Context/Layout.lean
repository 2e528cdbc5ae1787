import Mathlib.Data.List.DropRight
import TargetedConfig.Proofs.Context.Numbers
import TargetedConfig.Proofs.Targeting.Numbers
import TargetedConfig.Proofs.Text.Integer

/-!
# The text of a number in steps

The text of a number as a signal can be made from its usual text. Near one it is this text, and
otherwise the digits that this text shows are laid out anew, the point behind the first of them.
-/

namespace TargetedConfig

-- Powers of numbers are those of the core library, whatever else is imported.
attribute [local instance (1100)] instPowNat

namespace Numeral

/-- Zero, or a number that is not less than one thousandth and less than ten million. -/
def isPlain (x : Binary64) : Bool :=
  Binary64.compares .equal x.rank (some 0) ||
    (Binary64.compares .lessEqual (Binary64.ofDecimal ⟨false, 1, -3⟩).rank x.rank &&
      Binary64.compares .less x.rank (Binary64.ofDecimal ⟨false, 1, 7⟩).rank)

/-- The digits of a decimal without the zeros at their end, with a point behind the first digit and
the power of ten of this digit. -/
def relaid? (negative : Bool) (d : Decimal) : Option (List Char) :=
  let exponent : Int := d.digits.length + d.exponent - 1
  match d.digits.rdropWhile (· = '0') with
  | [] => none
  | first :: rest =>
    let fraction := if rest.isEmpty then ['0'] else rest
    some (minus negative ++ first :: '.' :: (fraction ++ 'E' :: (toString exponent).toList))

/-- The text of a number in steps. -/
def staged? : Binary64 → Option String
  | .nan => some "NaN"
  | .infinite negative => some (if negative then "-Infinity" else "Infinity")
  | .finite negative units fits =>
    let value : Binary64 := .finite negative units fits
    let magnitude : Binary64 := .finite false units fits
    if isPlain magnitude then some (version.render value)
    else
      match Literal.read? (version.render magnitude).toList with
      | some (.decimal d) =>
        (relaid? (Binary64.compares .less value.rank (some 0)) d).map String.ofList
      | _ => none

theorem isPlain_iff {units : Nat} (fits : Binary64.Representable units) :
    isPlain (.finite false units fits) = true ↔
      units = 0 ∨
        Binary64.decimalUnits 1 (-3) ≤ units ∧ units < Binary64.decimalUnits 1 7 := by
  have low : (Binary64.ofDecimal ⟨false, 1, -3⟩).rank =
      some (Binary64.decimalUnits 1 (-3) : Int) := by decide +kernel
  have high : (Binary64.ofDecimal ⟨false, 1, 7⟩).rank =
      some (Binary64.decimalUnits 1 7 : Int) := by decide +kernel
  have hr : (Binary64.finite false units fits).rank = some (units : Int) := rfl
  simp only [isPlain, low, high, hr, Binary64.compares, Bool.or_eq_true, Bool.and_eq_true,
    Relation.holds_compare, Relation.Relates]
  omega

/-- Plain numbers are those that the layout of signals writes without an exponent. -/
theorem isPlain_iff_magnitude (negative : Bool) {units : Nat}
    (fits : Binary64.Representable units) :
    isPlain (.finite false units fits) = true ↔
      signal.positionalFrom ≤ (Binary64.shortest negative units).magnitude ∧
        (Binary64.shortest negative units).magnitude < signal.positionalBelow := by
  rw [isPlain_iff]
  by_cases positive : units = 0
  · rw [positive, Binary64.shortest, if_pos rfl]
    cases negative <;> decide
  · rw [or_iff_right positive, ← Binary64.magnitude_shortest_iff_units negative fits positive]
    rfl

theorem writeDecimal_of_positional {layout : Numeral} {d : Decimal}
    (h : layout.positionalFrom ≤ d.magnitude ∧ d.magnitude < layout.positionalBelow) :
    layout.writeDecimal d = minus d.negative ++ positional d.digits d.magnitude := by
  rw [writeDecimal, if_pos h, minus]

/-- Where signals have no exponent, the usual text has none either. -/
theorem writeDecimal_version {d : Decimal}
    (h : signal.positionalFrom ≤ d.magnitude ∧ d.magnitude < signal.positionalBelow) :
    version.writeDecimal d = signal.writeDecimal d := by
  have hv : version.positionalFrom ≤ d.magnitude ∧ d.magnitude < version.positionalBelow :=
    ⟨Int.le_trans (by decide) h.1, Int.lt_of_lt_of_le h.2 (by decide)⟩
  rw [writeDecimal_of_positional hv, writeDecimal_of_positional h]

theorem rdropWhile_zeros (digits : List Char) (k : Nat) :
    (digits ++ List.replicate k '0').rdropWhile (· = '0') = digits.rdropWhile (· = '0') := by
  induction k with
  | zero => rw [List.replicate_zero, List.append_nil]
  | succ k ih =>
    rw [List.replicate_succ', ← List.append_assoc, List.rdropWhile_concat_pos _ _ _ rfl, ih]

theorem rdropWhile_digits {d : Decimal} (hc : d.coefficient % 10 ≠ 0) :
    d.digits.rdropWhile (· = '0') = d.digits := by
  rw [List.rdropWhile_eq_self_iff]
  intro hne hz
  apply Decimal.getLast?_digits_ne hc
  rw [List.getLast?_eq_some_getLast hne, of_decide_eq_true hz]

/-- Factors ten in the coefficient do not change what is laid out. -/
theorem relaid?_mul_pow {d : Decimal} (hc : d.coefficient % 10 ≠ 0)
    (h : ¬(signal.positionalFrom ≤ d.magnitude ∧ d.magnitude < signal.positionalBelow)) (k : Nat)
    (negative : Bool) :
    relaid? d.negative ⟨negative, d.coefficient * 10 ^ k, d.exponent - k⟩ =
      some (signal.writeDecimal d) := by
  have hz : d.coefficient ≠ 0 := by
    rintro hz
    exact hc (by rw [hz])
  have hdigits : Nat.toDigits 10 (d.coefficient * 10 ^ k) = d.digits ++ List.replicate k '0' :=
    Decimal.toDigits_mul_pow hz k
  have hm : ((d.digits ++ List.replicate k '0').length : Int) + (d.exponent - k) - 1 =
      d.magnitude := by
    rw [List.length_append, List.length_replicate, Decimal.magnitude]
    omega
  have hs : (toString d.magnitude).toList =
      minus (decide (d.magnitude < 0)) ++ Nat.toDigits 10 d.magnitude.natAbs := by
    rw [Text.toList_toString, minus]
    simp only [decide_eq_true_iff]
  obtain ⟨first, rest, hd⟩ := List.exists_cons_of_length_pos d.length_digits_pos
  rw [relaid?, Decimal.digits, hdigits, hm, hs, rdropWhile_zeros, rdropWhile_digits hc,
    writeDecimal, if_neg h, scientific_eq, pointText_signal, exponentText_signal, hd]
  rfl

/-- Below zero are the numbers with a sign, zero excepted. -/
theorem less_zero_iff (negative : Bool) {units : Nat} (fits : Binary64.Representable units)
    (positive : units ≠ 0) :
    Binary64.compares .less (Binary64.finite negative units fits).rank (some 0) = true ↔
      negative = true := by
  rw [Binary64.rank, Binary64.compares, Relation.holds_compare, Relation.Relates]
  cases negative with
  | false => simp
  | true =>
    have hn : -(units : Int) < 0 := by omega
    simpa using hn

/-- The steps give the text of the number. -/
theorem staged?_eq (v : Binary64) : staged? v = some (signal.render v) := by
  cases v with
  | nan => rfl
  | infinite negative => cases negative <;> rfl
  | finite negative units fits =>
    rw [staged?]
    by_cases hp : isPlain (.finite false units fits) = true
    · have hm := (isPlain_iff_magnitude negative fits).1 hp
      rw [if_pos hp, render, render, write, write, writeDecimal_version hm]
    · have hm := mt (isPlain_iff_magnitude negative fits).2 hp
      have positive : units ≠ 0 := fun hz => hp ((isPlain_iff fits).2 (.inl hz))
      have hc := Binary64.coefficient_shortest_mod negative fits positive
      have hneg : Binary64.compares .less (Binary64.finite negative units fits).rank (some 0) =
          (Binary64.shortest negative units).negative := by
        rw [Binary64.negative_shortest, Bool.eq_iff_iff, less_zero_iff negative fits positive]
      obtain ⟨k, hs⟩ := spells_writeDecimal version (.inl rfl) (Binary64.shortest false units)
      have hr : Literal.read? (version.render (.finite false units fits)).toList =
          some (.decimal ⟨false, (Binary64.shortest negative units).coefficient * 10 ^ k,
            (Binary64.shortest negative units).exponent - k⟩) := by
        rw [toList_render, Literal.read?_eq_some_iff, Binary64.shortest_eq negative]
        rwa [Binary64.negative_shortest] at hs
      rw [if_neg hp, hr]
      dsimp only
      rw [hneg, relaid?_mul_pow hc hm, Option.map_some, render, write]

end Numeral

/-- What a number becomes when it is given as a signal is the text that the steps make of it. -/
theorem Signal.text_float_eq_ok_iff {v : Binary64} {text : String} :
    (Signal.float v).text = .ok text ↔ Numeral.staged? v = some text := by
  rw [Signal.text, Numeral.staged?_eq, Except.ok.injEq, Option.some.injEq]

end TargetedConfig
