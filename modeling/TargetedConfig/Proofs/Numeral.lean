import TargetedConfig.Numeral
import TargetedConfig.Proofs.Binary64.Literal
import TargetedConfig.Proofs.Binary64.Shortest

/-!
# Written numbers are literals

Positional notation and notation with an exponent put the digits of a decimal around a point. A
layout that marks exponents as literals do writes a literal of the same value, so that finite numbers
are read back from it.
-/

namespace TargetedConfig

-- Powers of numbers are those of the core library, whatever else is imported.
attribute [local instance (1100)] instPowNat

namespace Decimal

theorem isDigit_toDigits (n : Nat) : ∀ c ∈ Nat.toDigits 10 n, c.isDigit = true :=
  fun _ h => Nat.isDigit_of_mem_toDigits (by decide) (by decide) h

theorem isDigit_digits (d : Decimal) : ∀ c ∈ d.digits, c.isDigit = true :=
  isDigit_toDigits d.coefficient

theorem isDigit_zeros (n : Nat) : ∀ c ∈ List.replicate n '0', c.isDigit = true := by
  intro c h
  rw [List.eq_of_mem_replicate h]
  decide

theorem length_digits_pos (d : Decimal) : 0 < d.digits.length := Nat.length_toDigits_pos

theorem exponent_eq (d : Decimal) : d.exponent = d.magnitude + 1 - d.digits.length := by
  rw [magnitude]
  omega

theorem ofDigitChars_digits (d : Decimal) : Nat.ofDigitChars 10 d.digits 0 = d.coefficient :=
  Nat.ofDigitChars_ten_toDigits

theorem ofDigitChars_split (d : Decimal) (k : Nat) :
    Nat.ofDigitChars 10 (d.digits.take k ++ d.digits.drop k) 0 = d.coefficient := by
  rw [List.take_append_drop, ofDigitChars_digits]

theorem ofDigitChars_padded (d : Decimal) (k : Nat) :
    Nat.ofDigitChars 10 (d.digits ++ List.replicate k '0') 0 = d.coefficient * 10 ^ k := by
  rw [Nat.ofDigitChars_append, Nat.ofDigitChars_replicate_zero, ofDigitChars_digits, Nat.mul_comm]

/-- The digits of a positive number do not start with a zero. -/
theorem head?_toDigits_ne {n : Nat} (h : n ≠ 0) : (Nat.toDigits 10 n).head? ≠ some '0' := by
  induction n using Nat.strongRecOn with
  | ind n ih =>
    rw [Nat.toDigits_eq_if (by decide)]
    split
    · rename_i hn
      have hd : ∀ d < 10, d ≠ 0 → Nat.digitChar d ≠ '0' := by decide
      simpa using hd n hn h
    · rename_i hn
      have hq : n / 10 ≠ 0 := by omega
      have hne : Nat.toDigits 10 (n / 10) ≠ [] := Nat.toDigits_ne_nil
      have hi := ih (n / 10) (by omega) hq
      rcases he : Nat.toDigits 10 (n / 10) with _ | ⟨c, cs⟩
      · exact absurd he hne
      · rw [he] at hi
        exact hi

/-- Digits before and behind a point that stand, with an exponent, for a decimal with `k` factors ten
more in its coefficient. -/
structure Shows (d : Decimal) (whole fraction : List Char) (exponent : Int) (k : Nat) : Prop where
  isDigit_whole : ∀ c ∈ whole, c.isDigit = true
  isDigit_fraction : ∀ c ∈ fraction, c.isDigit = true
  whole_ne : whole ≠ []
  coefficient_eq : Nat.ofDigitChars 10 (whole ++ fraction) 0 = d.coefficient * 10 ^ k
  exponent_eq : exponent - fraction.length = d.exponent - k

/-- The number next to what is shown is the one next to the decimal. -/
theorem Shows.ofDecimal_eq {d : Decimal} {whole fraction : List Char} {exponent : Int} {k : Nat}
    (h : d.Shows whole fraction exponent k) :
    Binary64.ofDecimal ⟨d.negative, Nat.ofDigitChars 10 (whole ++ fraction) 0,
      exponent - fraction.length⟩ = Binary64.ofDecimal d := by
  rw [h.coefficient_eq, h.exponent_eq]
  exact Binary64.ofDecimal_mul_pow d.negative d.coefficient d.exponent k

section Shows

variable (d : Decimal) {exponent : Int}

/-- The point stands between the digits. -/
theorem shows_split {m : Nat} (hm : m < d.digits.length) (he : exponent = d.magnitude - m) :
    d.Shows (d.digits.take (m + 1)) (d.digits.drop (m + 1)) exponent 0 where
  isDigit_whole c h := d.isDigit_digits c (List.mem_of_mem_take h)
  isDigit_fraction c h := d.isDigit_digits c (List.mem_of_mem_drop h)
  whole_ne h := by
    have hl := congrArg List.length h
    rw [List.length_take, List.length_nil] at hl
    omega
  coefficient_eq := by rw [ofDigitChars_split, Nat.pow_zero, Nat.mul_one]
  exponent_eq := by
    rw [List.length_drop, he, d.exponent_eq]
    omega

/-- The digits and zeros stand before the point. -/
theorem shows_padded {k : Nat} (he : exponent = d.exponent - k) :
    d.Shows (d.digits ++ List.replicate k '0') ['0'] exponent (k + 1) where
  isDigit_whole := List.forall_mem_append.2 ⟨d.isDigit_digits, isDigit_zeros k⟩
  isDigit_fraction := isDigit_zeros 1
  whole_ne h := by
    have hl := congrArg List.length (List.append_eq_nil_iff.1 h).1
    have hp := d.length_digits_pos
    rw [List.length_nil] at hl
    omega
  coefficient_eq := by
    rw [List.append_assoc, ← List.replicate_succ', ofDigitChars_padded]
  exponent_eq := by
    rw [List.length_singleton, he]
    omega

/-- Zeros and the digits stand behind the point. -/
theorem shows_small {k : Nat} (he : exponent = d.exponent + k + d.digits.length) :
    d.Shows ['0'] (List.replicate k '0' ++ d.digits) exponent 0 where
  isDigit_whole := isDigit_zeros 1
  isDigit_fraction := List.forall_mem_append.2 ⟨isDigit_zeros k, d.isDigit_digits⟩
  whole_ne := List.cons_ne_nil _ _
  coefficient_eq := by
    have hz : ['0'] ++ (List.replicate k '0' ++ d.digits) =
        List.replicate (k + 1) '0' ++ d.digits := rfl
    rw [hz, Nat.ofDigitChars_append, Nat.ofDigitChars_replicate_zero, Nat.mul_zero,
      ofDigitChars_digits, Nat.pow_zero, Nat.mul_one]
  exponent_eq := by
    rw [List.length_append, List.length_replicate, he]
    omega

end Shows

end Decimal

namespace Numeral

open Decimal Literal

/-- Positional notation shows a decimal without an exponent. What stands before the point is a zero
or starts like the digits of the decimal, and is not longer than its magnitude tells. -/
theorem exists_positional (d : Decimal) :
    ∃ whole fraction k, positional d.digits d.magnitude = whole ++ '.' :: fraction ∧
      d.Shows whole fraction 0 k ∧ fraction ≠ [] ∧
      (whole = ['0'] ∨ whole.head? = d.digits.head?) ∧
      whole.length ≤ max 1 (d.magnitude + 1) := by
  have he := d.exponent_eq
  have hp := d.length_digits_pos
  have hd : d.digits ≠ [] := List.ne_nil_of_length_pos hp
  unfold positional
  cases hm : d.magnitude with
  | ofNat m =>
    have hm : d.magnitude = m := hm
    rw [Int.ofNat_eq_natCast]
    dsimp only
    split
    · rename_i hl
      have hh : (d.digits ++ List.replicate (m + 1 - d.digits.length) '0').head? =
          d.digits.head? := by
        rw [List.head?_append, List.head?_eq_some_head hd, Option.some_or]
      have hs : d.Shows (d.digits ++ List.replicate (m + 1 - d.digits.length) '0') ['0'] 0 _ :=
        d.shows_padded (by omega)
      refine ⟨_, _, _, rfl, hs, List.cons_ne_nil _ _, .inr hh, ?_⟩
      rw [List.length_append, List.length_replicate]
      omega
    · rename_i hl
      have hs : d.Shows (d.digits.take (m + 1)) (d.digits.drop (m + 1)) 0 0 :=
        d.shows_split (by omega) (by omega)
      have hf : d.digits.drop (m + 1) ≠ [] :=
        List.ne_nil_of_length_pos (by rw [List.length_drop]; omega)
      refine ⟨_, _, _, rfl, hs, hf, .inr ?_, ?_⟩
      · rw [List.head?_take, if_neg (Nat.succ_ne_zero m)]
      · rw [List.length_take]
        omega
  | negSucc m =>
    have hs : d.Shows ['0'] (List.replicate m '0' ++ d.digits) 0 0 := d.shows_small (by omega)
    refine ⟨_, _, _, rfl, hs, ?_, .inl rfl, ?_⟩
    · exact fun h => hd (List.append_eq_nil_iff.1 h).2
    · rw [List.length_singleton]
      omega

/-- What a layout writes behind the first digit in front of an exponent. -/
def pointText (layout : Numeral) (fraction : List Char) : List Char :=
  if fraction.isEmpty then (if layout.mantissaPoint then ['.', '0'] else []) else '.' :: fraction

/-- What a layout writes behind the mark of an exponent. -/
def exponentText (layout : Numeral) (exponent : Int) : List Char :=
  (if exponent < 0 then ['-'] else if layout.exponentPlus then ['+'] else []) ++
    (List.replicate (layout.exponentWidth - (Nat.toDigits 10 exponent.natAbs).length) '0' ++
      Nat.toDigits 10 exponent.natAbs)

theorem scientific_eq (layout : Numeral) (digits : List Char) (magnitude : Int) :
    scientific layout digits magnitude = digits.take 1 ++ (layout.pointText (digits.drop 1) ++
      layout.exponentMark :: layout.exponentText magnitude) := by
  rw [scientific, pointText, exponentText]
  simp only [List.append_assoc, List.cons_append]

/-- Notation with an exponent puts the point behind the first digit. -/
theorem exists_fraction (layout : Numeral) (d : Decimal) :
    ∃ fraction k, IsFraction (layout.pointText (d.digits.drop 1)) fraction ∧
      d.Shows (d.digits.take 1) fraction d.magnitude k := by
  have hp := d.length_digits_pos
  have hs : d.Shows (d.digits.take 1) (d.digits.drop 1) d.magnitude 0 :=
    d.shows_split hp (by omega)
  unfold pointText
  split
  · rename_i hn
    have hd : d.digits.drop 1 = [] := List.isEmpty_iff.1 hn
    split
    · have hl : d.digits.length ≤ 1 := List.drop_eq_nil_iff.1 hd
      have ht : d.digits ++ List.replicate 0 '0' = d.digits.take 1 := by
        rw [List.replicate_zero, List.append_nil, List.take_of_length_le hl]
      have he := d.exponent_eq
      have hz : d.Shows (d.digits ++ List.replicate 0 '0') ['0'] d.magnitude 1 :=
        d.shows_padded (by omega)
      exact ⟨_, _, .point (isDigit_zeros 1), ht ▸ hz⟩
    · rw [hd] at hs
      exact ⟨_, _, .absent, hs⟩
  · exact ⟨_, _, .point hs.isDigit_fraction, hs⟩

theorem toList_render (layout : Numeral) (negative : Bool) {units : Nat}
    (fits : Binary64.Representable units) :
    (layout.render (.finite negative units fits)).toList =
      layout.writeDecimal (Binary64.shortest negative units) := by
  rw [render, write, String.toList_ofList]

section Layout

variable (layout : Numeral) (mark_eq : layout.exponentMark = 'e' ∨ layout.exponentMark = 'E')
include mark_eq

theorem isExponent (exponent : Int) :
    IsExponent (layout.exponentMark :: layout.exponentText exponent) exponent := by
  have hs : IsSign (if exponent < 0 then ['-'] else if layout.exponentPlus then ['+'] else [])
      (decide (exponent < 0)) := by
    by_cases hn : exponent < 0
    · rw [if_pos hn, decide_eq_true hn]
      exact .minus
    · rw [if_neg hn, decide_eq_false hn]
      cases layout.exponentPlus with
      | false => exact .absent
      | true => exact .plus
  have hd (k : Nat) :
      ∀ c ∈ List.replicate k '0' ++ Nat.toDigits 10 exponent.natAbs, c.isDigit = true :=
    List.forall_mem_append.2 ⟨isDigit_zeros k, isDigit_toDigits _⟩
  have hn (k : Nat) : List.replicate k '0' ++ Nat.toDigits 10 exponent.natAbs ≠ [] :=
    fun h => Nat.toDigits_ne_nil (List.append_eq_nil_iff.1 h).2
  have hv : (if decide (exponent < 0) = true then -(exponent.natAbs : Int) else exponent.natAbs) =
      exponent := by
    simp only [decide_eq_true_iff]
    split <;> omega
  have he : IsExponent (layout.exponentMark :: layout.exponentText exponent) _ :=
    .marked mark_eq hs (hd _) (hn _)
  rwa [Nat.ofDigitChars_append, Nat.ofDigitChars_replicate_zero, Nat.mul_zero,
    Nat.ofDigitChars_ten_toDigits, hv] at he

/-- A decimal is written as a literal that stands for it. -/
theorem spells_writeDecimal (d : Decimal) :
    ∃ k : Nat, Spells (layout.writeDecimal d)
      (.decimal ⟨d.negative, d.coefficient * 10 ^ k, d.exponent - k⟩) := by
  have hsign : IsSign (if d.negative then ['-'] else []) d.negative := by
    cases d.negative with
    | false => exact .absent
    | true => exact .minus
  have spells {whole point fraction mark : List Char} {exponent : Int} {k : Nat}
      (hf : IsFraction point fraction) (hs : d.Shows whole fraction exponent k)
      (he : IsExponent mark exponent) :
      Spells ((if d.negative then ['-'] else []) ++ (whole ++ (point ++ mark)))
        (.decimal ⟨d.negative, d.coefficient * 10 ^ k, d.exponent - k⟩) := by
    have h := Spells.decimal hsign hs.isDigit_whole hf
      (fun h => hs.whole_ne (List.append_eq_nil_iff.1 h).1) he .absent
    rwa [hs.coefficient_eq, hs.exponent_eq, List.append_nil] at h
  rw [writeDecimal]
  by_cases hm : layout.positionalFrom ≤ d.magnitude ∧ d.magnitude < layout.positionalBelow
  · obtain ⟨whole, fraction, k, ht, hs, -, -, -⟩ := exists_positional d
    have h := spells (.point hs.isDigit_fraction) hs .absent
    rw [List.append_nil, ← ht] at h
    rw [if_pos hm]
    exact ⟨k, h⟩
  · obtain ⟨fraction, k, hf, hs⟩ := layout.exists_fraction d
    rw [if_neg hm, scientific_eq]
    exact ⟨k, spells hf hs (layout.isExponent mark_eq d.magnitude)⟩

/-- A finite number is written as a literal of its shortest decimal. -/
theorem denotes_render (negative : Bool) {units : Nat} (fits : Binary64.Representable units) :
    ∃ k : Nat, Denotes (layout.render (.finite negative units fits))
      (.decimal ⟨negative, (Binary64.shortest negative units).coefficient * 10 ^ k,
        (Binary64.shortest negative units).exponent - k⟩) := by
  obtain ⟨k, h⟩ := spells_writeDecimal layout mark_eq (Binary64.shortest negative units)
  rw [Binary64.negative_shortest] at h
  refine ⟨k, [], _, [], ?_, by simp, by simp, h⟩
  rw [toList_render, List.nil_append, List.append_nil]

theorem parse?_render (negative : Bool) {units : Nat} (fits : Binary64.Representable units) :
    Binary64.parse? (layout.render (.finite negative units fits)) =
      some (.finite negative units fits) := by
  obtain ⟨k, h⟩ := denotes_render layout mark_eq negative fits
  refine Binary64.parse?_eq_some_iff.2 ⟨_, h, ?_⟩
  have hd : (⟨negative, (Binary64.shortest negative units).coefficient,
      (Binary64.shortest negative units).exponent⟩ : Decimal) = Binary64.shortest negative units :=
    congrArg (Decimal.mk · _ _) (Binary64.negative_shortest negative units).symm
  rw [Literal.toBinary64, Binary64.ofDecimal_mul_pow, hd, Binary64.ofDecimal_shortest]

end Layout

end Numeral

end TargetedConfig
