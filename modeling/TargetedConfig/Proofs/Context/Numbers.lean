import TargetedConfig.Proofs.Binary64.Magnitude
import TargetedConfig.Proofs.Context
import TargetedConfig.Proofs.Numeral
import TargetedConfig.Proofs.Targeting.Evaluation

/-!
# Numbers as signals

A binary64 number that is given as a signal is held as a text. The text is read back as the number,
so that number conditions compare what was given; it shows the shortest decimal, without an exponent
from one thousandth up to ten million.
-/

namespace TargetedConfig

-- Powers of numbers are those of the core library, whatever else is imported.
attribute [local instance (1100)] instPowNat

namespace Decimal

theorem getLast?_toDigits (n : Nat) :
    (Nat.toDigits 10 n).getLast? = some (Nat.digitChar (n % 10)) := by
  rw [Nat.toDigits_eq_if (by decide)]
  split
  · rename_i hn
    rw [Nat.mod_eq_of_lt hn]
    rfl
  · rw [List.getLast?_append]
    rfl

theorem getLast?_digits_ne {d : Decimal} (hc : d.coefficient % 10 ≠ 0) :
    d.digits.getLast? ≠ some '0' := by
  have hd : ∀ n < 10, n ≠ 0 → Nat.digitChar n ≠ '0' := by decide
  rw [digits, getLast?_toDigits]
  exact fun h => hd _ (Nat.mod_lt _ (by decide)) hc (Option.some.inj h)

theorem coefficient_stripZeros_mod (negative : Bool) (coefficient : Nat) (exponent : Int) :
    (stripZeros negative coefficient exponent).coefficient ≠ 0 →
      (stripZeros negative coefficient exponent).coefficient % 10 ≠ 0 := by
  fun_induction stripZeros negative coefficient exponent with
  | case1 coefficient exponent h ih => exact ih
  | case2 coefficient exponent h => exact fun hn hz => h ⟨hn, hz⟩

end Decimal

namespace Binary64

theorem exists_stripZeros (negative : Bool) {units : Nat} (positive : units ≠ 0) :
    ∃ coefficient exponent,
      shortest negative units = Decimal.stripZeros negative coefficient exponent := by
  rw [shortest, if_neg positive]
  split
  · exact ⟨_, _, rfl⟩
  · exact ⟨_, _, rfl⟩

/-- A shortest decimal ends in no zero. -/
theorem coefficient_shortest_mod (negative : Bool) {units : Nat} (fits : Representable units)
    (positive : units ≠ 0) : (shortest negative units).coefficient % 10 ≠ 0 := by
  have hc := coefficient_shortest_ne negative fits positive
  obtain ⟨coefficient, exponent, he⟩ := exists_stripZeros negative positive
  rw [he] at hc ⊢
  exact Decimal.coefficient_stripZeros_mod negative coefficient exponent hc

end Binary64

namespace Numeral

def minus (negative : Bool) : List Char := if negative then ['-'] else []

/-- A sign and digits on both sides of a point. -/
inductive Positional (negative : Bool) : List Char → Prop
  | intro {whole fraction : List Char} (isDigit_whole : ∀ c ∈ whole, c.isDigit = true)
      (whole_ne : whole ≠ []) (isDigit_fraction : ∀ c ∈ fraction, c.isDigit = true)
      (fraction_ne : fraction ≠ []) :
      Positional negative (minus negative ++ (whole ++ '.' :: fraction))

/-- A sign, a digit that is not zero, a point, digits without a superfluous zero at their end, and
an exponent without a plus sign or leading zeros. -/
inductive Scientific (negative : Bool) : List Char → Prop
  | intro {first : Char} {fraction exponent : List Char} {below : Bool}
      (isDigit_first : first.isDigit = true) (first_ne : first ≠ '0')
      (isDigit_fraction : ∀ c ∈ fraction, c.isDigit = true) (fraction_ne : fraction ≠ [])
      (last_ne : fraction.getLast? = some '0' → fraction = ['0'])
      (isDigit_exponent : ∀ c ∈ exponent, c.isDigit = true) (exponent_ne : exponent ≠ [])
      (leading_ne : exponent.head? ≠ some '0') :
      Scientific negative
        (minus negative ++ first :: '.' :: (fraction ++ 'E' :: (minus below ++ exponent)))

theorem positional_writeDecimal (layout : Numeral) (d : Decimal)
    (h : layout.positionalFrom ≤ d.magnitude ∧ d.magnitude < layout.positionalBelow) :
    Positional d.negative (layout.writeDecimal d) := by
  obtain ⟨whole, fraction, k, ht, hs, hn, -, -⟩ := exists_positional d
  rw [writeDecimal, if_pos h, ht]
  exact .intro hs.isDigit_whole hs.whole_ne hs.isDigit_fraction hn

theorem pointText_signal (fraction : List Char) :
    signal.pointText fraction = '.' :: if fraction.isEmpty then ['0'] else fraction := by
  cases fraction <;> rfl

theorem exponentText_signal (exponent : Int) :
    signal.exponentText exponent =
      minus (decide (exponent < 0)) ++ Nat.toDigits 10 exponent.natAbs := by
  have hp : 0 < (Nat.toDigits 10 exponent.natAbs).length := Nat.length_toDigits_pos
  have hw : signal.exponentWidth - (Nat.toDigits 10 exponent.natAbs).length = 0 :=
    Nat.sub_eq_zero_of_le hp
  have hn : signal.exponentPlus = false := rfl
  rw [exponentText, hw, List.replicate_zero, List.nil_append, hn, minus]
  simp only [decide_eq_true_iff, Bool.false_eq_true, if_false]

/-- The digits of a decimal that ends in no zero, behind the first of them. -/
theorem getLast?_drop_digits {d : Decimal} (hc : d.coefficient % 10 ≠ 0) :
    (d.digits.drop 1).getLast? ≠ some '0' := by
  rw [List.getLast?_drop]
  split
  · exact (Option.some_ne_none '0').symm
  · exact Decimal.getLast?_digits_ne hc

theorem scientific_writeDecimal (d : Decimal) (hc : d.coefficient % 10 ≠ 0)
    (h : ¬(signal.positionalFrom ≤ d.magnitude ∧ d.magnitude < signal.positionalBelow)) :
    Scientific d.negative (signal.writeDecimal d) := by
  have hz : d.coefficient ≠ 0 := by
    rintro hz
    exact hc (by rw [hz])
  obtain ⟨first, rest, hd⟩ := List.exists_cons_of_length_pos d.length_digits_pos
  have hdigits := d.isDigit_digits
  have hhead : d.digits.head? ≠ some '0' := Decimal.head?_toDigits_ne hz
  have hlast := getLast?_drop_digits hc
  rw [hd] at hdigits hhead hlast
  rw [List.forall_mem_cons] at hdigits
  have hf : ∀ c ∈ (if rest.isEmpty then ['0'] else rest), c.isDigit = true := by
    split
    · exact Decimal.isDigit_zeros 1
    · exact hdigits.2
  have hn : (if rest.isEmpty then ['0'] else rest) ≠ [] := by
    split
    · exact List.cons_ne_nil _ _
    · rename_i he
      simpa using he
  have hl : (if rest.isEmpty then ['0'] else rest).getLast? = some '0' →
      (if rest.isEmpty then ['0'] else rest) = ['0'] := by
    split
    · exact fun _ => rfl
    · exact fun hg => absurd hg hlast
  have he : d.magnitude.natAbs ≠ 0 := by
    have hm : ¬(-3 ≤ d.magnitude ∧ d.magnitude < 7) := h
    omega
  rw [writeDecimal, if_neg h, scientific_eq, pointText_signal, exponentText_signal, hd]
  exact .intro hdigits.1 (fun hf => hhead (congrArg some hf)) hf hn hl
    (Decimal.isDigit_toDigits _) Nat.toDigits_ne_nil (Decimal.head?_toDigits_ne he)

end Numeral

namespace Context

theorem exists_of_texts_cons {key : String} {signal : Signal} {rest : List (String × Signal)}
    {pairs : List (String × String)} (h : texts ((key, signal) :: rest) = .ok pairs) :
    ∃ text tail, signal.text = .ok text ∧ texts rest = .ok tail ∧ pairs = (key, text) :: tail := by
  rw [texts] at h
  cases hs : signal.text with
  | error u =>
    rw [hs] at h
    cases h
  | ok text =>
    cases ht : texts rest with
    | error u =>
      rw [hs, ht] at h
      cases h
    | ok tail =>
      rw [hs, ht] at h
      cases h
      exact ⟨text, tail, rfl, rfl, rfl⟩

theorem keys_texts {signals : List (String × Signal)} {pairs : List (String × String)}
    (h : texts signals = .ok pairs) : pairs.map Prod.fst = signals.map Prod.fst := by
  induction signals generalizing pairs with
  | nil =>
    cases h
    rfl
  | cons p rest ih =>
    obtain ⟨text, tail, -, ht, rfl⟩ := exists_of_texts_cons h
    rw [List.map_cons, List.map_cons, ih ht]

theorem lookup_texts {signals : List (String × Signal)} {pairs : List (String × String)}
    (h : texts signals = .ok pairs) (key : String) :
    pairs.lookup key = (signals.lookup key).bind (·.text.toOption) := by
  induction signals generalizing pairs with
  | nil =>
    cases h
    rfl
  | cons p rest ih =>
    obtain ⟨text, tail, hs, ht, rfl⟩ := exists_of_texts_cons h
    rw [lookup_cons_eq_ite, lookup_cons_eq_ite]
    split
    · rw [Option.bind_some, hs]
      rfl
    · exact ih ht

/-- A context holds the texts of the signals that it is made from. -/
theorem get?_of_ofSignals {signals : OrderedMap Signal} {context : Context}
    (h : ofSignals signals = .ok context) (key : String) :
    context.get? key = (signals.get? key).bind (·.text.toOption) := by
  rw [ofSignals] at h
  cases ht : texts signals.entries with
  | error u =>
    rw [ht] at h
    cases h
  | ok pairs =>
    rw [ht] at h
    cases h
    have hk : (pairs.map Prod.fst).Nodup := keys_texts ht ▸ signals.distinct
    rw [get?, OrderedMap.get?, OrderedMap.entries_ofList hk, lookup_texts ht, OrderedMap.get?]

open Literal (Denotes)
open Numeral (Positional Scientific)

/-- A number condition compares the number that a text denotes. -/
theorem answer_numeric {context : Context} {key text target : String} {x y : Binary64}
    (given : context.get? key = some text) (hx : Binary64.parse? text = some x)
    (hy : Binary64.parse? target = some y) (r : Relation) {maxDepth depth : Int}
    (within : depth ≤ maxDepth) (l : Ledger) :
    ((Condition.evaluate maxDepth (some context) depth
      (.signal ⟨key, .numeric r, [target]⟩)).runOn l).1 =
        .ok (Binary64.compares r x.rank y.rank) := by
  rw [Condition.runOn_evaluate, Condition.verdict_signal within,
    Condition.verdict_evaluateSignal context (List.cons_ne_nil _ _), given]
  dsimp only
  rw [Comparison.compare, Comparison.numbers, hx, hy]

/-- The text of a signal that is a binary64 number is read as this number. -/
theorem parse?_signal (v : Binary64) : Binary64.parse? (Numeral.signal.render v) = some v := by
  cases v with
  | nan => rfl
  | infinite negative => cases negative <;> rfl
  | finite negative units fits => exact Numeral.parse?_render .signal (.inr rfl) negative fits

section Finite

variable (negative : Bool) {units : Nat} (fits : Binary64.Representable units)

/-- Both the text of a signal and the usual one stand for the shortest decimal. -/
theorem same_decimal :
    ∃ d e, Denotes (Numeral.signal.render (.finite negative units fits)) (.decimal d) ∧
      Denotes (Numeral.version.render (.finite negative units fits)) (.decimal e) ∧
      d.negative = e.negative ∧ d.toRat = e.toRat := by
  obtain ⟨k, hd⟩ := Numeral.denotes_render .signal (.inr rfl) negative fits
  obtain ⟨m, he⟩ := Numeral.denotes_render .version (.inl rfl) negative fits
  exact ⟨_, _, hd, he, rfl, by rw [Decimal.toRat_mul_pow, Decimal.toRat_mul_pow]⟩

theorem positional_signal
    (h : units = 0 ∨ 1 / 1000 ≤ Binary64.ratOf units ∧ Binary64.ratOf units < 10000000) :
    Positional negative (Numeral.signal.render (.finite negative units fits)).toList := by
  have hm : -3 ≤ (Binary64.shortest negative units).magnitude ∧
      (Binary64.shortest negative units).magnitude < 7 := by
    by_cases positive : units = 0
    · rw [positive, Binary64.shortest, if_pos rfl]
      cases negative <;> decide
    · rw [Binary64.magnitude_shortest_iff negative fits positive]
      exact h.resolve_left positive
  have hp := Numeral.positional_writeDecimal .signal (Binary64.shortest negative units) hm
  rwa [Binary64.negative_shortest, ← Numeral.toList_render] at hp

theorem scientific_signal
    (h : ¬(units = 0 ∨ 1 / 1000 ≤ Binary64.ratOf units ∧ Binary64.ratOf units < 10000000)) :
    Scientific negative (Numeral.signal.render (.finite negative units fits)).toList := by
  rw [not_or] at h
  have hm := mt (Binary64.magnitude_shortest_iff negative fits h.1).1 h.2
  have hs := Numeral.scientific_writeDecimal (Binary64.shortest negative units)
    (Binary64.coefficient_shortest_mod negative fits h.1) hm
  rwa [Binary64.negative_shortest, ← Numeral.toList_render] at hs

end Finite

/-- A binary64 number survives as the text of a signal: the text is read as the number, so that
number conditions compare it. It shows the usual decimal, with an exponent where the number is
below one thousandth or not below ten million. -/
theorem float_survives {signals : OrderedMap Signal} {context : Context} {key : String}
    {v : Binary64} (made : ofSignals signals = .ok context)
    (given : signals.get? key = some (.float v)) :
    ∃ text, context.get? key = some text ∧ Binary64.parse? text = some v ∧
      (∀ r target y, Binary64.parse? target = some y → ∀ maxDepth depth l, depth ≤ maxDepth →
        ((Condition.evaluate maxDepth (some context) depth
          (.signal ⟨key, .numeric r, [target]⟩)).runOn l).1 =
            .ok (Binary64.compares r v.rank y.rank)) ∧
      ∀ negative units fits, v = .finite negative units fits →
        Binary64.parse? (Numeral.version.render v) = some v ∧
        (∃ d e, Denotes text (.decimal d) ∧ Denotes (Numeral.version.render v) (.decimal e) ∧
          d.negative = e.negative ∧ d.toRat = e.toRat) ∧
        (units = 0 ∨ 1 / 1000 ≤ Binary64.ratOf units ∧ Binary64.ratOf units < 10000000 →
          Positional negative text.toList) ∧
        (¬(units = 0 ∨ 1 / 1000 ≤ Binary64.ratOf units ∧ Binary64.ratOf units < 10000000) →
          Scientific negative text.toList) := by
  have held : context.get? key = some (Numeral.signal.render v) := by
    rw [get?_of_ofSignals made, given]
    rfl
  refine ⟨_, held, parse?_signal v, ?_, ?_⟩
  · intro r target y hy maxDepth depth l within
    exact answer_numeric held (parse?_signal v) hy r within l
  · rintro negative units fits rfl
    exact ⟨Numeral.parse?_render .version (.inl rfl) negative fits, same_decimal negative fits,
      positional_signal negative fits, scientific_signal negative fits⟩

theorem float_survives_small :
    let fits : Binary64.Representable (Binary64.decimalUnits 25 (-5)) := by decide +kernel
    let v : Binary64 := .finite true (Binary64.decimalUnits 25 (-5)) fits
    let signals : OrderedMap Signal := .ofList [("score", .float v)]
    ∃ context, ofSignals signals = .ok context ∧ signals.get? "score" = some (.float v) ∧
      context.get? "score" = some "-2.5E-4" ∧ Binary64.parse? "-2.5E-4" = some v ∧
      Scientific true "-2.5E-4".toList := by
  intro fits v signals
  have shown : Numeral.signal.render v = "-2.5E-4" := by decide +kernel
  have small : ¬(Binary64.decimalUnits 25 (-5) = 0 ∨
      1 / 1000 ≤ Binary64.ratOf (Binary64.decimalUnits 25 (-5)) ∧
        Binary64.ratOf (Binary64.decimalUnits 25 (-5)) < 10000000) := by
    rintro (hz | ⟨hl, -⟩)
    · revert hz
      decide +kernel
    · rw [← Binary64.decimalUnits_thousandth_le_iff fits] at hl
      revert hl
      decide +kernel
  have given : signals.get? "score" = some (.float v) := rfl
  have made : ofSignals signals = .ok ⟨.ofList [("score", Numeral.signal.render v)]⟩ := rfl
  obtain ⟨text, held, read, -, finite⟩ := float_survives made given
  obtain ⟨-, -, -, scientific⟩ := finite true _ fits rfl
  obtain rfl : text = "-2.5E-4" := (Option.some.inj held).symm.trans shown
  exact ⟨_, made, given, held, read, scientific small⟩

end Context

end TargetedConfig
