import TargetedConfig.Json.Token
import TargetedConfig.Proofs.Numeral

/-!
# Numbers are scanned as they were written

A number is written without blanks and ends where a character stands that no number goes on with.
The scanner takes such a text back to the integer, or to the binary64 number whose shortest decimal
it shows.
-/

namespace TargetedConfig.Json.Token

-- Powers of numbers are those of the core library, whatever else is imported.
attribute [local instance (1100)] instPowNat

open Decimal (isDigit_toDigits head?_toDigits_ne)
open Literal (takeWhile_digits dropWhile_digits)

/-- A text that no number goes on with. -/
def Stops : List Char → Prop
  | [] => True
  | c :: _ => c.isDigit = false ∧ c ≠ '.' ∧ c ≠ 'e' ∧ c ≠ 'E'

variable {digits whole fraction rest : List Char}

theorem Stops.isDigit_head (h : Stops rest) : ∀ c ∈ rest.head?, c.isDigit = false := by
  intro c hc
  cases rest with
  | nil => cases hc
  | cons d rest =>
    cases hc
    exact h.1

/-- Digits that can be the integer part of a number: a zero, or digits that do not start with
one. -/
structure IsWhole (whole : List Char) : Prop where
  isDigit : ∀ c ∈ whole, c.isDigit = true
  nonempty : whole ≠ []
  leading : whole.head? = some '0' → whole = ['0']

theorem scanWhole_append (h : IsWhole whole) (hr : ∀ c ∈ rest.head?, c.isDigit = false) :
    scanWhole (whole ++ rest) = some (whole, rest) := by
  unfold scanWhole
  split
  · rename_i tail he
    have hh : whole.head? = some '0' := by
      rcases hw : whole with _ | ⟨c, cs⟩
      · exact absurd hw h.nonempty
      · rw [hw] at he
        cases he
        rfl
    rw [h.leading hh] at he ⊢
    cases he
    rfl
  · dsimp only
    rw [takeWhile_digits h.isDigit hr, dropWhile_digits h.isDigit hr, if_neg]
    simpa using h.nonempty

theorem scanFraction_append (hf : ∀ c ∈ fraction, c.isDigit = true) (hn : fraction ≠ [])
    (hr : ∀ c ∈ rest.head?, c.isDigit = false) :
    scanFraction ('.' :: (fraction ++ rest)) = some (fraction, rest) := by
  rw [scanFraction, takeWhile_digits hf hr, dropWhile_digits hf hr, if_neg]
  simpa using hn

theorem scanFraction_of_ne (h : rest.head? ≠ some '.') : scanFraction rest = some ([], rest) := by
  unfold scanFraction
  split
  · exact absurd rfl h
  · rfl

def exponentText (exponent : Int) : List Char :=
  'e' :: (if exponent < 0 then '-' else '+') :: Nat.toDigits 10 exponent.natAbs

theorem exponent?_append (exponent : Int) (hr : Stops rest) :
    Literal.exponent? (exponentText exponent ++ rest) = some (exponent, rest) := by
  have hd := takeWhile_digits (isDigit_toDigits exponent.natAbs) hr.isDigit_head
  have hw := dropWhile_digits (isDigit_toDigits exponent.natAbs) hr.isDigit_head
  unfold exponentText Literal.exponent?
  by_cases hn : exponent < 0
  · have hv : -(exponent.natAbs : Int) = exponent := by omega
    simpa [hn, Literal.sign, hd, hw] using hv
  · have hv : (exponent.natAbs : Int) = exponent := by omega
    simpa [hn, Literal.sign, hd, hw] using hv

theorem exponent?_of_stops (hr : Stops rest) : Literal.exponent? rest = some (0, rest) := by
  cases rest with
  | nil => rfl
  | cons c rest =>
    have h : ¬(c = 'e' ∨ c = 'E') := by simp [hr.2.2.1, hr.2.2.2]
    rw [Literal.exponent?, if_neg h]

/-- An integer part before a text that no number goes on with is an integer. -/
theorem scanNumber_whole {negative : Bool} (hw : IsWhole whole)
    (hl : wholeFits negative whole = true) (hr : Stops rest) :
    scanNumber negative (whole ++ rest) =
      let n : Int := Nat.ofDigitChars 10 whole 0
      some (.integer (if negative then -n else n), rest) := by
  have hp : rest.head? ≠ some '.' := by
    cases rest with
    | nil => simp
    | cons c rest => simpa using hr.2.1
  rw [scanNumber]
  simp [scanWhole_append hw hr.isDigit_head, scanFraction_of_ne hp, exponent?_of_stops hr, hl]

/-- An integer part with a fraction, and perhaps an exponent, is a binary64 number. -/
theorem scanNumber_fraction {negative : Bool} (hw : IsWhole whole)
    (hl : wholeFits negative whole = true) (hf : ∀ c ∈ fraction, c.isDigit = true)
    (hn : fraction ≠ []) {tail : List Char} (ht : ∀ c ∈ tail.head?, c.isDigit = false)
    {exponent : Int} (he : Literal.exponent? tail = some (exponent, rest)) :
    scanNumber negative (whole ++ '.' :: (fraction ++ tail)) =
      some (.float (.ofDecimal ⟨negative, Nat.ofDigitChars 10 (whole ++ fraction) 0,
        exponent - fraction.length⟩), rest) := by
  have hs : ∀ c ∈ ('.' :: (fraction ++ tail)).head?, c.isDigit = false := by
    intro c hc
    cases hc
    decide
  have hlen := length_of_exponent he
  have hne : rest.length ≠ ('.' :: (fraction ++ tail)).length := by
    simp only [List.length_cons, List.length_append]
    omega
  rw [scanNumber]
  simp only [scanWhole_append hw hs, scanFraction_append hf hn ht, he, hl, Option.bind_eq_bind,
    Option.bind_some, Bool.not_true, if_neg hne]
  rfl

/-- An integer part with an exponent is a binary64 number. -/
theorem scanNumber_exponent {negative : Bool} (hw : IsWhole whole)
    (hl : wholeFits negative whole = true) (exponent : Int) (hr : Stops rest) :
    scanNumber negative (whole ++ (exponentText exponent ++ rest)) =
      some (.float (.ofDecimal ⟨negative, Nat.ofDigitChars 10 whole 0, exponent⟩), rest) := by
  have hs : ∀ c ∈ (exponentText exponent ++ rest).head?, c.isDigit = false := by
    intro c hc
    cases hc
    decide
  have hp : (exponentText exponent ++ rest).head? ≠ some '.' := by
    simp [exponentText]
  have hne : rest.length ≠ (exponentText exponent ++ rest).length := by
    simp only [exponentText, List.length_append, List.length_cons]
    omega
  rw [scanNumber]
  simp only [scanWhole_append hw hs, scanFraction_of_ne hp, exponent?_append exponent hr, hl,
    Option.bind_eq_bind, Option.bind_some, Bool.not_true, if_neg hne]
  simp

/-- Digits that start like those of a positive number can be an integer part. -/
theorem IsWhole.of_head? {n : Nat} (hn : n ≠ 0) (hd : ∀ c ∈ whole, c.isDigit = true)
    (hh : whole.head? = (Nat.toDigits 10 n).head?) : IsWhole whole := by
  refine ⟨hd, ?_, ?_⟩
  · rintro rfl
    exact Nat.toDigits_ne_nil (List.head?_eq_none_iff.1 hh.symm)
  · intro hz
    rw [hh] at hz
    exact absurd hz (head?_toDigits_ne hn)

theorem isWhole_toDigits (n : Nat) : IsWhole (Nat.toDigits 10 n) := by
  by_cases hn : n = 0
  · subst hn
    exact ⟨isDigit_toDigits 0, Nat.toDigits_ne_nil, fun _ => rfl⟩
  · exact .of_head? hn (isDigit_toDigits n) rfl

theorem wholeFits_of_length {negative : Bool} (h : whole.length ≤ 16) :
    wholeFits negative whole = true := by
  have hm : maxWholeLength = 4300 := rfl
  rw [wholeFits, decide_eq_true_iff, hm]
  split <;> omega

theorem scientific_json (digits : List Char) (magnitude : Int) :
    Numeral.scientific .json digits magnitude =
      digits.take 1 ++ (if (digits.drop 1).isEmpty then [] else '.' :: digits.drop 1) ++
        exponentText magnitude := by
  have hl : 1 - (Nat.toDigits 10 magnitude.natAbs).length = 0 := by
    have hp : 0 < (Nat.toDigits 10 magnitude.natAbs).length := Nat.length_toDigits_pos
    omega
  rw [Numeral.scientific, exponentText, Numeral.json]
  dsimp only
  rw [hl]
  by_cases hm : magnitude < 0
  · simp [hm]
  · simp [hm]

section Decimal

variable (d : Decimal) {exponent : Int} {k : Nat}

/-- Digits that show a decimal are scanned as the number next to it. -/
private theorem scanNumber_shown (hw : IsWhole whole) (hl : wholeFits d.negative whole = true)
    (hs : d.Shows whole fraction exponent k) (hn : fraction ≠ []) {tail : List Char}
    (ht : ∀ c ∈ tail.head?, c.isDigit = false)
    (he : Literal.exponent? tail = some (exponent, rest)) :
    scanNumber d.negative (whole ++ '.' :: (fraction ++ tail)) =
      some (.float (.ofDecimal d), rest) := by
  rw [scanNumber_fraction hw hl hs.isDigit_fraction hn ht he, hs.ofDecimal_eq]

variable (hc : d.coefficient ≠ 0) (hr : Stops rest)
include hc hr

/-- A decimal in positional notation is read back. -/
theorem scanNumber_positional (hl : d.magnitude < 16) :
    scanNumber d.negative (Numeral.positional d.digits d.magnitude ++ rest) =
      some (.float (.ofDecimal d), rest) := by
  obtain ⟨whole, fraction, k, ht, hs, hn, hh, hm⟩ := Numeral.exists_positional d
  have hw : IsWhole whole := by
    rcases hh with rfl | hh
    · exact isWhole_toDigits 0
    · exact .of_head? hc hs.isDigit_whole hh
  have hf : wholeFits d.negative whole = true := wholeFits_of_length (by omega)
  rw [ht, List.append_assoc, List.cons_append]
  exact scanNumber_shown d hw hf hs hn hr.isDigit_head (exponent?_of_stops hr)

/-- A decimal with an exponent is read back. -/
theorem scanNumber_scientific :
    scanNumber d.negative (Numeral.scientific .json d.digits d.magnitude ++ rest) =
      some (.float (.ofDecimal d), rest) := by
  have hs : d.Shows (d.digits.take 1) (d.digits.drop 1) d.magnitude 0 :=
    d.shows_split d.length_digits_pos (by omega)
  have hw : IsWhole (d.digits.take 1) :=
    .of_head? hc hs.isDigit_whole (by rw [List.head?_take, if_neg (Nat.succ_ne_zero 0)]; rfl)
  have hf : wholeFits d.negative (d.digits.take 1) = true :=
    wholeFits_of_length (by rw [List.length_take]; omega)
  rw [scientific_json]
  by_cases hz : d.digits.drop 1 = []
  · have hn := scanNumber_exponent hw hf d.magnitude hr
    have he := hs.ofDecimal_eq
    rw [hz, List.append_nil, List.length_nil, Int.natCast_zero, Int.sub_zero] at he
    rw [hz, List.isEmpty_nil, if_pos rfl, List.append_nil, List.append_assoc]
    rw [hn, he]
  · have hh : ∀ c ∈ (exponentText d.magnitude ++ rest).head?, c.isDigit = false := by
      rintro c ⟨⟩
      decide
    have hne : ¬(d.digits.drop 1).isEmpty = true := by simpa using hz
    rw [if_neg hne]
    simp only [List.append_assoc, List.cons_append]
    exact scanNumber_shown d hw hf hs hz hh (exponent?_append d.magnitude hr)

end Decimal

/-- A text that is scanned as a number starts with a digit. -/
theorem isDigit_of_scanNumber {negative : Bool} {cs : List Char} {t : Token}
    (h : scanNumber negative cs = some (t, rest)) :
    ∃ c tail, cs = c :: tail ∧ c.isDigit = true := by
  have hw : (scanWhole cs).isSome := by
    rcases hs : scanWhole cs with _ | whole
    · simp [scanNumber, hs] at h
    · rfl
  cases cs with
  | nil => simp [scanWhole] at hw
  | cons c tail =>
    refine ⟨c, tail, rfl, ?_⟩
    unfold scanWhole at hw
    split at hw
    · rename_i he
      cases he
      decide
    · by_cases hd : c.isDigit = true
      · exact hd
      · simp [hd] at hw

private theorem scan_digit {c : Char} (hc : c.isDigit = true) (tail : List Char) :
    scan (c :: tail) = scanNumber false (c :: tail) := by
  unfold scan
  split
  case h_15 => rfl
  all_goals
    rename_i he
    cases he
    simp at hc

private theorem scan_minus_digit {c : Char} (hc : c.isDigit = true) (tail : List Char) :
    scan ('-' :: c :: tail) = scanNumber true (c :: tail) := by
  unfold scan
  split
  case h_13 he =>
    cases he
    simp at hc
  case h_14 he =>
    cases he
    rfl
  case h_15 he => exact (he _ rfl).elim
  all_goals
    rename_i he
    cases he

/-- A number is scanned with its sign. -/
theorem scan_of_scanNumber {negative : Bool} {cs : List Char} {t : Token}
    (h : scanNumber negative cs = some (t, rest)) :
    scan ((if negative then ['-'] else []) ++ cs) = some (t, rest) := by
  obtain ⟨c, tail, rfl, hc⟩ := isDigit_of_scanNumber h
  cases negative with
  | false => exact (scan_digit hc tail).trans h
  | true => exact (scan_minus_digit hc tail).trans h

/-- Integers that are not too long are scanned as they were written. -/
theorem scan_writeInteger {n : Int} (hn : (writeInteger n).length ≤ maxWholeLength)
    (hr : Stops rest) : scan (writeInteger n ++ rest) = some (.integer n, rest) := by
  have hf : wholeFits (n < 0) (Nat.toDigits 10 n.natAbs) = true := by
    rw [writeInteger] at hn
    rw [wholeFits]
    by_cases h : n < 0
    · simpa [h, Nat.add_comm] using hn
    · simpa [h] using hn
  have hs := scanNumber_whole (isWhole_toDigits n.natAbs) hf hr
  rw [Nat.ofDigitChars_ten_toDigits] at hs
  have hv : (if decide (n < 0) = true then -(n.natAbs : Int) else n.natAbs) = n := by
    by_cases h : n < 0
    · rw [if_pos (decide_eq_true h)]
      omega
    · rw [if_neg (by rw [decide_eq_true_iff]; exact h)]
      omega
  dsimp only at hs
  rw [hv] at hs
  have ht := scan_of_scanNumber hs
  rw [← List.append_assoc] at ht
  simpa [writeInteger] using ht

/-- Finite numbers are scanned as they were written. -/
theorem scan_writeFinite (negative : Bool) {units : Nat} (fits : Binary64.Representable units)
    (hr : Stops rest) :
    scan (Numeral.json.write (.finite negative units fits) ++ rest) =
      some (.float (.finite negative units fits), rest) := by
  by_cases hu : units = 0
  · subst hu
    have hf : wholeFits negative ['0'] = true := wholeFits_of_length (by simp)
    have hs := scanNumber_fraction (isWhole_toDigits 0) hf (isDigit_toDigits 0)
      (List.cons_ne_nil '0' []) hr.isDigit_head (exponent?_of_stops hr)
    have hw : Numeral.json.write (.finite negative 0 fits) =
        (if negative then ['-'] else []) ++ ['0', '.', '0'] := by
      cases negative <;> rfl
    rw [hw, List.append_assoc]
    exact scan_of_scanNumber hs
  · have hd := Binary64.ofDecimal_shortest negative fits
    have hc := Binary64.coefficient_shortest_ne negative fits hu
    have hn := Binary64.negative_shortest negative units
    change scan (Numeral.writeDecimal .json (Binary64.shortest negative units) ++ rest) = _
    rw [Numeral.writeDecimal, List.append_assoc]
    refine scan_of_scanNumber ?_
    split
    · rename_i hm
      rw [scanNumber_positional _ hc hr hm.2, hd]
    · rw [scanNumber_scientific _ hc hr, hd]

end TargetedConfig.Json.Token
