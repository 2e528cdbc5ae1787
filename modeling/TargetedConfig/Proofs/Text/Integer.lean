import Mathlib.Data.List.Forall2
import Mathlib.Data.Nat.Digits.Defs
import TargetedConfig.Proofs.Binary64.Literal
import TargetedConfig.Proofs.Text.Blank
import TargetedConfig.Text.Integer

/-!
# Integer texts

`Text.Writes` says which texts write which integers: a sign or none and a run of decimal digits, of
any script and not too long, in base ten. `Text.looseInteger?` allows more, blanks and separators;
what is left when both are refused is exactly these texts.
-/

namespace TargetedConfig.Text

open Literal (IsSign)

/-- A run of decimal digits and their values. -/
abbrev HasValues : List Char → List Nat → Prop :=
  List.Forall₂ fun c d => digitValue? c.toNat = some d

/-- A sign or none and at least one decimal digit, but no more of them than an integer may have. The
first digit is the most significant one. -/
inductive Writes : List Char → Int → Prop
  | intro {sign digits : List Char} {negative : Bool} {values : List Nat}
      (isSign : IsSign sign negative) (hasValues : HasValues digits values)
      (nonempty : digits ≠ []) (short : digits.length ≤ 4300) :
      Writes (sign ++ digits)
        (if negative then -(Nat.ofDigits 10 values.reverse : ℕ)
          else (Nat.ofDigits 10 values.reverse : ℕ))

/-! ### Digits -/

theorem of_digitValue? {code d : Nat} (h : digitValue? code = some d) :
    ∃ first ∈ zeroDigits, d < 10 ∧ code = first + d := by
  simp only [digitValue?, Option.map_eq_some_iff] at h
  obtain ⟨first, hf, rfl⟩ := h
  have hp := List.find?_some hf
  simp only [Bool.and_eq_true, decide_eq_true_eq] at hp
  exact ⟨first, List.mem_of_find?_eq_some hf, by omega, by omega⟩

/-- No digit is a blank, a sign or a separator. -/
theorem not_blank_of_digitValue? {code d : Nat} (h : digitValue? code = some d) :
    isSpace code = false ∧ code ≠ '+'.toNat ∧ code ≠ '-'.toNat ∧ code ≠ '_'.toNat := by
  have ht : ∀ first ∈ zeroDigits, ∀ d < 10, isSpace (first + d) = false ∧
      first + d ≠ '+'.toNat ∧ first + d ≠ '-'.toNat ∧ first + d ≠ '_'.toNat := by decide
  obtain ⟨first, hf, hd, rfl⟩ := of_digitValue? h
  exact ht first hf d hd

theorem digitValue?_of_isDigit {c : Char} (h : c.isDigit = true) :
    digitValue? c.toNat = some (c.toNat - '0'.toNat) := by
  have hz : '0'.toNat = 0x30 := rfl
  have ht : zeroDigits = 0x30 :: zeroDigits.tail := rfl
  obtain ⟨hl, hu⟩ := Char.isDigit_iff_toNat.1 h
  have hn : '9'.toNat = 0x39 := rfl
  have hf : zeroDigits.find? (fun first => first ≤ c.toNat && c.toNat < first + 10) =
      some 0x30 := by
    rw [ht]
    apply List.find?_cons_of_pos
    simp only [Bool.and_eq_true, decide_eq_true_eq]
    omega
  rw [digitValue?, hf, Option.map_some, hz]

/-- The digits among the plain characters are the ten usual ones. -/
theorem isDigit_of_digitValue? {c : Char} {d : Nat} (h : digitValue? c.toNat = some d)
    (plain : c.toNat < 0x80) : c.isDigit = true := by
  have ht : ∀ first ∈ zeroDigits, first < 0x80 → first = '0'.toNat := by decide
  have hn : '9'.toNat = '0'.toNat + 9 := rfl
  obtain ⟨first, hf, hd, he⟩ := of_digitValue? h
  have hz := ht first hf (by omega)
  apply Char.isDigit_iff_toNat.2
  omega

theorem ofDigits_eq (values : List Nat) : ofDigits values = Nat.ofDigits 10 values.reverse := by
  rw [Nat.ofDigits_eq_foldr, List.foldr_reverse, ofDigits]
  congr 1
  funext n d
  simp [Nat.add_comm]

theorem mapM_eq_some_iff {text : List Char} {values : List Nat} :
    (text.mapM fun c => digitValue? c.toNat) = some values ↔ HasValues text values := by
  induction text generalizing values with
  | nil => simp [List.forall₂_nil_left_iff, eq_comm]
  | cons c text ih =>
    simp only [List.mapM_cons, Option.bind_eq_bind, Option.bind_eq_some_iff, Option.pure_def,
      Option.some.injEq, List.forall₂_cons_left_iff, ih]
    constructor
    · rintro ⟨d, hd, rest, hr, rfl⟩
      exact ⟨d, rest, hd, hr, rfl⟩
    · rintro ⟨d, rest, hd, hr, rfl⟩
      exact ⟨d, hd, rest, hr, rfl⟩

theorem digits?_eq_some_iff {text : List Char} {n : Nat} :
    digits? text = some n ↔ ∃ values, HasValues text values ∧ text ≠ [] ∧ text.length ≤ 4300 ∧
      Nat.ofDigits 10 values.reverse = n := by
  have hm : maxDigits = 4300 := rfl
  rw [digits?]
  split
  · rename_i h
    simp only [Bool.or_eq_true, List.isEmpty_iff, decide_eq_true_eq] at h
    constructor
    · intro hn
      cases hn
    · rintro ⟨values, -, hne, hl, -⟩
      rcases h with rfl | h
      · exact absurd rfl hne
      · omega
  · rename_i h
    simp only [Bool.or_eq_true, List.isEmpty_iff, decide_eq_true_eq, not_or, Nat.not_lt] at h
    simp only [Option.map_eq_some_iff, mapM_eq_some_iff, ofDigits_eq]
    constructor
    · rintro ⟨values, hv, hn⟩
      exact ⟨values, hv, h.1, hm ▸ h.2, hn⟩
    · rintro ⟨values, hv, -, -, hn⟩
      exact ⟨values, hv, hn⟩

/-! ### Separators -/

theorem dropSeparators_of_not_mem {text : List Char} (h : '_' ∉ text) :
    dropSeparators text = some text := by
  fun_induction dropSeparators text with
  | case1 => rfl
  | case2 => simp at h
  | case3 => simp at h
  | case4 c d rest hs => simp_all
  | case5 c d rest hs ih => simp_all
  | case6 rest => simp at h
  | case7 c rest hs hd hn ih => simp_all

/-! ### Integers -/

/-- Reading a trimmed text without separators is reading its sign and its digits. -/
theorem looseInteger?_eq {text : List Char} (bare : '_' ∉ text)
    (trimmed : trim (fun c => isSpace c.toNat) text = text) :
    looseInteger? text = (digits? (Literal.sign text).2).map fun n : Nat =>
      if (Literal.sign text).1 then -(n : Int) else n := by
  have ht : trim (fun c => isWhitespace c.toNat) text = text :=
    trim_eq_self_of_imp (fun c hc => by simp [isSpace, hc]) trimmed
  rw [looseInteger?, ht]
  unfold Literal.sign
  split
  · rw [dropSeparators_of_not_mem fun hm => bare (List.mem_cons_of_mem _ hm)]
    simp
  · rw [dropSeparators_of_not_mem fun hm => bare (List.mem_cons_of_mem _ hm)]
    simp
  · rw [dropSeparators_of_not_mem bare]
    simp

theorem HasValues.exists_of_mem {digits : List Char} {values : List Nat}
    (h : HasValues digits values) : ∀ c ∈ digits, ∃ d, digitValue? c.toNat = some d := by
  induction h with
  | nil => simp
  | cons hd _ ih => simpa [hd] using ih

theorem HasValues.unique {digits : List Char} {values others : List Nat}
    (h : HasValues digits values) (h' : HasValues digits others) : values = others :=
  List.right_unique_forall₂' (fun _ _ _ hd hd' => Option.some.inj (hd.symm.trans hd')) h h'

/-- No blank and no separator stands in an integer. -/
theorem Writes.plain {text : List Char} {n : Int} (h : Writes text n) :
    ∀ c ∈ text, isSpace c.toNat = false ∧ c ≠ '_' := by
  cases h with
  | intro isSign hasValues nonempty short =>
    intro c hc
    rcases List.mem_append.1 hc with hs | hd
    · have hc : c = '+' ∨ c = '-' := by cases isSign <;> simp_all
      rcases hc with rfl | rfl <;> decide
    · obtain ⟨d, hd⟩ := hasValues.exists_of_mem c hd
      have hb := not_blank_of_digitValue? hd
      refine ⟨hb.1, ?_⟩
      rintro rfl
      exact hb.2.2.2 rfl

theorem HasValues.sign_append {sign digits : List Char} {negative : Bool} {values : List Nat}
    (hasValues : HasValues digits values) (isSign : IsSign sign negative) :
    Literal.sign (sign ++ digits) = (negative, digits) := by
  apply Literal.sign_append isSign
  intro c hc
  obtain ⟨d, hd⟩ := hasValues.exists_of_mem c (List.mem_of_mem_head? hc)
  have hb := not_blank_of_digitValue? hd
  constructor
  · rintro rfl
    exact hb.2.1 rfl
  · rintro rfl
    exact hb.2.2.1 rfl

theorem looseInteger?_eq_some_iff {text : List Char} {n : Int} (bare : '_' ∉ text)
    (trimmed : trim (fun c => isSpace c.toNat) text = text) :
    looseInteger? text = some n ↔ Writes text n := by
  rw [looseInteger?_eq bare trimmed, Option.map_eq_some_iff]
  constructor
  · rintro ⟨m, hm, rfl⟩
    obtain ⟨values, hasValues, nonempty, short, rfl⟩ := digits?_eq_some_iff.1 hm
    obtain ⟨sign, isSign, he⟩ := Literal.exists_sign text
    have hw := Writes.intro isSign hasValues nonempty short
    rwa [← he] at hw
  · rintro ⟨isSign, hasValues, nonempty, short⟩
    rw [hasValues.sign_append isSign]
    exact ⟨_, digits?_eq_some_iff.2 ⟨_, hasValues, nonempty, short, rfl⟩, rfl⟩

/-! ### Decimal texts of integers -/

theorem hasValues_of_isDigit {digits : List Char} (h : ∀ c ∈ digits, c.isDigit = true) :
    HasValues digits (digits.map fun c => c.toNat - '0'.toNat) := by
  induction digits with
  | nil => exact .nil
  | cons c rest ih =>
    rw [List.forall_mem_cons] at h
    exact .cons (digitValue?_of_isDigit h.1) (ih h.2)

/-- The usual digits have the value that a number literal has. -/
theorem ofDigits_of_isDigit (digits : List Char) :
    Nat.ofDigits 10 (digits.map fun c => c.toNat - '0'.toNat).reverse =
      Nat.ofDigitChars 10 digits 0 := by
  rw [← ofDigits_eq, ofDigits, List.foldl_map, Nat.ofDigitChars]

theorem toList_toString (n : Int) :
    (toString n).toList = (if n < 0 then ['-'] else []) ++ Nat.toDigits 10 n.natAbs := by
  cases n with
  | ofNat m =>
    have ht : toString (Int.ofNat m) = toString m := rfl
    have hn : ¬Int.ofNat m < 0 := Int.not_lt.2 (Int.natCast_nonneg m)
    rw [if_neg hn, ht, Nat.toString_eq_repr]
    simp
  | negSucc m =>
    have ht : toString (Int.negSucc m) = "-" ++ toString (m + 1) := rfl
    rw [if_pos (Int.negSucc_lt_zero m), ht, String.toList_append, Nat.toString_eq_repr]
    simp

/-- An integer with more digits than its text may have. -/
def TooLong (n : Int) : Prop := maxDigits < (Nat.toDigits 10 n.natAbs).length

instance (n : Int) : Decidable (TooLong n) := Nat.decLt _ _

theorem ofInteger?_eq_none_iff {n : Int} : ofInteger? n = none ↔ TooLong n := by
  rw [ofInteger?, TooLong]
  split <;> simp_all

def leastTooLong : Int := (10 ^ maxDigits : Nat)

theorem tooLong_leastTooLong : TooLong leastTooLong := by
  have hp : 0 < maxDigits := by decide
  have hl : (Nat.toDigits 10 (10 ^ maxDigits)).length ≤ maxDigits ↔ 10 ^ maxDigits < 10 ^ maxDigits :=
    Nat.length_toDigits_le_iff (by decide) hp
  rw [TooLong, leastTooLong, Int.natAbs_natCast]
  exact Nat.lt_of_not_le fun h => Nat.lt_irrefl _ (hl.1 h)

/-- An integer is written by its decimal text, unless that is too long. -/
theorem writes_toString {n : Int} (short : (Nat.toDigits 10 n.natAbs).length ≤ 4300) :
    Writes (toString n).toList n := by
  have hd : ∀ c ∈ Nat.toDigits 10 n.natAbs, c.isDigit = true :=
    fun _ hc => Nat.isDigit_of_mem_toDigits (by decide) (by decide) hc
  have hv : Nat.ofDigits 10 ((Nat.toDigits 10 n.natAbs).map fun c => c.toNat - '0'.toNat).reverse =
      n.natAbs := by
    rw [ofDigits_of_isDigit, Nat.ofDigitChars_ten_toDigits]
  have hs : IsSign (if n < 0 then ['-'] else []) (decide (n < 0)) := by
    by_cases hn : n < 0
    · rw [if_pos hn, decide_eq_true hn]
      exact .minus
    · rw [if_neg hn, decide_eq_false hn]
      exact .absent
  have he : (if decide (n < 0) = true then -(n.natAbs : Int) else n.natAbs) = n := by
    simp only [decide_eq_true_iff]
    split <;> omega
  have hw := Writes.intro hs (hasValues_of_isDigit hd) Nat.toDigits_ne_nil short
  rw [hv, he] at hw
  rw [toList_toString]
  exact hw

end TargetedConfig.Text
