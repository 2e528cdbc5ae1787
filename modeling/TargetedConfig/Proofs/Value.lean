import TargetedConfig.Proofs.Binary64.Nearest
import TargetedConfig.Proofs.Text.Integer
import TargetedConfig.Value

/-!
# Values as numbers

The texts that are longs are the integer texts within 64 bits, and every other text gives zero and
one warning that tells which of the two it is not. A long of plain digits is a double too, the one
nearest to it; digits of other scripts make a long but no double.
-/

namespace TargetedConfig

open Text (Writes)

namespace Value

variable {v : Value} {n : Int}

/-! ### Views and their warnings -/

/-- A number and the entries that are written when the text of a value is taken for it. -/
def told {α : Type} (v : Value) (view : α × Option Complaint) : α × List Entry :=
  (view.1, view.2.toList.map (·.entry v.raw))

def long (v : Value) : Int × List Entry := v.told v.asLong

def double (v : Value) : Binary64 × List Entry := v.told v.asDouble

/-- All views of a value are made of these two and write their entries in turn. -/
theorem views_eq (v : Value) :
    v.views = (⟨v.asString, v.asBoolean, v.long.1, v.double.1⟩, v.long.2 ++ v.double.2) := by
  simp [views, long, double, told]

def warning (message raw : String) : Entry :=
  ⟨.warning, "remote_config.value", message, [("value", .string raw)]⟩

theorem longText?_eq_some_iff {raw : String} : longText? raw = some n ↔ Writes raw.toList n := by
  rw [longText?]
  split
  · rename_i h
    simp only [Bool.or_eq_true, List.contains_iff_mem, bne_iff_ne] at h
    constructor
    · intro hn
      cases hn
    · intro hw
      rcases h with hm | ht
      · exact absurd rfl (hw.plain '_' hm).2
      · exact absurd (Text.trim_of_forall fun c hc => (hw.plain c hc).1) ht
  · rename_i h
    simp only [Bool.or_eq_true, List.contains_iff_mem, bne_iff_ne, not_or, not_not] at h
    exact Text.looseInteger?_eq_some_iff h.1 h.2

/-! ### Longs -/

def IsLong (n : Int) : Prop := -2 ^ 63 ≤ n ∧ n ≤ 2 ^ 63 - 1

instance (n : Int) : Decidable (IsLong n) := inferInstanceAs (Decidable (_ ∧ _))

theorem inLongRange_iff : inLongRange n = true ↔ IsLong n := by
  simp only [inLongRange, IsLong, Bool.and_eq_true, decide_eq_true_eq]
  omega

section Given

variable (given : v.source ≠ .static)
include given

theorem long_of_writes (h : Writes v.raw.toList n) :
    v.long =
      if inLongRange n then (n, []) else (0, [warning "Value out of range for long" v.raw]) := by
  rw [long, asLong, if_neg given, longText?_eq_some_iff.2 h]
  dsimp only
  split
  · rfl
  · rfl

theorem long_of_not_writes (h : ¬∃ n, Writes v.raw.toList n) :
    v.long = (0, [warning "Unable to convert value to long" v.raw]) := by
  have hn : longText? v.raw = none := by
    apply Option.eq_none_iff_forall_ne_some.2
    intro n hn
    exact h ⟨n, longText?_eq_some_iff.1 hn⟩
  rw [long, asLong, if_neg given, hn]
  rfl

/-- A text writes a long, or an integer that is none, or no integer at all. -/
theorem long_cases :
    (∃ n, Writes v.raw.toList n ∧ IsLong n ∧ v.long = (n, [])) ∨
    (∃ n, Writes v.raw.toList n ∧ ¬IsLong n ∧
      v.long = (0, [warning "Value out of range for long" v.raw])) ∨
    (¬∃ n, Writes v.raw.toList n) ∧
      v.long = (0, [warning "Unable to convert value to long" v.raw]) := by
  by_cases h : ∃ n, Writes v.raw.toList n
  · obtain ⟨n, hn⟩ := h
    have hl := long_of_writes given hn
    by_cases hr : IsLong n
    · rw [if_pos (inLongRange_iff.2 hr)] at hl
      exact .inl ⟨n, hn, hr, hl⟩
    · rw [if_neg (mt inLongRange_iff.1 hr)] at hl
      exact .inr (.inl ⟨n, hn, hr, hl⟩)
  · exact .inr (.inr ⟨h, long_of_not_writes given h⟩)

theorem long_eq_iff : v.long = (n, []) ↔ Writes v.raw.toList n ∧ IsLong n := by
  constructor
  · intro h
    rcases long_cases given with ⟨m, hw, hr, hl⟩ | ⟨m, -, -, hl⟩ | ⟨-, hl⟩ <;> rw [hl] at h
    · cases h
      exact ⟨hw, hr⟩
    · simp at h
    · simp at h
  · rintro ⟨hw, hr⟩
    rw [long_of_writes given hw, if_pos (inLongRange_iff.2 hr)]

theorem long_out_of_range_iff :
    v.long = (0, [warning "Value out of range for long" v.raw]) ↔
      ∃ n, Writes v.raw.toList n ∧ ¬IsLong n := by
  constructor
  · intro h
    rcases long_cases given with ⟨n, -, -, hl⟩ | ⟨n, hw, hr, -⟩ | ⟨-, hl⟩
    · simp [hl] at h
    · exact ⟨n, hw, hr⟩
    · simp [hl, warning] at h
  · rintro ⟨n, hw, hr⟩
    rw [long_of_writes given hw, if_neg (mt inLongRange_iff.1 hr)]

theorem long_unreadable_iff :
    v.long = (0, [warning "Unable to convert value to long" v.raw]) ↔
      ¬∃ n, Writes v.raw.toList n := by
  constructor
  · intro h
    rcases long_cases given with ⟨n, -, -, hl⟩ | ⟨n, -, -, hl⟩ | ⟨hw, -⟩
    · simp [hl] at h
    · simp [hl, warning] at h
    · exact hw
  · exact long_of_not_writes given

theorem isLong_long : IsLong v.long.1 := by
  have hz : IsLong 0 := by decide
  rcases long_cases given with ⟨n, -, hr, hl⟩ | ⟨n, -, -, hl⟩ | ⟨-, hl⟩ <;> rw [hl]
  · exact hr
  · exact hz
  · exact hz

end Given

/-- A long is short enough to be read. -/
theorem writes_of_isLong (h : IsLong n) : Writes (toString n).toList n := by
  apply Text.writes_toString
  have hn : n.natAbs < 10 ^ 19 := by
    obtain ⟨hl, hu⟩ := h
    omega
  have hd := (Nat.length_toDigits_le_iff (by decide) (by decide)).2 hn
  omega

/-- The long of a text is the integer of 64 bits that the text writes. Where there is none it is
zero, and one warning tells whether the integer is too large or the text writes no integer. Every
long is in range, and every integer in range is the long of its decimal text. -/
theorem long_exact (given : v.source ≠ .static) :
    (∀ n, v.long = (n, []) ↔ Writes v.raw.toList n ∧ IsLong n) ∧
      (v.long = (0, [warning "Value out of range for long" v.raw]) ↔
        ∃ n, Writes v.raw.toList n ∧ ¬IsLong n) ∧
      (v.long = (0, [warning "Unable to convert value to long" v.raw]) ↔
        ¬∃ n, Writes v.raw.toList n) ∧
      IsLong v.long.1 ∧
      ∀ n, IsLong n → (⟨v.source, toString n⟩ : Value).long = (n, []) := by
  refine ⟨fun n => long_eq_iff given, long_out_of_range_iff given, long_unreadable_iff given,
    isLong_long given, fun n hn => ?_⟩
  have hs : (⟨v.source, toString n⟩ : Value).source ≠ .static := given
  exact (long_eq_iff hs).2 ⟨writes_of_isLong hn, hn⟩

/-- The least long, its decimal text, and the integer below it. -/
theorem long_exact_least :
    (Value.mk .remote "-9223372036854775808").long = (-2 ^ 63, []) ∧
      Writes "-9223372036854775808".toList (-2 ^ 63) ∧
      ¬∃ n, Writes "-9223372036854775809".toList n ∧ IsLong n := by
  have given (raw : String) : (Value.mk .remote raw).source ≠ .static := by simp
  have hl : (Value.mk .remote "-9223372036854775808").long = (-2 ^ 63, []) := by rfl
  have ho : (Value.mk .remote "-9223372036854775809").long.2 ≠ [] := by
    intro h
    cases h
  have hw := ((long_exact (given "-9223372036854775808")).1 _).1 hl
  refine ⟨hl, hw.1, ?_⟩
  rintro ⟨n, hn⟩
  have he := ((long_exact (given "-9223372036854775809")).1 n).2 hn
  exact ho (by rw [he])

/-! ### Doubles -/

theorem double_of_parse? {x : Binary64} (given : v.source ≠ .static)
    (h : Binary64.parse? v.raw = some x) : v.double = (x, []) := by
  rw [double, asDouble, if_neg given, h]
  rfl

theorem double_of_not_denotes (given : v.source ≠ .static)
    (h : ¬∃ literal, Literal.Denotes v.raw literal) :
    v.double = (.zero false, [warning "Unable to convert value to double" v.raw]) := by
  have hn : Binary64.parse? v.raw = none := by
    apply Option.eq_none_iff_forall_ne_some.2
    intro x hx
    obtain ⟨literal, hd, -⟩ := Binary64.parse?_eq_some_iff.1 hx
    exact h ⟨literal, hd⟩
  rw [double, asDouble, if_neg given, hn]
  rfl

/-- A sign and digits spell a decimal with neither a point nor an exponent. -/
theorem spells_of_isDigit {sign digits : List Char} {negative : Bool}
    (isSign : Literal.IsSign sign negative) (isDigit : ∀ c ∈ digits, c.isDigit = true)
    (nonempty : digits ≠ []) :
    Literal.Spells (sign ++ digits)
      (.decimal ⟨negative, Nat.ofDigitChars 10 digits 0, 0⟩) := by
  have hs := Literal.Spells.decimal isSign isDigit .absent (by simpa using nonempty) .absent .absent
  simpa using hs

def startsNegative (raw : String) : Bool := raw.toList.head? = some '-'

theorem startsNegative_eq {raw : String} {sign digits : List Char} {negative : Bool}
    (he : raw.toList = sign ++ digits) (isSign : Literal.IsSign sign negative)
    (isDigit : ∀ c ∈ digits, c.isDigit = true) : startsNegative raw = negative := by
  rw [startsNegative, he]
  cases isSign with
  | absent =>
    cases digits with
    | nil => rfl
    | cons d digits =>
      have hd := (Literal.ne_sign (.inl (isDigit d List.mem_cons_self))).2
      simpa using hd
  | plus => rfl
  | minus => rfl

/-- A plain text that writes an integer denotes it as a literal without point and exponent. -/
theorem denotes_of_writes {raw : String} (h : Writes raw.toList n)
    (plain : ∀ c ∈ raw.toList, c.toNat < 0x80) :
    ∃ coefficient : Nat, n = Binary64.signFactor (startsNegative raw) * coefficient ∧
      Literal.Denotes raw (.decimal ⟨startsNegative raw, coefficient, 0⟩) := by
  generalize ht : raw.toList = text at h
  cases h with
  | @intro sign digits negative values isSign hasValues nonempty short =>
    have isDigit : ∀ c ∈ digits, c.isDigit = true := by
      intro c hc
      obtain ⟨d, hd⟩ := hasValues.exists_of_mem c hc
      exact Text.isDigit_of_digitValue? hd (plain c (ht ▸ List.mem_append_right _ hc))
    have hv : Nat.ofDigits 10 values.reverse = Nat.ofDigitChars 10 digits 0 := by
      rw [hasValues.unique (Text.hasValues_of_isDigit isDigit), Text.ofDigits_of_isDigit]
    have hs := spells_of_isDigit isSign isDigit nonempty
    rw [startsNegative_eq ht isSign isDigit, hv]
    refine ⟨_, ?_, [], _, [], by simpa using ht, by simp, by simp, hs⟩
    cases negative <;> simp [Binary64.signFactor]

/-- A plain text that writes a long is a double as well, the one nearest to the long. -/
theorem double_of_plain (given : v.source ≠ .static) (h : Writes v.raw.toList n) (hn : IsLong n)
    (plain : ∀ c ∈ v.raw.toList, c.toNat < 0x80) :
    ∃ units fits, v.double = (.finite (startsNegative v.raw) units fits, []) ∧
      Binary64.IsNearest n (.finite (startsNegative v.raw) units fits) := by
  obtain ⟨coefficient, he, hd⟩ := denotes_of_writes h plain
  have hc : coefficient < 2 ^ 64 := by
    obtain ⟨hl, hu⟩ := hn
    cases hs : startsNegative v.raw <;> simp [hs, Binary64.signFactor] at he <;> omega
  have hu := Binary64.decimalUnits_lt_overflowUnits hc (by decide)
  obtain ⟨units, fits, ho, hnearest⟩ :=
    Binary64.isNearest_ofDecimal ⟨startsNegative v.raw, coefficient, 0⟩ hu
  have hp : Binary64.parse? v.raw = some (.finite (startsNegative v.raw) units fits) :=
    Binary64.parse?_eq_some_iff.2 ⟨_, hd, ho⟩
  have hq : Decimal.toRat ⟨startsNegative v.raw, coefficient, 0⟩ = n := by
    rw [Decimal.toRat, he]
    push_cast
    simp
  rw [hq] at hnearest
  exact ⟨units, fits, double_of_parse? given hp, hnearest⟩

/-- A text with a digit of another script is no double. -/
theorem double_of_not_plain (given : v.source ≠ .static) (h : ∃ c ∈ v.raw.toList, 0x80 ≤ c.toNat) :
    v.double = (.zero false, [warning "Unable to convert value to double" v.raw]) := by
  apply double_of_not_denotes given
  rintro ⟨literal, hd⟩
  obtain ⟨c, hc, hl⟩ := h
  have := hd.toNat_lt c hc
  omega

/-- A text that is taken for a long is taken for the nearest double if its digits are plain; a zero
keeps the sign of the text. With digits of another script the double is refused: it is zero, with
one warning. -/
theorem double_of_long (given : v.source ≠ .static) (h : v.long = (n, [])) :
    ((∀ c ∈ v.raw.toList, c.toNat < 0x80) →
      ∃ units fits, v.double = (.finite (startsNegative v.raw) units fits, []) ∧
        Binary64.IsNearest n (.finite (startsNegative v.raw) units fits)) ∧
      ((∃ c ∈ v.raw.toList, 0x80 ≤ c.toNat) →
        v.double = (.zero false, [warning "Unable to convert value to double" v.raw])) := by
  obtain ⟨hw, hr⟩ := (long_eq_iff given).1 h
  exact ⟨double_of_plain given hw hr, double_of_not_plain given⟩

/-- An odd integer of 54 bits is a long, and its double ends even. -/
theorem double_of_long_tie :
    (Value.mk .remote "+9007199254740993").long = (9007199254740993, []) ∧
      ∃ units fits, (Value.mk .remote "+9007199254740993").double =
          (.finite false units fits, []) ∧
        Binary64.IsNearest (9007199254740993 : Int) (.finite false units fits) := by
  have hl : (Value.mk .remote "+9007199254740993").long = (9007199254740993, []) := rfl
  have hp : ("+9007199254740993".toList.all fun c => c.toNat < 0x80) = true := by decide
  have plain : ∀ c ∈ "+9007199254740993".toList, c.toNat < 0x80 := fun c hc =>
    of_decide_eq_true (List.all_eq_true.1 hp c hc)
  exact ⟨hl, (double_of_long (by simp) hl).1 plain⟩

/-- The long twelve in Arabic digits is no double. -/
theorem long_without_double :
    (Value.mk .remote "\u0661\u0662").long = (12, []) ∧
      (Value.mk .remote "\u0661\u0662").double =
        (.zero false, [warning "Unable to convert value to double" "\u0661\u0662"]) ∧
      ¬Binary64.IsNearest (12 : Int) (.zero false) := by
  have fits : Binary64.Representable (12 * Binary64.unitsOfOne) := by decide +kernel
  have hu : (Binary64.unitsOfOne : ℚ) ≠ 0 := by exact_mod_cast Binary64.unitsOfOne_pos.ne'
  have hq : Binary64.toRat? (.finite false _ fits) = some 12 := by
    rw [Binary64.toRat?, Binary64.ratOf]
    push_cast
    rw [mul_div_cancel_right₀ _ hu]
    norm_num [Binary64.signFactor]
  refine ⟨rfl, rfl, fun h => ?_⟩
  have hn := (h _ _ hq).1
  rw [Binary64.ratOf_zero] at hn
  norm_num at hn

end Value

end TargetedConfig
