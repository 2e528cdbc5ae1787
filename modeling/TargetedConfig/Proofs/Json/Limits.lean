import TargetedConfig.Proofs.Json.Reading

/-!
# What is read can be read again

The scanner refuses integers that are too long, so no value of a text holds one. A value can be
written and loses nothing that matters: the text of what a text keeps is the text itself.
-/

namespace TargetedConfig.Json

-- Powers of numbers are those of the core library, whatever else is imported.
attribute [local instance (1100)] instPowNat

namespace Token

variable {digits : List Char}

private theorem ofDigitChars_lt (hd : ∀ c ∈ digits, c.isDigit = true) (init : Nat) :
    Nat.ofDigitChars 10 digits init < 10 ^ digits.length * (init + 1) := by
  induction digits generalizing init with
  | nil => simp
  | cons c rest ih =>
    have hc : c.toNat - '0'.toNat < 10 := by
      have h := hd c (by simp)
      rw [Char.isDigit, Bool.and_eq_true, decide_eq_true_iff, decide_eq_true_iff] at h
      have h₁ : c.toNat ≤ 57 := h.2
      have h₂ : '0'.toNat = 48 := rfl
      omega
    have hr := ih (fun d h => hd d (by simp [h])) (10 * init + (c.toNat - '0'.toNat))
    rw [Nat.ofDigitChars_cons]
    calc Nat.ofDigitChars 10 rest (10 * init + (c.toNat - '0'.toNat))
      _ < 10 ^ rest.length * (10 * init + (c.toNat - '0'.toNat) + 1) := hr
      _ ≤ 10 ^ rest.length * (10 * (init + 1)) := Nat.mul_le_mul_left _ (by omega)
      _ = 10 ^ (c :: rest).length * (init + 1) := by
        rw [List.length_cons, Nat.pow_succ, Nat.mul_assoc]

/-- The number of some digits is written with no more of them, and with the sign it is given. -/
theorem length_writeInteger_le (hd : ∀ c ∈ digits, c.isDigit = true) (hn : digits ≠ [])
    (negative : Bool) :
    (writeInteger (if negative then -(Nat.ofDigitChars 10 digits 0 : Int)
      else Nat.ofDigitChars 10 digits 0)).length ≤
      if negative then digits.length + 1 else digits.length := by
  have hl : (Nat.toDigits 10 (Nat.ofDigitChars 10 digits 0)).length ≤ digits.length := by
    refine (Nat.length_toDigits_le_iff (by decide) (List.length_pos_iff.2 hn)).2 ?_
    simpa using ofDigitChars_lt hd 0
  rw [writeInteger, List.length_append]
  cases negative with
  | false =>
    have h : ¬(Nat.ofDigitChars 10 digits 0 : Int) < 0 := by omega
    simpa [h] using hl
  | true =>
    have hs : (if -(Nat.ofDigitChars 10 digits 0 : Int) < 0 then ['-'] else []).length ≤ 1 := by
      split <;> simp
    simp only [if_true, Int.natAbs_neg, Int.natAbs_natCast]
    omega

theorem isDigit_of_scanWhole {cs whole rest : List Char} (h : scanWhole cs = some (whole, rest)) :
    whole ≠ [] ∧ ∀ c ∈ whole, c.isDigit = true := by
  unfold scanWhole at h
  split at h
  · cases h
    simp
  · dsimp only at h
    split at h
    · cases h
    · rename_i hd
      cases h
      exact ⟨by simpa using hd, List.all_eq_true.1 List.all_takeWhile⟩

theorem fits_of_scanNumber {negative : Bool} {cs rest : List Char} {t : Token}
    (h : scanNumber negative cs = some (t, rest)) : t.fits = true := by
  simp only [scanNumber, Option.bind_eq_bind, Option.bind_eq_some_iff, Prod.exists] at h
  obtain ⟨whole, afterWhole, hw, fraction, afterFraction, -, exponent, afterExponent, -, h⟩ := h
  obtain ⟨hne, hd⟩ := isDigit_of_scanWhole hw
  split at h
  · cases h
  · rename_i hf
    split at h
    · cases h
      have hl := length_writeInteger_le hd hne negative
      have hm : (if negative then whole.length + 1 else whole.length) ≤ maxWholeLength := by
        simpa [wholeFits] using hf
      exact decide_eq_true (Nat.le_trans hl hm)
    · cases h
      rfl

theorem fits_of_scanWord {word : String} {token t : Token} {cs rest : List Char}
    (ht : token.fits = true) (h : scanWord word token cs = some (t, rest)) : t.fits = true := by
  rw [scanWord, Option.map_eq_some_iff] at h
  obtain ⟨after, -, he⟩ := h
  cases he
  exact ht

/-- No integer that is too long is scanned. -/
theorem fits_of_scan {cs rest : List Char} {t : Token} (h : scan cs = some (t, rest)) :
    t.fits = true := by
  unfold scan at h
  split at h
  case h_7 =>
    obtain ⟨scanned, -, he⟩ := Option.map_eq_some_iff.1 h
    cases he
    rfl
  case h_14 | h_15 => exact fits_of_scanNumber h
  case h_1 | h_2 | h_3 | h_4 | h_5 | h_6 =>
    cases h
    rfl
  all_goals exact fits_of_scanWord rfl h

theorem fits_of_tokens? {cs : List Char} {tokens : List Token} (h : tokens? cs = some tokens) :
    ∀ t ∈ tokens, t.fits = true := by
  induction cs using tokens?.induct generalizing tokens with
  | case1 cs he =>
    rw [tokens?.eq_def, if_pos he] at h
    cases h
    simp
  | case2 cs he hs =>
    rw [tokens?.eq_def, if_neg he] at h
    split at h
    · cases h
    · rename_i t rest hr
      rw [hs] at hr
      cases hr
  | case3 cs he t rest hs ih =>
    rw [tokens?.eq_def, if_neg he] at h
    split at h
    · cases h
    · rename_i u more hr
      rw [hs] at hr
      cases hr
      obtain ⟨others, ho, rfl⟩ := Option.map_eq_some_iff.1 h
      rw [List.forall_mem_cons]
      exact ⟨fits_of_scan hs, ih ho⟩

end Token

namespace Value

theorem integersFit_array (items : List Value) :
    (array items).integersFit = true ↔ ∀ v ∈ items, v.integersFit = true := by
  rw [integersFit]
  induction items with
  | nil => simp [integersFitItems]
  | cons v rest ih => rw [integersFitItems, Bool.and_eq_true, ih, List.forall_mem_cons]

theorem integersFit_object (fields : List (String × Value)) :
    (object fields).integersFit = true ↔ ∀ p ∈ fields, p.2.integersFit = true := by
  rw [integersFit]
  induction fields with
  | nil => simp [integersFitFields]
  | cons p rest ih =>
    obtain ⟨k, v⟩ := p
    rw [integersFitFields, Bool.and_eq_true, ih, List.forall_mem_cons]

private theorem tokens_subset_items {items : List Value} {v : Value} (h : v ∈ items)
    (first : Bool) : v.tokens ⊆ tokensItems first items := by
  induction items generalizing first with
  | nil => cases h
  | cons w rest ih =>
    intro t ht
    rw [tokensItems]
    rcases List.mem_cons.1 h with rfl | h
    · simp [ht]
    · simp [ih h false ht]

private theorem tokens_subset_fields {fields : List (String × Value)} {p : String × Value}
    (h : p ∈ fields) (first : Bool) : p.2.tokens ⊆ tokensFields first fields := by
  induction fields generalizing first with
  | nil => cases h
  | cons q rest ih =>
    intro t ht
    rw [tokensFields]
    rcases List.mem_cons.1 h with rfl | h
    · simp [ht]
    · simp [ih h false ht]

/-- No integer of a value is too long if none of its words is one. -/
theorem integersFit_of_tokens {v : Value} (h : ∀ t ∈ v.tokens, t.fits = true) :
    v.integersFit = true := by
  induction v using tree_induction with
  | integer n => exact h (.integer n) List.mem_cons_self
  | array items ih =>
    refine (integersFit_array items).2 fun v hv => ih v hv fun t ht => ?_
    exact h t (List.mem_cons_of_mem _ (tokens_subset_items hv true ht))
  | object fields ih =>
    refine (integersFit_object fields).2 fun p hp => ih p hp fun t ht => ?_
    exact h t (List.mem_cons_of_mem _ (tokens_subset_fields hp true ht))
  | null | bool | float | string => rfl

end Value

/-- No integer of a value that has been read is too long to be read. -/
theorem integersFit_of_read? {limit : Nat} {text : String} {v : Value}
    (h : read? limit text = some v) : v.integersFit = true :=
  Value.integersFit_of_tokens (Token.fits_of_tokens? (read?_eq_some_iff.1 h).1)

/-! ### What a text keeps -/

namespace Value

private theorem textOf_writtenItems {items : List Value}
    (h : ∀ v ∈ items, textOf v.written.tokens = textOf v.tokens) (first : Bool) :
    textOf (tokensItems first (items.map written)) = textOf (tokensItems first items) := by
  induction items generalizing first with
  | nil => rfl
  | cons v rest ih =>
    rw [List.map_cons, tokensItems, tokensItems, textOf_append, textOf_append, textOf_append,
      textOf_append, h v (by simp), ih fun w hw => h w (by simp [hw])]

private theorem textOf_cons (t : Token) (tokens : List Token) :
    textOf (t :: tokens) = t.write ++ textOf tokens := rfl

private theorem textOf_writtenFields {fields : List (String × Value)}
    (h : ∀ p ∈ fields, textOf p.2.written.tokens = textOf p.2.tokens) (first : Bool) :
    textOf (tokensFields first (fields.map fun p => (p.1, p.2.written))) =
      textOf (tokensFields first fields) := by
  induction fields generalizing first with
  | nil => rfl
  | cons p rest ih =>
    obtain ⟨k, v⟩ := p
    rw [List.map_cons, tokensFields, tokensFields]
    simp only [textOf_append, textOf_cons, List.append_assoc]
    rw [h (k, v) (by simp), ih fun w hw => h w (by simp [hw])]

private theorem textOf_written (v : Value) : textOf v.written.tokens = textOf v.tokens := by
  induction v using tree_induction with
  | array items ih =>
    rw [written, writtenItems_eq_map, tokens, tokens, textOf_cons, textOf_cons,
      textOf_writtenItems ih]
  | object fields ih =>
    rw [written, writtenFields_eq_map, tokens, tokens, textOf_cons, textOf_cons,
      textOf_writtenFields ih]
  | float x => cases x <;> rfl
  | null | bool | integer | string => rfl

/-- What a text keeps of a value has the same text. -/
theorem render_written (v : Value) : v.written.render = v.render :=
  congrArg String.ofList (textOf_written v)

theorem integersFit_written {v : Value} (h : v.integersFit = true) :
    v.written.integersFit = true := by
  induction v using tree_induction with
  | array items ih =>
    rw [written, writtenItems_eq_map, integersFit_array, List.forall_mem_map]
    exact fun v hv => ih v hv ((integersFit_array items).1 h v hv)
  | object fields ih =>
    rw [written, writtenFields_eq_map, integersFit_object, List.forall_mem_map]
    exact fun p hp => ih p hp ((integersFit_object fields).1 h p hp)
  | float x => cases x <;> rfl
  | null | bool | string => rfl
  | integer => exact h

end Value

end TargetedConfig.Json
