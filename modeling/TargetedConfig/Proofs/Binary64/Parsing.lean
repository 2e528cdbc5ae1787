import TargetedConfig.Proofs.Binary64.Notation
import TargetedConfig.Proofs.Binary64.Overflow
import TargetedConfig.Proofs.Text.Integer

/-!
# Parsing in stages

A number text can be taken apart in stages: blanks go, a pattern decides whether the rest is a
literal, a type letter goes as well, and what is left is read by a reader of floating-point numbers
that allows much more. `Binary64.parse?` gives the same answers, and after the pattern no stage fails.
-/

namespace TargetedConfig

namespace Literal

variable {text body rest suffix : List Char} {literal : Literal} {d : Decimal}

/-! ### Type letters -/

def isTypeLetter (c : Char) : Bool := ['f', 'F', 'd', 'D'].contains c

def unsuffixed (text : List Char) : List Char :=
  if text.getLast?.any isTypeLetter then text.dropLast else text

theorem unsuffixed_of_getLast? (h : ∀ c ∈ text.getLast?, isTypeLetter c = false) :
    unsuffixed text = text := by
  rw [unsuffixed, if_neg]
  rw [Option.any_eq_true_iff_get]
  rintro ⟨hs, hl⟩
  rw [h _ (Option.get_mem hs)] at hl
  cases hl

theorem unsuffixed_append (hb : ∀ c ∈ body, isTypeLetter c = false) (hs : IsSuffix suffix) :
    unsuffixed (body ++ suffix) = body := by
  cases hs with
  | absent =>
    rw [List.append_nil]
    exact unsuffixed_of_getLast? fun c hc => hb c (List.mem_of_getLast? hc)
  | letter mem =>
    rw [unsuffixed, List.getLast?_concat, if_pos (by simpa [isTypeLetter] using mem),
      List.dropLast_concat]

/-- Nothing in a decimal literal looks like a letter but its exponent and its suffix. -/
theorem isTypeLetter_eq_false {c : Char} (h : c.isDigit = true ∨ c ∈ decimalMarks) :
    isTypeLetter c = false ∧ c.toLower ≠ 'n' := by
  have hm : ((usualDigits ++ decimalMarks).all fun c =>
      isTypeLetter c = false ∧ c.toLower ≠ 'n') = true := by decide
  exact of_decide_eq_true (of_all_usualDigits hm h)

/-- What is left of a decimal literal holds no letter but that of its exponent, and spells the same
with any suffix. -/
theorem Spells.unsuffixed_body (h : Spells text (.decimal d)) :
    (∀ c ∈ unsuffixed text, c.isDigit = true ∨ c ∈ decimalMarks) ∧
      ∀ suffix, IsSuffix suffix → Spells (unsuffixed text ++ suffix) (.decimal d) := by
  obtain ⟨body, suffix, rfl, isSuffix, hb, hs⟩ := h.exists_body
  rw [unsuffixed_append (fun c hc => (isTypeLetter_eq_false (hb c hc)).1) isSuffix]
  exact ⟨hb, hs⟩

/-- The words end in other letters. -/
theorem Spells.unsuffixed_eq (h : Spells text literal) (word : ∀ d, literal ≠ .decimal d) :
    unsuffixed text = text := by
  apply unsuffixed_of_getLast?
  cases h with
  | nan => simp [isTypeLetter]
  | infinity => simp [isTypeLetter]
  | decimal => exact absurd rfl (word _)

/-- The suffix of a literal may be dropped, and that of a decimal literal may be any. -/
theorem Spells.resuffixed (h : Spells text literal) (hs : IsSuffix suffix)
    (allowed : suffix = [] ∨ ∃ d, literal = .decimal d) :
    Spells (unsuffixed text ++ suffix) literal := by
  by_cases hd : ∃ d, literal = .decimal d
  · obtain ⟨d, rfl⟩ := hd
    exact h.unsuffixed_body.2 suffix hs
  · rw [allowed.resolve_right hd, List.append_nil, h.unsuffixed_eq (not_exists.1 hd)]
    exact h

/-! ### Floating-point numbers -/

/-- A digit of any script, written as a usual one. -/
def plainDigit (c : Char) : Char := ((Text.digitValue? c.toNat).map Nat.digitChar).getD c

/-- Drops underscores between two digits; `none` if one stands elsewhere. -/
def joined? (afterDigit : Bool) : List Char → Option (List Char)
  | [] => some []
  | c :: rest =>
    if c = '_' then
      if afterDigit && rest.head?.any Char.isDigit then joined? false rest else none
    else (joined? c.isDigit rest).map (c :: ·)

/-- A number without a sign: a word in any letter case or a decimal literal without a suffix. -/
def unsigned? (negative : Bool) (text : List Char) : Option Literal :=
  let word := text.map Char.toLower
  if word = "nan".toList then some .nan
  else if word = "inf".toList ∨ word = "infinity".toList then some (.infinity negative)
  else if text.any isTypeLetter then none
  else (decimal? negative text).map .decimal

/-- Reads a floating-point number between blanks, with digits of any script and underscores between
them. -/
def loose? (text : List Char) : Option Literal :=
  (joined? false ((Text.trim (fun c => Text.isWhitespace c.toNat) text).map plainDigit)).bind
    fun text => unsigned? (sign text).1 (sign text).2

theorem joined?_of_not_mem {afterDigit : Bool} (h : '_' ∉ text) :
    joined? afterDigit text = some text := by
  induction text generalizing afterDigit with
  | nil => rfl
  | cons c rest ih =>
    rw [List.mem_cons, not_or] at h
    rw [joined?, if_neg (Ne.symm h.1), ih h.2, Option.map_some]

/-- The characters of literals are neither blanks nor underscores nor digits of other scripts. -/
theorem Spells.plain (h : Spells text literal) :
    ∀ c ∈ text, Text.isWhitespace c.toNat = false ∧ plainDigit c = c ∧ c ≠ '_' := by
  have hm : ((usualDigits ++ marks).all fun c =>
      Text.isWhitespace c.toNat = false ∧ plainDigit c = c ∧ c ≠ '_') = true := by decide
  intro c hc
  exact of_decide_eq_true (of_all_usualDigits hm (h.isDigit_or_mem_marks c hc))

/-- Nothing has to be dropped or replaced in a literal. -/
theorem loose?_eq (h : Spells text literal) :
    loose? text = unsigned? (sign text).1 (sign text).2 := by
  have hp := h.plain
  have ht : Text.trim (fun c => Text.isWhitespace c.toNat) text = text :=
    Text.trim_of_forall fun c hc => (hp c hc).1
  have hm : text.map plainDigit = text :=
    (List.map_congr_left fun c hc => (hp c hc).2.1).trans (List.map_id text)
  rw [loose?, ht, hm, joined?_of_not_mem fun hu => (hp _ hu).2.2 rfl, Option.bind_some]

theorem unsigned?_of_marks (negative : Bool) (h : ∀ c ∈ text, c.isDigit = true ∨ c ∈ decimalMarks) :
    unsigned? negative text = (decimal? negative text).map .decimal := by
  -- All the words of the reader hold this letter.
  have hw {word : List Char} (hn : 'n' ∈ word) : text.map Char.toLower ≠ word := by
    rintro rfl
    obtain ⟨c, hc, hl⟩ := List.mem_map.1 hn
    exact (isTypeLetter_eq_false (h c hc)).2 hl
  have hl : ¬text.any isTypeLetter = true := by
    rw [List.any_eq_true]
    rintro ⟨c, hc, hl⟩
    rw [(isTypeLetter_eq_false (h c hc)).1] at hl
    cases hl
  rw [unsigned?, if_neg (hw (by decide)), if_neg (not_or_intro (hw (by decide)) (hw (by decide))),
    if_neg hl]

theorem Spells.decimal?_eq (h : Spells text (.decimal d)) :
    decimal? (sign text).1 (sign text).2 = some d := by
  have hr := read?_eq_some_iff.2 h
  rw [read?] at hr
  dsimp only at hr
  split at hr
  · cases hr
  · split at hr
    · cases hr
    · simpa using hr

/-- A literal is a floating-point number once its suffix is dropped. -/
theorem Spells.loose?_unsuffixed (h : Spells text literal) :
    loose? (unsuffixed text) = some literal := by
  cases literal with
  | nan =>
    rw [h.unsuffixed_eq (by simp), loose?_eq h]
    cases h with
    | nan isSign =>
      rw [sign_append isSign (by rintro c ⟨⟩; decide)]
      rfl
  | infinity negative =>
    rw [h.unsuffixed_eq (by simp), loose?_eq h]
    cases h with
    | infinity isSign =>
      rw [sign_append isSign (by rintro c ⟨⟩; decide)]
      rfl
  | decimal d =>
    obtain ⟨hb, hs⟩ := h.unsuffixed_body
    have hw : Spells (unsuffixed text) (.decimal d) :=
      List.append_nil (unsuffixed text) ▸ hs [] .absent
    obtain ⟨sign, -, he⟩ := exists_sign (unsuffixed text)
    have hr : ∀ c ∈ (Literal.sign (unsuffixed text)).2, c.isDigit = true ∨ c ∈ decimalMarks :=
      fun c hc => hb c (he ▸ List.mem_append_right sign hc)
    rw [loose?_eq hw, unsigned?_of_marks _ hr, hw.decimal?_eq, Option.map_some]

end Literal

namespace Binary64

open Literal (IsSuffix Spells isBlank loose? pattern toBinary64 unsuffixed)
open Pattern (fullMatch)

/-- What stands between the blanks. -/
def inner (text : String) : List Char := Text.trim isBlank text.toList

/-- Parsing in stages. -/
def staged? (text : String) : Option Binary64 :=
  match fullMatch pattern (String.ofList (inner text)) with
  | .ok true => (loose? (unsuffixed (inner text))).map toBinary64
  | _ => none

variable {text : String} {literal : Literal} {body before after suffix : List Char} {d : Decimal}

theorem parse?_of_spells (h : Spells (inner text) literal) :
    parse? text = some literal.toBinary64 := by
  rw [parse?, ← inner, Literal.read?_eq_some_iff.2 h, Option.map_some]

theorem read?_eq_none (h : ¬∃ literal, Spells body literal) : Literal.read? body = none :=
  Option.eq_none_iff_forall_ne_some.2 fun literal hr => h ⟨literal, Literal.read?_eq_some_iff.1 hr⟩

theorem parse?_eq_none_iff : parse? text = none ↔ ¬∃ literal, Spells (inner text) literal := by
  constructor
  · rintro hn ⟨literal, h⟩
    rw [parse?_of_spells h] at hn
    cases hn
  · intro h
    rw [parse?, ← inner, read?_eq_none h, Option.map_none]

theorem fullMatch_of_spells (h : Spells body literal) :
    fullMatch pattern (String.ofList body) = .ok true := by
  rw [Literal.fullMatch_pattern, String.toList_ofList, Literal.read?_eq_some_iff.2 h,
    Option.isSome_some]

theorem parse?_eq_staged? (text : String) : parse? text = staged? text := by
  by_cases h : ∃ literal, Spells (inner text) literal
  · obtain ⟨literal, hs⟩ := h
    rw [parse?_of_spells hs, staged?, fullMatch_of_spells hs]
    dsimp only
    rw [hs.loose?_unsuffixed, Option.map_some]
  · rw [parse?_eq_none_iff.2 h, staged?, Literal.fullMatch_pattern, String.toList_ofList,
      read?_eq_none h, Option.isSome_none]

/-- A literal is all that stands between no blanks. -/
theorem inner_ofList (h : Spells body literal) : inner (String.ofList body) = body := by
  rw [inner, String.toList_ofList, Text.trim_of_forall h.isBlank]

/-- Blanks around a text do not matter, whatever the text is. -/
theorem parse?_surrounded (hb : ∀ c ∈ before, isBlank c = true)
    (ha : ∀ c ∈ after, isBlank c = true) :
    parse? (String.ofList (before ++ (text.toList ++ after))) = parse? text := by
  rw [parse?, parse?, String.toList_ofList, Text.trim_surrounded hb ha]

/-- Neither does the suffix of a decimal literal. -/
theorem parse?_resuffixed (h : Spells (inner text) literal) (hs : IsSuffix suffix)
    (allowed : suffix = [] ∨ ∃ d, literal = .decimal d) :
    parse? (String.ofList (unsuffixed (inner text) ++ suffix)) = parse? text := by
  have hw := h.resuffixed hs allowed
  rw [parse?_of_spells h, parse?_of_spells ((inner_ofList hw).symm ▸ hw)]

/-- A decimal literal gives a number, and an infinity if it overflows. -/
theorem parse?_decimal (h : Spells (inner text) (.decimal d)) :
    parse? text ≠ some .nan ∧ ∀ negative, parse? text = some (.infinite negative) ↔
      negative = d.negative ∧ (2 ^ 1024 - 2 ^ 970 : ℚ) ≤ |d.toRat| := by
  have hp : parse? text = some (ofDecimal d) := parse?_of_spells h
  simp only [hp, Option.some.injEq, ne_eq]
  exact ⟨ofDecimal_ne_nan d, fun negative => ofDecimal_eq_infinite_iff⟩

/-- Parsing refuses exactly the texts that spell no literal between blanks, and agrees with parsing
in stages. Of a text that spells a literal the pattern matches what stands between the blanks, and
what is left without a type letter is read as the same literal. Neither blanks nor suffixes change
the number. A decimal literal never gives something that is not a number, and it gives an infinity
only where it overflows. -/
theorem parse?_exact (text : String) :
    (parse? text = none ↔ ¬∃ literal, Spells (inner text) literal) ∧
      parse? text = staged? text ∧
      (∀ literal, Spells (inner text) literal →
        fullMatch pattern (String.ofList (inner text)) = .ok true ∧
          loose? (unsuffixed (inner text)) = some literal ∧
          parse? text = some literal.toBinary64) ∧
      (∀ before after, (∀ c ∈ before, isBlank c = true) → (∀ c ∈ after, isBlank c = true) →
        parse? (String.ofList (before ++ (text.toList ++ after))) = parse? text) ∧
      (∀ literal suffix, Spells (inner text) literal → IsSuffix suffix →
        (suffix = [] ∨ ∃ d, literal = .decimal d) →
          parse? (String.ofList (unsuffixed (inner text) ++ suffix)) = parse? text) ∧
      ∀ d, Spells (inner text) (.decimal d) →
        parse? text ≠ some .nan ∧ ∀ negative, parse? text = some (.infinite negative) ↔
          negative = d.negative ∧ (2 ^ 1024 - 2 ^ 970 : ℚ) ≤ |d.toRat| :=
  ⟨parse?_eq_none_iff, parse?_eq_staged? text,
    fun _ h => ⟨fullMatch_of_spells h, h.loose?_unsuffixed, parse?_of_spells h⟩,
    fun _ _ hb ha => parse?_surrounded hb ha,
    fun _ _ h hs allowed => parse?_resuffixed h hs allowed,
    fun _ h => parse?_decimal h⟩

/-- A literal with a point, an exponent and a suffix between blanks, too large for a number. -/
theorem parse?_exact_overflowing :
    Spells (inner "\t-1.5e400f \n") (.decimal ⟨true, 15, 399⟩) ∧
      loose? "-1.5e400".toList = some (.decimal ⟨true, 15, 399⟩) ∧
      parse? "-1.5e400" = parse? "\t-1.5e400f \n" ∧
      parse? " -1.5e400\x00" = parse? "-1.5e400" ∧
      (2 ^ 1024 - 2 ^ 970 : ℚ) ≤ |Decimal.toRat ⟨true, 15, 399⟩| := by
  have hs : Spells (inner "\t-1.5e400f \n") (.decimal ⟨true, 15, 399⟩) :=
    Literal.read?_eq_some_iff.1 (by decide +kernel)
  have hi : parse? "\t-1.5e400f \n" = some (.infinite true) := by decide +kernel
  have hu : unsuffixed (inner "\t-1.5e400f \n") = "-1.5e400".toList := by decide +kernel
  have hb : " -1.5e400\x00" = String.ofList ([' '] ++ ("-1.5e400".toList ++ ['\x00'])) := rfl
  obtain ⟨-, -, accepted, -, suffixes, decimals⟩ := parse?_exact "\t-1.5e400f \n"
  obtain ⟨-, -, -, blanks, -, -⟩ := parse?_exact "-1.5e400"
  have loose := (accepted _ hs).2.1
  have bare := suffixes _ [] hs .absent (.inl rfl)
  rw [hu] at loose bare
  rw [List.append_nil, String.ofList_toList] at bare
  rw [hb]
  exact ⟨hs, loose, bare,
    blanks _ _ (List.forall_mem_singleton.2 rfl) (List.forall_mem_singleton.2 rfl),
    (((decimals _ hs).2 true).1 hi).2⟩

end Binary64

end TargetedConfig
