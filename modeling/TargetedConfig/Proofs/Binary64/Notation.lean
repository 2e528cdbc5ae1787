import Mathlib
import TargetedConfig.Proofs.Binary64.Literal
import TargetedConfig.Proofs.Pattern.Matching

/-!
# The pattern of number literals

The texts that spell number literals are a regular language: the matcher accepts them, and no others,
by one pattern. The pattern leaves open where a part ends that may be absent, so that it may take a
text in several ways; the reader of literals takes it in one.
-/

namespace TargetedConfig.Literal

open Pattern

def pattern : String :=
  "[+-]?(?:NaN|Infinity|(?:[0-9]+\\.?[0-9]*|\\.[0-9]+)(?:[eE][+-]?[0-9]+)?[fFdD]?)"

/-! ### Its parts -/

def oneOf (chars : List Char) : Pattern := .char (.set (chars.map (.single ·.toNat)) false)

/-- As many digits as possible, but not less than some. -/
def digitRun (least : Nat) : Pattern :=
  .repeated .greedy least none (.char (.set [.range '0'.toNat '9'.toNat] false))

def optional (part : Pattern) : Pattern := .repeated .greedy 0 (some 1) part

def signPart : Pattern := optional (oneOf ['+', '-'])

def digitsPart : Pattern :=
  ofAlternatives [[digitRun 1, optional (letter '.'), digitRun 0], [letter '.', digitRun 1]]

def exponentPart : Pattern := optional (ofParts [oneOf ['e', 'E'], signPart, digitRun 1])

def suffixPart : Pattern := optional (oneOf ['f', 'F', 'd', 'D'])

def unsignedPart : Pattern :=
  ofAlternatives [['N', 'a', 'N'].map letter, ['I', 'n', 'f', 'i', 'n', 'i', 't', 'y'].map letter,
    [digitsPart, exponentPart, suffixPart]]

def tree : Pattern := ofParts [signPart, unsignedPart]

def plainMode : Mode := ⟨false, false, false, false⟩

theorem read_pattern : Compiled.read pattern = .ok ⟨tree, 0, plainMode, 1⟩ := by cbv

/-! ### Their words -/

variable {w : List Char}

theorem mem_words_oneOf {chars : List Char} :
    w ∈ (oneOf chars).words plainMode ↔ ∃ c ∈ chars, w = [c] := by
  constructor
  · rintro ⟨x, hx, rfl⟩
    have hx : x ∈ chars := by
      simpa [CharTest.accepts, CharTest.inSet, plainMode, Member.holds, Char.toNat_inj] using hx
    exact ⟨x, hx, rfl⟩
  · rintro ⟨c, hc, rfl⟩
    refine ⟨c, ?_, rfl⟩
    simpa [CharTest.accepts, CharTest.inSet, plainMode, Member.holds, Char.toNat_inj] using hc

theorem mem_words_digitRun {least : Nat} :
    w ∈ (digitRun least).words plainMode ↔ least ≤ w.length ∧ ∀ c ∈ w, c.isDigit = true := by
  have ht (c : Char) : (CharTest.set [.range '0'.toNat '9'.toNat] false).accepts plainMode c = true ↔
      c.isDigit = true := by
    rw [Char.isDigit_iff_toNat]
    simp [CharTest.accepts, CharTest.inSet, plainMode, Member.holds]
  rw [digitRun, words, words, mem_repeats_single]
  simp only [ht]
  simp

theorem mem_words_optional {part : Pattern} :
    w ∈ (optional part).words plainMode ↔ w = [] ∨ w ∈ part.words plainMode := by
  rw [optional, words, repeats_succ, repeats_zero, mul_one, Language.mem_add, Language.mem_one]
  exact or_comm

theorem exists_isSign_iff : w ∈ signPart.words plainMode ↔ ∃ negative, IsSign w negative := by
  rw [signPart, mem_words_optional, mem_words_oneOf]
  constructor
  · rintro (rfl | ⟨c, hc, rfl⟩)
    · exact ⟨_, .absent⟩
    · rcases List.mem_pair.1 hc with rfl | rfl
      · exact ⟨_, .plus⟩
      · exact ⟨_, .minus⟩
  · rintro ⟨negative, h⟩
    cases h <;> simp

theorem isSuffix_iff_mem_words : w ∈ suffixPart.words plainMode ↔ IsSuffix w := by
  rw [suffixPart, mem_words_optional, mem_words_oneOf]
  constructor
  · rintro (rfl | ⟨c, hc, rfl⟩)
    · exact .absent
    · exact .letter hc
  · rintro (_ | hc)
    · exact .inl rfl
    · exact .inr ⟨_, hc, rfl⟩

theorem exists_isExponent_iff :
    w ∈ exponentPart.words plainMode ↔ ∃ exponent, IsExponent w exponent := by
  rw [exponentPart, mem_words_optional, words_ofParts]
  simp only [List.map_cons, List.map_nil, List.prod_cons, List.prod_nil, mul_one]
  constructor
  · rintro (rfl | hw)
    · exact ⟨_, .absent⟩
    · obtain ⟨_, hm, _, hr, rfl⟩ := Language.mem_mul.1 hw
      obtain ⟨sign, hs, digits, hd, rfl⟩ := Language.mem_mul.1 hr
      obtain ⟨mark, mark_mem, rfl⟩ := mem_words_oneOf.1 hm
      obtain ⟨negative, isSign⟩ := exists_isSign_iff.1 hs
      obtain ⟨nonempty, isDigit⟩ := mem_words_digitRun.1 hd
      have hn : digits ≠ [] := List.length_pos_iff.1 nonempty
      have he := IsExponent.marked (List.mem_pair.1 mark_mem) isSign isDigit hn
      exact ⟨_, he⟩
  · rintro ⟨_, h⟩
    cases h with
    | absent => exact .inl rfl
    | marked mark_eq isSign isDigit nonempty =>
      right
      rw [← List.singleton_append]
      refine Language.append_mem_mul (mem_words_oneOf.2 ⟨_, List.mem_pair.2 mark_eq, rfl⟩) ?_
      refine Language.append_mem_mul (exists_isSign_iff.2 ⟨_, isSign⟩) ?_
      exact mem_words_digitRun.2 ⟨List.length_pos_iff.2 nonempty, isDigit⟩

/-- Digits stand before a point that may be absent, or after it. -/
theorem mem_words_digitsPart :
    w ∈ digitsPart.words plainMode ↔ ∃ whole point fraction, (∀ c ∈ whole, c.isDigit = true) ∧
      IsFraction point fraction ∧ whole ++ fraction ≠ [] ∧ w = whole ++ point := by
  have hp : w ∈ digitsPart.words plainMode ↔
      w ∈ (digitRun 1).words plainMode * ((optional (letter '.')).words plainMode *
          (digitRun 0).words plainMode) ∨
        w ∈ (letter '.').words plainMode * (digitRun 1).words plainMode := by
    rw [digitsPart, mem_words_ofAlternatives (by simp)]
    simp
  rw [hp]
  constructor
  · rintro (hw | hw)
    · obtain ⟨whole, hwhole, _, hrest, rfl⟩ := Language.mem_mul.1 hw
      obtain ⟨point, hpoint, fraction, hfraction, rfl⟩ := Language.mem_mul.1 hrest
      obtain ⟨nonempty, isDigit⟩ := mem_words_digitRun.1 hwhole
      obtain ⟨-, isDigit'⟩ := mem_words_digitRun.1 hfraction
      have hn : whole ≠ [] := List.length_pos_iff.1 nonempty
      rcases mem_words_optional.1 hpoint with rfl | hpoint
      · refine ⟨whole ++ fraction, [], [], List.forall_mem_append.2 ⟨isDigit, isDigit'⟩, .absent, ?_,
          by simp⟩
        simp [hn]
      · rw [(mem_words_letter rfl '.').1 hpoint]
        exact ⟨whole, _, fraction, isDigit, .point isDigit', by simp [hn], by simp⟩
    · obtain ⟨point, hpoint, fraction, hfraction, rfl⟩ := Language.mem_mul.1 hw
      obtain ⟨nonempty, isDigit⟩ := mem_words_digitRun.1 hfraction
      rw [(mem_words_letter rfl '.').1 hpoint]
      exact ⟨[], _, fraction, by simp, .point isDigit, List.length_pos_iff.1 nonempty, rfl⟩
  · rintro ⟨whole, point, fraction, isDigit, isFraction, nonempty, rfl⟩
    have run {text : List Char} (h : ∀ c ∈ text, c.isDigit = true) (hn : text ≠ []) :
        text ∈ (digitRun 1).words plainMode :=
      mem_words_digitRun.2 ⟨List.length_pos_iff.2 hn, h⟩
    cases isFraction with
    | absent =>
      rw [List.append_nil] at nonempty
      refine .inl (Language.append_mem_mul (run isDigit nonempty) ?_)
      exact Language.append_mem_mul (mem_words_optional.2 (.inl rfl))
        (mem_words_digitRun.2 ⟨Nat.le_refl 0, by simp⟩)
    | point isDigit' =>
      have hl : '.' :: fraction = ['.'] ++ fraction := rfl
      have letter : ['.'] ∈ (letter '.').words plainMode := (mem_words_letter rfl '.').2 rfl
      rw [hl]
      by_cases hn : whole = []
      · subst hn
        rw [List.nil_append]
        exact .inr (Language.append_mem_mul letter (run isDigit' nonempty))
      · refine .inl (Language.append_mem_mul (run isDigit hn) ?_)
        exact Language.append_mem_mul (mem_words_optional.2 (.inr letter))
          (mem_words_digitRun.2 ⟨Nat.zero_le _, isDigit'⟩)

theorem mem_words_unsignedPart :
    w ∈ unsignedPart.words plainMode ↔
      w = ['N', 'a', 'N'] ∨ w = ['I', 'n', 'f', 'i', 'n', 'i', 't', 'y'] ∨
        w ∈ digitsPart.words plainMode * (exponentPart.words plainMode *
          suffixPart.words plainMode) := by
  have hl (word : List Char) : w ∈ ((word.map letter).map (words plainMode)).prod ↔ w = word :=
    mem_prod_words_letters rfl word
  rw [unsignedPart, mem_words_ofAlternatives (by simp)]
  simp only [List.mem_cons, List.not_mem_nil, or_false, exists_eq_or_imp, exists_eq_left, hl]
  simp only [List.map_cons, List.map_nil, List.prod_cons, List.prod_nil, mul_one]

/-- The words of the pattern are the texts that spell literals. -/
theorem mem_words_tree : w ∈ tree.words plainMode ↔ ∃ literal, Spells w literal := by
  rw [tree, words_ofParts]
  simp only [List.map_cons, List.map_nil, List.prod_cons, List.prod_nil, mul_one]
  constructor
  · intro hw
    obtain ⟨sign, hsign, body, hbody, rfl⟩ := Language.mem_mul.1 hw
    obtain ⟨negative, isSign⟩ := exists_isSign_iff.1 hsign
    rcases mem_words_unsignedPart.1 hbody with rfl | rfl | hbody
    · exact ⟨_, .nan isSign⟩
    · exact ⟨_, .infinity isSign⟩
    · obtain ⟨_, hdigits, _, hrest, rfl⟩ := Language.mem_mul.1 hbody
      obtain ⟨mark, hmark, suffix, hsuffix, rfl⟩ := Language.mem_mul.1 hrest
      obtain ⟨whole, point, fraction, isDigit, isFraction, nonempty, rfl⟩ :=
        mem_words_digitsPart.1 hdigits
      obtain ⟨exponent, isExponent⟩ := exists_isExponent_iff.1 hmark
      have hs := Spells.decimal isSign isDigit isFraction nonempty isExponent
        (isSuffix_iff_mem_words.1 hsuffix)
      rw [← List.append_assoc whole] at hs
      exact ⟨_, hs⟩
  · rintro ⟨literal, h⟩
    have signed {sign body : List Char} {negative : Bool} (isSign : IsSign sign negative)
        (hb : body ∈ unsignedPart.words plainMode) :
        sign ++ body ∈ signPart.words plainMode * unsignedPart.words plainMode :=
      Language.append_mem_mul (exists_isSign_iff.2 ⟨_, isSign⟩) hb
    cases h with
    | nan isSign => exact signed isSign (mem_words_unsignedPart.2 (.inl rfl))
    | infinity isSign => exact signed isSign (mem_words_unsignedPart.2 (.inr (.inl rfl)))
    | decimal isSign isDigit isFraction nonempty isExponent isSuffix =>
      refine signed isSign (mem_words_unsignedPart.2 (.inr (.inr ?_)))
      rw [← List.append_assoc]
      refine Language.append_mem_mul
        (mem_words_digitsPart.2 ⟨_, _, _, isDigit, isFraction, nonempty, rfl⟩) ?_
      exact Language.append_mem_mul (exists_isExponent_iff.2 ⟨_, isExponent⟩)
        (isSuffix_iff_mem_words.2 isSuffix)

/-- The pattern matches exactly the texts that the reader takes for literals. -/
theorem fullMatch_pattern (text : String) :
    fullMatch pattern text = .ok (read? text.toList).isSome := by
  rw [fullMatch, read_pattern]
  refine Compiled.matchesAll_of_regular (by decide) rfl (by decide) ?_
  rw [Option.isSome_iff_exists, mem_words_tree]
  simp only [read?_eq_some_iff]

end TargetedConfig.Literal
