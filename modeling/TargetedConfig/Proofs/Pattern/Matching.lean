import Mathlib.Data.List.Infix
import TargetedConfig.Proofs.Pattern.Reading
import TargetedConfig.Proofs.Pattern.Regular

/-!
# Matching flat patterns

A pattern of letters and digits matches the text it is, and with any text before and after it the
texts in which it occurs.
-/

namespace TargetedConfig.Pattern

theorem accepts_literal {mode : Mode} (h : mode.ignoreCase = false) (x y : Char) :
    (CharTest.literal x.toNat false).accepts mode y = true ↔ x = y := by
  rw [CharTest.accepts, CharTest.sameLetter, h, Bool.false_and, if_neg Bool.false_ne_true,
    bne_iff_ne, ne_eq, Bool.not_eq_false, beq_iff_eq, Char.toNat_inj]
  exact eq_comm

/-! ### Words of flat patterns -/

theorem isRegular_ofParts {parts : List Pattern} (h : ∀ part ∈ parts, part.isRegular = true) :
    (ofParts parts).isRegular = true := by
  induction parts with
  | nil => rfl
  | cons part parts ih =>
    rw [List.forall_mem_cons] at h
    rw [ofParts, List.foldr_cons, isRegular, h.1, Bool.true_and]
    exact ih h.2

/-- Parts one after the other take their words one after the other. -/
theorem words_ofParts (mode : Mode) (parts : List Pattern) :
    (ofParts parts).words mode = (parts.map (words mode)).prod := by
  induction parts with
  | nil => rfl
  | cons part parts ih =>
    rw [ofParts, List.foldr_cons, words, List.map_cons, List.prod_cons, ← ih]
    rfl

/-- Alternatives take the words of each of them. -/
theorem mem_words_ofAlternatives {mode : Mode} {alternatives : List (List Pattern)}
    (h : alternatives ≠ []) {w : List Char} :
    w ∈ (ofAlternatives alternatives).words mode ↔
      ∃ parts ∈ alternatives, w ∈ (parts.map (words mode)).prod := by
  fun_induction ofAlternatives alternatives with
  | case1 => exact absurd rfl h
  | case2 parts => simp [words_ofParts]
  | case3 parts rest hr ih =>
    rw [words, Language.mem_add, words_ofParts, ih hr]
    simp

theorem mem_words_letter {mode : Mode} (h : mode.ignoreCase = false) (x : Char) {w : List Char} :
    w ∈ (letter x).words mode ↔ w = [x] := by
  constructor
  · rintro ⟨y, hy, rfl⟩
    rw [(accepts_literal h x y).1 hy]
  · rintro rfl
    exact ⟨x, (accepts_literal h x x).2 rfl, rfl⟩

/-- Tests of given characters take these characters. -/
theorem mem_prod_words_letters {mode : Mode} (h : mode.ignoreCase = false) (text : List Char)
    {w : List Char} : w ∈ ((text.map letter).map (words mode)).prod ↔ w = text := by
  induction text generalizing w with
  | nil => exact Language.mem_one w
  | cons x text ih =>
    rw [List.map_cons, List.map_cons, List.prod_cons]
    constructor
    · intro hw
      obtain ⟨u, hu, v, hv, rfl⟩ := Language.mem_mul.1 hw
      rw [(mem_words_letter h x).1 hu, ih.1 hv, List.singleton_append]
    · rintro rfl
      exact Language.append_mem_mul ((mem_words_letter h x).2 rfl) (ih.2 rfl)

/-- Any text is a stretch of any characters. -/
theorem mem_words_anyText {mode : Mode} (h : mode.dotAll = true) (w : List Char) :
    w ∈ anyText.words mode := by
  refine mem_repeats_single.2 ⟨Nat.zero_le _, by simp, fun x _ => ?_⟩
  rw [CharTest.accepts, h, Bool.true_or]

theorem isRegular_of_mem_letters {text : List Char} :
    ∀ part ∈ text.map letter, part.isRegular = true := by
  intro part h
  obtain ⟨x, -, rfl⟩ := List.mem_map.1 h
  rfl

/-! ### Whole texts -/

section

variable {text : String} (ht : ∀ x ∈ text.toList, x.isAlphanum = true) (signal : String)
include ht

/-- Letters and digits match as a pattern what they equal as a text. -/
theorem fullMatch_text : fullMatch text signal = .ok (decide (signal = text)) := by
  rw [fullMatch, Compiled.read_text ht]
  refine Compiled.matchesAll_of_regular (isRegular_ofParts isRegular_of_mem_letters) rfl rfl ?_
  rw [Compiled.flat, words_ofParts, mem_prod_words_letters rfl, decide_eq_true_iff,
    String.toList_inj]

/-- With any text before and after them letters and digits match as a pattern what they occur in. -/
theorem fullMatch_surrounded :
    fullMatch ("(?s).*" ++ text ++ ".*") signal =
      .ok (decide (text.toList <:+: signal.toList)) := by
  have hany : ∀ part ∈ [anyText], part.isRegular = true := by simp [anyText, isRegular]
  rw [fullMatch, Compiled.read_surrounded ht]
  refine Compiled.matchesAll_of_regular (isRegular_ofParts ?_) rfl rfl ?_
  · rw [← List.singleton_append, List.append_assoc, List.forall_mem_append,
      List.forall_mem_append]
    exact ⟨hany, isRegular_of_mem_letters, hany⟩
  · have hw (w : List Char) : w ∈ anyText.words ⟨false, false, true, false⟩ :=
      mem_words_anyText rfl w
    rw [Compiled.flat, words_ofParts, decide_eq_true_iff, List.map_append, List.map_cons,
      List.prod_append, List.prod_cons]
    constructor
    · rintro ⟨u, v, he⟩
      rw [← he]
      refine Language.append_mem_mul (Language.append_mem_mul (hw u) ?_) ?_
      · exact (mem_prod_words_letters rfl _).2 rfl
      · simpa using hw v
    · intro h
      obtain ⟨ut, hut, v, -, he⟩ := Language.mem_mul.1 h
      obtain ⟨u, -, t, htext, rfl⟩ := Language.mem_mul.1 hut
      rw [mem_prod_words_letters rfl] at htext
      exact ⟨u, v, htext ▸ he⟩

end

end TargetedConfig.Pattern
