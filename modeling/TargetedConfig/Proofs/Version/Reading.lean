import Mathlib.Data.Nat.Digits.Defs
import TargetedConfig.Proofs.Version.Order

/-!
# Version texts

`Version.Written` says how a version is written, and `Version.parse?_eq_some_iff` that exactly such
texts are read, each segment in base ten. Leading zeros and trailing zero segments change the text
but not the tuple.
-/

namespace TargetedConfig.Version

/-- A run of ASCII digits, no more of them than an integer may have. -/
structure Segment (segment : List Char) : Prop where
  some : segment ≠ []
  digits : ∀ c ∈ segment, c.isDigit = true
  short : segment.length ≤ 4300

/-- A text of one to five segments with single dots between them. -/
structure Written (text : String) (segments : List (List Char)) : Prop where
  joined : text.toList = ['.'].intercalate segments
  some : segments ≠ []
  few : segments.length ≤ 5
  all : ∀ segment ∈ segments, Segment segment

instance (segment : List Char) : Decidable (Segment segment) :=
  decidable_of_iff
    (segment ≠ [] ∧ segment.all Char.isDigit = true ∧ segment.length ≤ 4300)
    ⟨fun h => ⟨h.1, List.all_eq_true.1 h.2.1, h.2.2⟩,
      fun h => ⟨h.some, List.all_eq_true.2 h.digits, h.short⟩⟩

instance (text : String) (segments : List (List Char)) : Decidable (Written text segments) :=
  decidable_of_iff
    (text.toList = ['.'].intercalate segments ∧ segments ≠ [] ∧ segments.length ≤ 5 ∧
      ∀ segment ∈ segments, Segment segment)
    ⟨fun h => ⟨h.1, h.2.1, h.2.2.1, h.2.2.2⟩, fun h => ⟨h.joined, h.some, h.few, h.all⟩⟩

/-- The number that digits denote in base ten, the first one being the most significant. -/
def value (segment : List Char) : ℕ :=
  Nat.ofDigits 10 (segment.map fun c => c.toNat - '0'.toNat).reverse

/-! ### Segments -/

theorem value_cons (c : Char) (segment : List Char) :
    value (c :: segment) = value segment + 10 ^ segment.length * (c.toNat - '0'.toNat) := by
  rw [value, List.map_cons, Nat.ofDigits_reverse_cons, List.length_map]
  rfl

private theorem ofDigitChars_eq (segment : List Char) (n : ℕ) :
    Nat.ofDigitChars 10 segment n = 10 ^ segment.length * n + value segment := by
  induction segment generalizing n with
  | nil => simp [Nat.ofDigitChars, value]
  | cons c segment ih =>
    rw [Nat.ofDigitChars_cons, ih, value_cons, List.length_cons]
    ring

theorem segment?_eq_some_iff {segment : List Char} {n : ℕ} :
    segment? segment = some n ↔ Segment segment ∧ n = value segment := by
  have hs : Segment segment ↔
      ¬(segment.isEmpty || !segment.all Char.isDigit || Text.maxDigits < segment.length) =
        true := by
    simp only [Bool.or_eq_true, not_or, List.isEmpty_iff, Bool.not_eq_true',
      Bool.not_eq_false, List.all_eq_true, decide_eq_true_eq, Nat.not_lt]
    exact ⟨fun h => ⟨⟨h.some, h.digits⟩, h.short⟩, fun h => ⟨h.1.1, h.1.2, h.2⟩⟩
  rw [segment?, hs]
  split
  · next h => simp [h]
  · next h => simp [h, ofDigitChars_eq, eq_comm]

private theorem mapM_segment?_eq_some_iff {pieces : List (List Char)} {v : List ℕ} :
    pieces.mapM segment? = some v ↔ (∀ s ∈ pieces, Segment s) ∧ v = pieces.map value := by
  induction pieces generalizing v with
  | nil => simp [eq_comm]
  | cons s rest ih =>
    rw [List.mapM_cons, List.forall_mem_cons, List.map_cons]
    constructor
    · intro h
      simp only [Option.bind_eq_bind, Option.bind_eq_some_iff, Option.pure_def, Option.some.injEq]
        at h
      obtain ⟨n, hn, w, hw, rfl⟩ := h
      obtain ⟨first, rfl⟩ := segment?_eq_some_iff.1 hn
      obtain ⟨others, rfl⟩ := ih.1 hw
      exact ⟨⟨first, others⟩, rfl⟩
    · rintro ⟨⟨first, others⟩, rfl⟩
      rw [segment?_eq_some_iff.2 ⟨first, rfl⟩, ih.2 ⟨others, rfl⟩]
      rfl

/-! ### Texts -/

private theorem splitDots_eq_splitOn (text : List Char) : splitDots text = text.splitOn '.' := by
  induction text with
  | nil => rfl
  | cons c rest ih =>
    rw [splitDots, List.splitOn, List.splitOnP_cons_eq_if_modifyHead, ← List.splitOn, ← ih]
    by_cases hc : c = '.'
    · simp [hc]
    · rcases hp : splitDots rest with _ | ⟨piece, pieces⟩
      · rw [ih] at hp
        exact absurd hp (List.splitOn_ne_nil _ _)
      · simp [hc]

private theorem Segment.not_mem {segment : List Char} (h : Segment segment) : '.' ∉ segment := by
  intro hm
  have hd := h.digits '.' hm
  revert hd
  decide

/-- The segments of a text are its pieces between dots. -/
theorem Written.splitDots_eq {text : String} {segments : List (List Char)}
    (h : Written text segments) : splitDots text.toList = segments := by
  rw [splitDots_eq_splitOn, h.joined,
    List.splitOn_intercalate '.' (fun s hs => (h.all s hs).not_mem) h.some]

/-- What is read as a version is a version text, and it is read in base ten. -/
theorem parse?_eq_some_iff {text : String} {v : List ℕ} :
    parse? text = some v ↔ ∃ segments, Written text segments ∧ v = segments.map value := by
  rw [parse?]
  constructor
  · intro h
    split at h
    · cases h
    · next few =>
      obtain ⟨all, rfl⟩ := mapM_segment?_eq_some_iff.1 h
      refine ⟨splitDots text.toList, ⟨?_, ?_, Nat.not_lt.1 few, all⟩, rfl⟩
      · rw [splitDots_eq_splitOn, List.intercalate_splitOn]
      · rw [splitDots_eq_splitOn]
        exact List.splitOn_ne_nil _ _
  · rintro ⟨segments, written, rfl⟩
    have few : ¬maxSegments < segments.length := Nat.not_lt.2 written.few
    rw [written.splitDots_eq, if_neg few]
    exact mapM_segment?_eq_some_iff.2 ⟨written.all, rfl⟩

theorem parse?_eq_none_iff {text : String} :
    parse? text = none ↔ ¬∃ segments, Written text segments := by
  rw [← not_iff_not, not_not, ← ne_eq, Option.ne_none_iff_exists']
  constructor
  · rintro ⟨v, h⟩
    obtain ⟨segments, written, -⟩ := parse?_eq_some_iff.1 h
    exact ⟨segments, written⟩
  · rintro ⟨segments, written⟩
    exact ⟨_, parse?_eq_some_iff.2 ⟨segments, written, rfl⟩⟩

/-! ### Spellings -/

/-- Segments that differ in leading zeros and in zero segments at the end. -/
inductive Respelled : List (List Char) → List (List Char) → Prop where
  | refl (v) : Respelled v v
  | symm {v w} (h : Respelled v w) : Respelled w v
  | trans {u v w} (h : Respelled u v) (k : Respelled v w) : Respelled u w
  | leading (before s after) : Respelled (before ++ s :: after) (before ++ ('0' :: s) :: after)
  | trailing (v) : Respelled v (v ++ [['0']])

theorem Respelled.tuple_eq {v w : List (List Char)} (h : Respelled v w) :
    tuple (v.map value) = tuple (w.map value) := by
  induction h with
  | refl => rfl
  | symm _ ih => exact ih.symm
  | trans _ _ ih ih' => exact ih.trans ih'
  | leading before s after =>
    have hv : value ('0' :: s) = value s := by simp [value_cons]
    simp [hv]
  | trailing v =>
    funext i
    simp only [tuple, Pi.toLex_apply, List.map_append]
    have hz : [['0']].map value = [0] := by decide
    rw [hz, List.getD_eq_getElem?_getD, List.getD_eq_getElem?_getD, List.getElem?_append]
    split
    · rfl
    · next hi =>
      rw [List.getElem?_eq_none (Nat.not_lt.1 hi)]
      rcases (i : ℕ) - (v.map value).length with _ | k <;> rfl

end TargetedConfig.Version
