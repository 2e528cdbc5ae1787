import Mathlib.Computability.Language
import TargetedConfig.Pattern.Matcher

/-!
# Words of regular patterns

A pattern without groups, anchors and looks stands for a language. The bounds of repetitions count
its words, the width of the pattern bounds their lengths, and they begin with what the pattern asks
for first.
-/

namespace TargetedConfig.Pattern

/-- A pattern without groups, anchors and looks, all of whose repetitions are greedy. -/
def isRegular : Pattern → Bool
  | .empty => true
  | .char _ => true
  | .sequence first rest => first.isRegular && rest.isRegular
  | .choice first rest => first.isRegular && rest.isRegular
  | .repeated .greedy least most body => most.all (least ≤ ·) && body.isRegular
  | _ => false

/-- As many words of a language one after the other as a repetition allows. -/
def repeats (l : Language Char) (least : Nat) (most : Option Nat) : Language Char :=
  {w | ∃ n, least ≤ n ∧ (∀ m ∈ most, n ≤ m) ∧ w ∈ l ^ n}

/-- The texts that a test of one character takes. -/
def single (mode : Mode) (test : CharTest) : Language Char :=
  {w | ∃ x, test.accepts mode x = true ∧ w = [x]}

def words (mode : Mode) : Pattern → Language Char
  | .empty => 1
  | .char test => single mode test
  | .sequence first rest => first.words mode * rest.words mode
  | .choice first rest => first.words mode + rest.words mode
  | .repeated _ least most body => repeats (body.words mode) least most
  | _ => 0

variable {mode : Mode} {l : Language Char} {w : List Char} {least : Nat} {most : Option Nat}

theorem cons_mem_single_mul {test : CharTest} {x : Char} :
    x :: w ∈ single mode test * l ↔ test.accepts mode x = true ∧ w ∈ l := by
  constructor
  · rintro ⟨_, ⟨y, hy, rfl⟩, v, hv, he⟩
    cases he
    exact ⟨hy, hv⟩
  · rintro ⟨hx, hw⟩
    exact ⟨[x], ⟨x, hx, rfl⟩, w, hw, rfl⟩

theorem nil_not_mem_single_mul {test : CharTest} : [] ∉ single mode test * l := by
  rintro ⟨_, ⟨x, -, rfl⟩, v, -, he⟩
  cases he

/-! ### Repetitions -/

/-- Words that take nothing do not count. -/
theorem repeats_sub_one (l : Language Char) (most : Option Nat) :
    repeats (l - 1) 0 most = repeats l 0 most := by
  ext w
  constructor
  · rintro ⟨n, hl, hm, hw⟩
    obtain ⟨parts, rfl, rfl, hp⟩ := Language.mem_pow.1 hw
    exact ⟨_, hl, hm, Language.mem_pow.2 ⟨parts, rfl, rfl, fun u hu => (hp u hu).1⟩⟩
  · rintro ⟨n, -, hm, hw⟩
    obtain ⟨parts, rfl, rfl, hp⟩ := Language.mem_pow.1 hw
    let kept := parts.filter fun u => !u.isEmpty
    have hk : kept.length ≤ parts.length := List.length_filter_le _ _
    refine ⟨kept.length, Nat.zero_le _, fun m h => Nat.le_trans hk (hm m h), ?_⟩
    refine Language.mem_pow.2 ⟨kept, ?_, rfl, fun u hu => ?_⟩
    · simp [kept, List.flatten_filter_not_isEmpty]
    · obtain ⟨hu, hn⟩ := List.mem_filter.1 hu
      have hn : u ≠ [] := by simpa using hn
      exact ⟨hp u hu, hn⟩

/-- A further word, or none. -/
theorem repeats_succ (l : Language Char) (n : Nat) :
    repeats l 0 (some (n + 1)) = l * repeats l 0 (some n) + 1 := by
  ext w
  constructor
  · rintro ⟨m, -, hm, hw⟩
    cases m with
    | zero => exact .inr hw
    | succ m =>
      rw [pow_succ'] at hw
      obtain ⟨u, hu, v, hv, he⟩ := Language.mem_mul.1 hw
      have hn : m + 1 ≤ n + 1 := hm _ rfl
      refine .inl (Language.mem_mul.2 ⟨u, hu, v, ⟨m, Nat.zero_le m, ?_, hv⟩, he⟩)
      rintro _ ⟨⟩
      omega
  · rintro (hw | hw)
    · obtain ⟨u, hu, v, ⟨m, -, hm, hv⟩, rfl⟩ := Language.mem_mul.1 hw
      have hn : m ≤ n := hm _ rfl
      refine ⟨m + 1, Nat.zero_le _, ?_, ?_⟩
      · rintro _ ⟨⟩
        omega
      · rw [pow_succ']
        exact Language.append_mem_mul hu hv
    · refine ⟨0, Nat.le_refl 0, fun _ _ => Nat.zero_le _, hw⟩

theorem repeats_zero (l : Language Char) : repeats l 0 (some 0) = 1 := by
  ext w
  constructor
  · rintro ⟨n, -, hn, hw⟩
    rwa [Nat.le_zero.1 (hn 0 rfl), pow_zero] at hw
  · intro hw
    exact ⟨0, Nat.le_refl 0, fun _ _ => Nat.zero_le _, hw⟩

theorem mul_length_le_length_flatten {parts : List (List Char)} {n : Nat}
    (h : ∀ u ∈ parts, n ≤ u.length) : n * parts.length ≤ parts.flatten.length := by
  induction parts with
  | nil => exact Nat.le_refl _
  | cons u parts ih =>
    rw [List.forall_mem_cons] at h
    have hl := ih h.2
    rw [List.flatten_cons, List.length_append, List.length_cons, Nat.mul_succ]
    omega

/-- Of words that take something there are no more than characters. -/
theorem repeats_some_of_length_le {n : Nat} (hw : w ∈ repeats (l - 1) 0 none) (hn : w.length ≤ n) :
    w ∈ repeats (l - 1) 0 (some n) := by
  obtain ⟨m, hm, -, hw⟩ := hw
  obtain ⟨parts, rfl, rfl, hp⟩ := Language.mem_pow.1 hw
  have hl := mul_length_le_length_flatten fun u hu => List.length_pos_iff.2 (hp u hu).2
  refine ⟨_, hm, ?_, hw⟩
  rintro _ ⟨⟩
  omega

theorem repeats_none_of_some {n : Nat} (hw : w ∈ repeats l 0 (some n)) : w ∈ repeats l 0 none := by
  obtain ⟨m, hm, -, hw⟩ := hw
  exact ⟨m, hm, by simp, hw⟩

/-- Words that are owed come before those that are spare. -/
theorem pow_mul_repeats (l : Language Char) (h : ∀ m ∈ most, least ≤ m) :
    l ^ least * repeats l 0 (most.map (· - least)) = repeats l least most := by
  ext w
  constructor
  · intro hw
    obtain ⟨u, hu, v, ⟨n, -, hn, hv⟩, rfl⟩ := Language.mem_mul.1 hw
    refine ⟨least + n, Nat.le_add_right _ _, ?_, ?_⟩
    · rintro m rfl
      have hm := h m rfl
      have hs := hn (m - least) rfl
      omega
    · rw [pow_add]
      exact Language.append_mem_mul hu hv
  · rintro ⟨n, hl, hn, hw⟩
    obtain ⟨j, rfl⟩ := Nat.exists_eq_add_of_le hl
    rw [pow_add] at hw
    obtain ⟨u, hu, v, hv, rfl⟩ := Language.mem_mul.1 hw
    refine Language.append_mem_mul hu ⟨j, Nat.zero_le j, ?_, hv⟩
    intro m hm
    obtain ⟨m, rfl, rfl⟩ := Option.map_eq_some_iff.1 hm
    have hs := hn m rfl
    omega

theorem mem_single_pow {test : CharTest} {n : Nat} :
    w ∈ single mode test ^ n ↔ w.length = n ∧ ∀ x ∈ w, test.accepts mode x = true := by
  induction n generalizing w with
  | zero =>
    rw [pow_zero, Language.mem_one, List.length_eq_zero_iff]
    constructor
    · rintro rfl
      simp
    · exact And.left
  | succ n ih =>
    rw [pow_succ']
    cases w with
    | nil => simp [nil_not_mem_single_mul]
    | cons x w =>
      rw [cons_mem_single_mul, ih, List.length_cons, Nat.add_right_cancel_iff,
        List.forall_mem_cons]
      exact and_left_comm

theorem mem_repeats_single {test : CharTest} :
    w ∈ repeats (single mode test) least most ↔
      least ≤ w.length ∧ (∀ m ∈ most, w.length ≤ m) ∧ ∀ x ∈ w, test.accepts mode x = true := by
  constructor
  · rintro ⟨n, hl, hm, hw⟩
    obtain ⟨rfl, ha⟩ := mem_single_pow.1 hw
    exact ⟨hl, hm, ha⟩
  · rintro ⟨hl, hm, ha⟩
    exact ⟨w.length, hl, hm, mem_single_pow.2 ⟨rfl, ha⟩⟩

/-- Of the stretches that are long enough every one is part of the stretch that is taken at once. -/
theorem mem_repeats_single_mul {test : CharTest} {taken rest : List Char}
    (accepted : ∀ x ∈ taken, test.accepts mode x = true)
    (fits : taken.length ≤ most.getD (taken ++ rest).length)
    (longest : taken.length = most.getD (taken ++ rest).length ∨
      ∀ x ∈ rest.head?, test.accepts mode x = false) :
    taken ++ rest ∈ repeats (single mode test) least most * l ↔
      ∃ a b, taken = a ++ b ∧ least ≤ a.length ∧ b ++ rest ∈ l := by
  constructor
  · intro hw
    obtain ⟨a, ha, v, hv, he⟩ := Language.mem_mul.1 hw
    obtain ⟨hl, hn, ha⟩ := mem_repeats_single.1 ha
    have hb : a.length ≤ most.getD (taken ++ rest).length := by
      cases most with
      | none => simp [← he]
      | some m => exact hn m rfl
    rcases List.append_eq_append_iff.1 he with ⟨b, rfl, rfl⟩ | ⟨_ | ⟨x, b⟩, rfl, rfl⟩
    · exact ⟨a, b, rfl, hl, hv⟩
    · exact ⟨taken, [], by simp, by simpa using hl, hv⟩
    · -- A longer one has a character more that is accepted.
      rcases longest with he | he
      · rw [List.length_append, List.length_cons] at hb
        omega
      · have hx := ha x (by simp)
        simp [he x rfl] at hx
  · rintro ⟨a, b, rfl, hl, h⟩
    rw [List.append_assoc]
    refine Language.append_mem_mul (mem_repeats_single.2 ⟨hl, ?_, ?_⟩) h
    · rintro m rfl
      rw [Option.getD_some, List.length_append] at fits
      omega
    · exact fun x hx => accepted x (List.mem_append_left _ hx)

/-! ### Widths -/

/-- No word is shorter than the least width. -/
theorem width_le_length (groups : List (Option Width)) {p : Pattern} (hp : p.isRegular = true)
    (hw : w ∈ p.words mode) : (p.width groups).1 ≤ w.length := by
  induction p generalizing w with
  | empty => exact Nat.zero_le _
  | char test =>
    obtain ⟨x, -, rfl⟩ := hw
    exact Nat.le_refl 1
  | sequence first rest ihf ihr =>
    rw [isRegular, Bool.and_eq_true] at hp
    obtain ⟨u, hu, v, hv, rfl⟩ := Language.mem_mul.1 hw
    rw [width, Width.add, List.length_append]
    exact Nat.add_le_add (ihf hp.1 hu) (ihr hp.2 hv)
  | choice first rest ihf ihr =>
    rw [isRegular, Bool.and_eq_true] at hp
    rw [width, Width.either]
    rcases hw with hw | hw
    · exact Nat.le_trans (Nat.min_le_left _ _) (ihf hp.1 hw)
    · exact Nat.le_trans (Nat.min_le_right _ _) (ihr hp.2 hw)
  | repeated greed least most body ih =>
    cases greed with
    | greedy =>
      rw [isRegular, Bool.and_eq_true] at hp
      obtain ⟨n, hl, -, hw⟩ := hw
      obtain ⟨parts, rfl, rfl, hb⟩ := Language.mem_pow.1 hw
      calc (body.width groups).1 * least ≤ (body.width groups).1 * parts.length :=
            Nat.mul_le_mul_left _ hl
        _ ≤ parts.flatten.length := mul_length_le_length_flatten fun u hu => ih hp.2 (hb u hu)
    | _ => cases hp
  | _ => cases hp

/-! ### What a pattern asks for first -/

theorem words_of_lead_nothing {p : Pattern} (hp : p.isRegular = true) (h : p.lead mode = .nothing) :
    p.words mode = 1 := by
  induction p with
  | empty => rfl
  | sequence first rest ihf ihr =>
    rw [isRegular, Bool.and_eq_true] at hp
    rw [lead] at h
    split at h
    · next hf => rw [words, ihf hp.1 hf, ihr hp.2 h, mul_one]
    · next hf => exact absurd h (by simpa using hf)
  | _ => simp_all [lead, isRegular]

/-- A pattern that asks for a character first has only words that begin with such a one. -/
theorem exists_cons_of_lead_char {p : Pattern} {m : Mode} {test : CharTest}
    (hp : p.isRegular = true) (h : p.lead mode = .char m test) :
    m = mode ∧ ∀ w ∈ p.words mode, ∃ x v, w = x :: v ∧ test.accepts mode x = true := by
  induction p with
  | char t =>
    cases h
    refine ⟨rfl, ?_⟩
    rintro _ ⟨x, hx, rfl⟩
    exact ⟨x, [], rfl, hx⟩
  | sequence first rest ihf ihr =>
    rw [isRegular, Bool.and_eq_true] at hp
    rw [lead] at h
    split at h
    · next hf =>
      rw [words, words_of_lead_nothing hp.1 hf, one_mul]
      exact ihr hp.2 h
    · obtain ⟨hm, hw⟩ := ihf hp.1 h
      refine ⟨hm, ?_⟩
      rintro _ ⟨u, hu, v, -, rfl⟩
      obtain ⟨x, u', rfl, hx⟩ := hw u hu
      exact ⟨x, u' ++ v, rfl, hx⟩
  | _ => simp_all [lead, isRegular]

/-- An alternative is passed over only if no word of it lies ahead. -/
theorem not_mem_of_rulesOut {p : Pattern} {c : Cursor} (hp : p.isRegular = true)
    (h : (p.lead mode).rulesOut c = true) : c.ahead ∉ p.words mode * l := by
  rintro ⟨u, hu, v, -, he⟩
  cases hl : p.lead mode with
  | nothing =>
    rw [hl] at h
    cases h
  | other =>
    rw [hl] at h
    cases h
  | char m test =>
    obtain ⟨rfl, hw⟩ := exists_cons_of_lead_char hp hl
    obtain ⟨x, u, rfl, hx⟩ := hw u hu
    have hh : c.ahead.head? = some x := by
      rw [← he]
      rfl
    rw [hl] at h
    unfold Lead.rulesOut at h
    dsimp only at h
    split at h
    · cases h
    · cases h
    · simp [hh, hx] at h

theorem Lead.eq_of_literal? {lead : Lead} {code : Nat} (h : lead.literal? = some code) :
    ∃ m test, lead = .char m test ∧ ∀ x, test.accepts m x = true → x.toNat = code := by
  unfold literal? at h
  split at h
  · next m _ =>
    split at h
    · cases h
    · next hc =>
      cases h
      refine ⟨m, _, rfl, fun x hx => ?_⟩
      have hn : (m.ignoreCase && m.isCased code) = false := by simpa [CharTest.isCased] using hc
      simpa only [CharTest.accepts, CharTest.sameLetter, hn, Bool.false_eq_true, if_false,
        bne_iff_ne, ne_eq, Bool.not_eq_false, beq_iff_eq] using hx
  · cases h

theorem head?_of_not_isMissed {scope : Scope} {c : Cursor} {code : Nat} (hn : scope.next = some code)
    (h : scope.isMissed c = true) : c.ahead.head?.map Char.toNat ≠ some code := by
  simpa [Scope.isMissed, hn] using h

/-- The character that must follow is one without which no word of what follows lies ahead. -/
theorem not_mem_of_isMissed {scope : Scope} {rest : Pattern} (hr : rest.isRegular = true)
    (hm : ∀ c, scope.isMissed c = true → c.ahead ∉ l) {c : Cursor}
    (h : (scope.before rest).isMissed c = true) : c.ahead ∉ rest.words scope.mode * l := by
  rw [Scope.before] at h
  split at h
  · next hn =>
    rw [words_of_lead_nothing hr hn, one_mul]
    exact hm c h
  · cases hc : (rest.lead scope.mode).literal? with
    | none => simp [Scope.isMissed, hc] at h
    | some code =>
      intro hw
      obtain ⟨u, hu, v, -, he⟩ := Language.mem_mul.1 hw
      obtain ⟨m, test, hl, ht⟩ := Lead.eq_of_literal? hc
      obtain ⟨rfl, hw⟩ := exists_cons_of_lead_char hr hl
      obtain ⟨x, u, rfl, hx⟩ := hw u hu
      refine head?_of_not_isMissed hc h ?_
      rw [← he, List.cons_append, List.head?_cons, Option.map_some, ht x hx]

end TargetedConfig.Pattern
