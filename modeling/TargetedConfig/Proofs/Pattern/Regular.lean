import TargetedConfig.Pattern.Match
import TargetedConfig.Proofs.Pattern.Words

/-!
# Matching regular patterns

The matcher tries ways in an order of its own, passes over places and alternatives that the next
character rules out, and stops rounds that take nothing. For all that it has a way through a regular
pattern exactly when the characters ahead begin with a word of the pattern and what is left to match
agrees to the characters behind that word, whatever marks and places the search carries along.
-/

namespace TargetedConfig.Pattern

/-- Whether what is left to match has a way depends on the characters ahead alone. -/
def Rest.Decides (k : Rest) (holds : List Char → Prop) : Prop :=
  ∀ c s, (k c s).1 = true ↔ holds c.ahead

/-- Whether a pattern has a way that the rest agrees to depends on the characters ahead alone. -/
def Takes (scope : Scope) (p : Pattern) (k : Rest) (holds : List Char → Prop) : Prop :=
  ∀ c s, (run scope p c s k).1 = true ↔ holds c.ahead

variable {mode : Mode} {l : Language Char} {w : List Char} {least : Nat} {most : Option Nat}

/-! ### Stretches -/

theorem fst_orElse (v : Verdict) (other : Search → Verdict) :
    (v.orElse other).1 = (v.1 || (other v.2).1) := by
  obtain ⟨_ | _, s⟩ := v <;> rfl

@[simp] theorem fst_resettled (v : Verdict) (c : Cursor) : (v.resettled c).1 = v.1 := by
  obtain ⟨_ | _, s⟩ := v <;> rfl

@[simp] theorem Scope.mode_before (scope : Scope) (rest : Pattern) :
    (scope.before rest).mode = scope.mode := by
  rw [before]
  split <;> rfl

/-- A stretch ends where it has its most characters or the next one is not accepted. -/
theorem exists_advance (accepts : Char → Bool) {most count : Nat} (hc : count ≤ most)
    (past ahead : List Char) :
    ∃ taken rest, ahead = taken ++ rest ∧ (∀ x ∈ taken, accepts x = true) ∧
      count + taken.length ≤ most ∧
      (count + taken.length = most ∨ ∀ x ∈ rest.head?, accepts x = false) ∧
      Cursor.advance accepts most count past ahead =
        (count + taken.length, ⟨taken.reverse ++ past, rest⟩) := by
  induction ahead generalizing count past with
  | nil => exact ⟨[], [], rfl, by simp, hc, by simp, rfl⟩
  | cons x ahead ih =>
    rw [Cursor.advance]
    by_cases h : (decide (count < most) && accepts x) = true
    · have hx := h
      rw [Bool.and_eq_true, decide_eq_true_eq] at hx
      obtain ⟨taken, rest, rfl, ha, hl, he, hr⟩ := ih hx.1 (x :: past)
      refine ⟨x :: taken, rest, rfl, List.forall_mem_cons.2 ⟨hx.2, ha⟩, ?_, ?_, ?_⟩
      · rw [List.length_cons]
        omega
      · refine he.imp_left fun he => ?_
        rw [List.length_cons]
        omega
      · rw [if_pos h, hr]
        simp
        omega
    · refine ⟨[], x :: ahead, rfl, by simp, hc, ?_, by rw [if_neg h]; rfl⟩
      by_cases hm : count = most
      · exact .inl hm
      · right
        rintro _ ⟨⟩
        simpa [Nat.lt_of_le_of_ne hc hm] using h

section

variable {scope : Scope} {k : Rest}

-- A place is passed over where the character that must follow is missing; `hm` says that the rest
-- has no way from there.
variable (hk : k.Decides (· ∈ l)) (hm : ∀ c, scope.isMissed c = true → c.ahead ∉ l)
include hk hm

private theorem fst_here (c : Cursor) (s : Search) :
    Prod.fst (if scope.isMissed c then (false, s)
      else (k c (s.setOut c)).orElse fun s' => (false, s'.restore scope.looping s)) = true ↔
        c.ahead ∈ l := by
  by_cases h : scope.isMissed c = true
  · rw [if_pos h]
    simpa using hm c h
  · rw [if_neg h, fst_orElse, Bool.or_false, hk]

/-- Backing off finds a place from which the rest has a way if there is one. -/
theorem fst_backOff {taken : List Char} {spare : Nat} (hs : spare ≤ taken.length)
    (past ahead : List Char) (s : Search) :
    (backOff scope k spare ⟨taken.reverse ++ past, ahead⟩ s).1 = true ↔
      ∃ a b, taken = a ++ b ∧ b.length ≤ spare ∧ b ++ ahead ∈ l := by
  induction spare generalizing taken ahead s with
  | zero =>
    rw [backOff, fst_here hk hm]
    constructor
    · intro h
      exact ⟨taken, [], by simp, Nat.le_refl _, h⟩
    · rintro ⟨a, b, -, hb, h⟩
      rwa [List.eq_nil_of_length_eq_zero (Nat.le_zero.1 hb)] at h
  | succ spare ih =>
    rcases List.eq_nil_or_concat' taken with rfl | ⟨taken, x, rfl⟩
    · simp at hs
    · have hp : Cursor.previous ⟨(taken ++ [x]).reverse ++ past, ahead⟩ =
          ⟨taken.reverse ++ past, x :: ahead⟩ := by
        rw [List.reverse_concat]
        rfl
      have hl : spare ≤ taken.length := by simpa using hs
      rw [backOff, fst_orElse, Bool.or_eq_true, fst_here hk hm, hp, ih hl]
      constructor
      · rintro (h | ⟨a, b, rfl, hb, h⟩)
        · exact ⟨taken ++ [x], [], by simp, Nat.zero_le _, h⟩
        · exact ⟨a, b ++ [x], by simp, by simpa using hb, by simpa using h⟩
      · rintro ⟨a, b, he, hb, h⟩
        rcases List.eq_nil_or_concat' b with rfl | ⟨b, y, rfl⟩
        · exact .inl h
        · rw [← List.append_assoc] at he
          obtain ⟨rfl, ⟨⟩⟩ := List.append_inj' he rfl
          exact .inr ⟨a, b, rfl, by simpa using hb, by simpa using h⟩

end

/-- A repetition of a test takes every stretch of characters that the test accepts and that is as
long as the repetition allows. -/
theorem fst_stretches {scope : Scope} {k : Rest} {test : CharTest} (hk : k.Decides (· ∈ l))
    (hm : ∀ c, scope.isMissed c = true → c.ahead ∉ l) (c : Cursor) (s : Search) :
    (stretches scope .greedy least most (mode, test) c s k).1 = true ↔
      c.ahead ∈ repeats (single mode test) least most * l := by
  obtain ⟨taken, rest, ht, accepted, fits, longest, hr⟩ := exists_advance (test.accepts mode)
    (Nat.zero_le (most.getD c.remaining)) c.past c.ahead
  rw [Nat.zero_add] at fits longest hr
  have hc : c.remaining = (taken ++ rest).length := congrArg List.length ht
  rw [hc] at fits longest
  rw [ht, mem_repeats_single_mul accepted fits longest]
  unfold stretches
  dsimp only
  rw [if_neg (by decide : ¬Greed.greedy = .lazy), hr]
  dsimp only
  by_cases hle : least ≤ taken.length
  · rw [if_neg (by rw [hc, List.length_append]; omega), if_neg (by omega),
      fst_backOff hk hm (Nat.sub_le _ _)]
    refine exists₂_congr fun a b => and_congr_right ?_
    rintro rfl
    rw [List.length_append] at hle ⊢
    refine and_congr_left fun _ => ?_
    omega
  · have hn : ¬∃ a b, taken = a ++ b ∧ least ≤ a.length ∧ b ++ rest ∈ l := by
      rintro ⟨a, b, rfl, hl, -⟩
      rw [List.length_append] at hle
      omega
    split
    · exact iff_of_false Bool.false_ne_true hn
    · rw [if_pos (Nat.lt_of_not_le hle)]
      exact iff_of_false Bool.false_ne_true hn

/-! ### Rounds -/

/-- A matcher takes the words of a language, whatever is left to match. -/
def Matcher.Accepts (f : Matcher) (p : Language Char) : Prop :=
  ∀ (k : Rest) (l : Language Char), k.Decides (· ∈ l) →
    ∀ c s, (f c s k).1 = true ↔ c.ahead ∈ p * l

section

variable {round : Matcher} {p : Language Char} (hr : round.Accepts p) {k : Rest}
  (hk : k.Decides (· ∈ l))
include hr hk

theorem decides_owedRounds (owed : Nat) :
    Rest.Decides (owedRounds round k owed) (· ∈ p ^ owed * l) := by
  induction owed with
  | zero =>
    intro c s
    rw [owedRounds, pow_zero, one_mul]
    exact hk c s
  | succ owed ih =>
    intro c s
    rw [owedRounds, fst_resettled, hr _ _ ih, pow_succ', mul_assoc]

/-- The characters that further rounds take and the rest agrees to, if the last round started with
`last` characters remaining. -/
def afterRounds (p l : Language Char) (spare : Nat) (last : Option Nat) : Language Char :=
  {w | if last = some w.length then w ∈ l else w ∈ repeats (p - 1) 0 (some spare) * l}

omit hr hk in
theorem mem_afterRounds_of_eq {spare : Nat} {last : Option Nat} (h : last = some w.length) :
    w ∈ afterRounds p l spare last ↔ w ∈ l := iff_of_eq (if_pos h)

omit hr hk in
theorem mem_afterRounds_of_ne {spare : Nat} {last : Option Nat} (h : last ≠ some w.length) :
    w ∈ afterRounds p l spare last ↔ w ∈ repeats (p - 1) 0 (some spare) * l := iff_of_eq (if_neg h)

theorem decides_greedyRounds (spare : Nat) (last : Option Nat) :
    Rest.Decides (greedyRounds round k spare last) (· ∈ afterRounds p l spare last) := by
  induction spare generalizing last with
  | zero =>
    intro c s
    rw [greedyRounds, fst_resettled, hk]
    by_cases h : last = some c.ahead.length
    · exact (mem_afterRounds_of_eq h).symm
    · dsimp only
      rw [mem_afterRounds_of_ne h, repeats_zero, one_mul]
  | succ spare ih =>
    intro c s
    have hs : stalled last c = true ↔ last = some c.ahead.length := beq_iff_eq
    rw [greedyRounds]
    by_cases h : last = some c.ahead.length
    · rw [if_pos (hs.2 h), fst_resettled, hk]
      exact (mem_afterRounds_of_eq h).symm
    · rw [if_neg (mt hs.1 h), fst_orElse, Bool.or_eq_true, hr _ _ (ih _), fst_resettled, hk]
      dsimp only
      rw [mem_afterRounds_of_ne h, repeats_succ, add_mul, one_mul, mul_assoc, Language.mem_add]
      refine or_congr_left' fun hl => ?_
      constructor
      · intro hw
        obtain ⟨_ | ⟨x, u⟩, hu, v, hv, he⟩ := Language.mem_mul.1 hw
        · rw [List.nil_append] at he
          exact absurd ((mem_afterRounds_of_eq rfl).1 (he ▸ hv)) hl
        · rw [mem_afterRounds_of_ne (by simp [Cursor.remaining, ← he]; omega)] at hv
          rw [← he]
          exact Language.append_mem_mul ⟨hu, List.cons_ne_nil x u⟩ hv
      · intro hw
        obtain ⟨u, ⟨hu, hn⟩, v, hv, he⟩ := Language.mem_mul.1 hw
        have hn : 0 < u.length := List.length_pos_iff.2 hn
        rw [← he]
        refine Language.append_mem_mul hu ((mem_afterRounds_of_ne ?_).2 hv)
        rw [Cursor.remaining, ← he, List.length_append, ne_eq, Option.some.injEq]
        omega

/-- Without a bound there are as many further rounds as can take something. -/
theorem decides_more (least : Nat) (most : Option Nat) :
    Rest.Decides (fun c => greedyRounds round k (spareRounds least most c) none c)
      (· ∈ repeats p 0 (most.map (· - least)) * l) := by
  intro c s
  rw [decides_greedyRounds hr hk]
  dsimp only
  rw [mem_afterRounds_of_ne (Option.some_ne_none _).symm, ← repeats_sub_one p (most.map _)]
  cases most with
  | some m => rfl
  | none =>
    constructor
    · intro hw
      obtain ⟨u, hu, v, hv, he⟩ := Language.mem_mul.1 hw
      rw [← he]
      exact Language.append_mem_mul (repeats_none_of_some hu) hv
    · intro hw
      obtain ⟨u, hu, v, hv, he⟩ := Language.mem_mul.1 hw
      have hl : u.length ≤ c.remaining + mostReturns := by
        rw [Cursor.remaining, ← he, List.length_append]
        omega
      rw [← he]
      exact Language.append_mem_mul (repeats_some_of_length_le hu hl) hv

/-- Rounds of a matcher take as many of its words as a repetition allows. -/
theorem fst_rounds (hl : ∀ m ∈ most, least ≤ m) (scope : Scope) (c : Cursor) (s : Search) :
    (rounds scope .greedy least most round c s k).1 = true ↔
      c.ahead ∈ repeats p least most * l := by
  have ho := decides_owedRounds hr (decides_more hr hk least most) least c (s.setOut c)
  dsimp only at ho
  rwa [← mul_assoc, pow_mul_repeats p hl] at ho

end

/-! ### Patterns -/

theorem takes_empty {scope : Scope} {k : Rest} {holds : List Char → Prop} (hk : k.Decides holds) :
    Takes scope .empty k holds := by
  intro c s
  rw [run]
  exact hk c s

theorem takes_char {scope : Scope} {k : Rest} (hk : k.Decides (· ∈ l)) (test : CharTest) :
    Takes scope (.char test) k (· ∈ single scope.mode test * l) := by
  rintro ⟨past, _ | ⟨x, ahead⟩⟩ s
  · rw [run]
    exact iff_of_false Bool.false_ne_true nil_not_mem_single_mul
  · rw [run]
    dsimp only
    rw [cons_mem_single_mul]
    by_cases h : test.accepts scope.mode x = true
    · rw [if_pos h, hk, and_iff_right h]
    · rw [if_neg h]
      exact iff_of_false Bool.false_ne_true fun hx => h hx.1

/-- A part that is read as a test of one character takes what the test takes. -/
theorem words_of_single? {p : Pattern} {test : Mode × CharTest} (hp : p.isRegular = true)
    (h : p.single? mode = some test) :
    test.1 = mode ∧ p.words mode = single mode test.2 := by
  induction p with
  | char t =>
    cases h
    exact ⟨rfl, rfl⟩
  | sequence first rest ihf =>
    rw [isRegular, Bool.and_eq_true] at hp
    cases rest with
    | empty =>
      obtain ⟨hm, hw⟩ := ihf hp.1 h
      refine ⟨hm, ?_⟩
      rw [words, hw, words, mul_one]
    | _ => cases h
  | _ => simp_all [single?, isRegular]

theorem fst_alternative {scope : Scope} {p : Pattern} {f : Matcher} {k : Rest}
    (hp : p.isRegular = true) (hf : ∀ c s, (f c s k).1 = true ↔ c.ahead ∈ p.words scope.mode * l)
    (c : Cursor) (s : Search) :
    (alternative scope p f c s k).1 = true ↔ c.ahead ∈ p.words scope.mode * l := by
  rw [alternative]
  by_cases h : (p.lead scope.mode).rulesOut c = true
  · rw [if_pos h]
    exact iff_of_false Bool.false_ne_true (not_mem_of_rulesOut hp h)
  · rw [if_neg h, fst_orElse, Bool.or_false, hf]

/-- The matcher takes the words of a regular pattern that are followed by what the rest agrees to. -/
theorem takes_words {p : Pattern} (hp : p.isRegular = true) {scope : Scope} {k : Rest}
    {l : Language Char} (hk : k.Decides (· ∈ l))
    (hm : ∀ c, scope.isMissed c = true → c.ahead ∉ l) :
    Takes scope p k (· ∈ p.words scope.mode * l) := by
  -- Inside alternatives and rounds no character must follow.
  have inner (scope : Scope) {l : Language Char} (c : Cursor) :
      scope.inner.isMissed c = true → c.ahead ∉ l := fun h => by cases h
  induction p generalizing scope k l with
  | empty =>
    rw [words, one_mul]
    exact takes_empty hk
  | char test => exact takes_char hk test
  | sequence first rest ihf ihr =>
    rw [isRegular, Bool.and_eq_true] at hp
    intro c s
    rw [run, words, mul_assoc]
    have hr : Rest.Decides (fun c s => run scope rest c s k)
        (· ∈ rest.words scope.mode * l) := ihr hp.2 hk hm
    have hf := ihf hp.1 hr fun c => not_mem_of_isMissed hp.2 hm
    rw [Scope.mode_before] at hf
    exact hf c s
  | choice first rest ihf ihr =>
    rw [isRegular, Bool.and_eq_true] at hp
    intro c s
    rw [run, fst_orElse, Bool.or_eq_true]
    dsimp only
    rw [words, add_mul, Language.mem_add]
    refine or_congr (fst_alternative hp.1 (ihf hp.1 hk (inner scope)) c s) ?_
    split
    · exact ihr hp.2 hk hm c _
    · exact fst_alternative hp.2 (ihr hp.2 hk (inner scope)) c _
  | repeated greed least most body ih =>
    cases greed with
    | greedy =>
      rw [isRegular, Bool.and_eq_true] at hp
      intro c s
      rw [run]
      dsimp only
      rw [words]
      cases ht : body.single? scope.mode with
      | some test =>
        obtain ⟨hm', hw⟩ := words_of_single? hp.2 ht
        rw [hw, ← hm']
        exact fst_stretches hk hm c s
      | none =>
        have hl : ∀ m ∈ most, least ≤ m := by
          rintro m rfl
          simpa using hp.1
        have hr := fun k l (hk : Rest.Decides k (· ∈ l)) =>
          @ih hp.2 { scope.inner with looping := scope.looping || Greed.greedy != .possessive } k l
            hk fun c h => by cases h
        exact fst_rounds hr hk hl scope c s
    | _ => cases hp
  | _ => cases hp

/-! ### Whole texts -/

/-- Whether the whole text has been taken. -/
def toEnd : Rest := fun c s => if c.ahead.isEmpty then (true, s.setOut c) else (false, s)

theorem decides_toEnd : toEnd.Decides (· ∈ (1 : Language Char)) := by
  rintro ⟨past, _ | ⟨x, ahead⟩⟩ s <;> simp [toEnd]

/-- A regular pattern matches its words. -/
theorem fst_search {p : Pattern} (hp : p.isRegular = true) (mode : Mode) (text : List Char) :
    (search mode p text).1 = true ↔ text ∈ p.words mode := by
  have ht := @takes_words p hp { mode } _ _ decides_toEnd fun c h => by cases h
  rw [mul_one] at ht
  exact ht ⟨[], text⟩ ⟨[], ⟨[], text⟩⟩

/-- A regular pattern that has been read matches its words. -/
theorem Compiled.matchesAll_of_regular {c : Compiled} (hp : c.pattern.isRegular = true)
    (hg : c.groups = 0) (hl : c.least = (c.pattern.width []).1) {text : String} {answer : Bool}
    (h : answer = true ↔ text.toList ∈ c.pattern.words c.mode) : c.matchesAll text = .ok answer := by
  have hs := (fst_search hp c.mode text.toList).trans h.symm
  rw [matchesAll, hg]
  split
  · next hn =>
    cases answer with
    | false => rfl
    | true =>
      have hw := width_le_length [] hp (h.1 rfl)
      rw [String.length_toList] at hw
      omega
  · split
    · next he =>
      rw [he] at hs
      rw [Bool.eq_false_iff.2 fun ht => Bool.false_ne_true (hs.2 ht)]
    · next he =>
      rw [he] at hs
      rw [hs.1 rfl]
      rfl

end TargetedConfig.Pattern
