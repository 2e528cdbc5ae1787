import TargetedConfig.Binary64.Literal
import TargetedConfig.Proofs.Text.Blank

/-!
# The grammar of number literals

`Literal.Spells` says which texts spell which literals, part by part and without a reader in mind:
signs, digits around a point, exponents and suffixes are put behind each other. The reader accepts
exactly these texts, between any blanks, and takes them for what they spell.
-/

namespace TargetedConfig

namespace Literal

variable {digits text body rest : List Char} {negative : Bool} {exponent : Int}

theorem takeWhile_digits (hd : ∀ c ∈ digits, c.isDigit = true)
    (hr : ∀ c ∈ rest.head?, c.isDigit = false) :
    (digits ++ rest).takeWhile Char.isDigit = digits := by
  rw [List.takeWhile_append_of_pos hd]
  cases rest with
  | nil => simp
  | cons c rest => simp [hr c rfl]

theorem dropWhile_digits (hd : ∀ c ∈ digits, c.isDigit = true)
    (hr : ∀ c ∈ rest.head?, c.isDigit = false) :
    (digits ++ rest).dropWhile Char.isDigit = rest := by
  rw [List.dropWhile_append_of_pos hd]
  cases rest with
  | nil => rfl
  | cons c rest => simp [hr c rfl]

theorem isDigit_of_mem_takeWhile : ∀ c ∈ text.takeWhile Char.isDigit, c.isDigit = true :=
  fun _ h => List.all_eq_true.1 List.all_takeWhile _ h

/-! ### The parts of a literal -/

inductive IsSign : List Char → Bool → Prop
  | absent : IsSign [] false
  | plus : IsSign ['+'] false
  | minus : IsSign ['-'] true

/-- A point with digits behind it, and these digits; both may be absent. -/
inductive IsFraction : List Char → List Char → Prop
  | absent : IsFraction [] []
  | point {digits : List Char} (isDigit : ∀ c ∈ digits, c.isDigit = true) :
      IsFraction ('.' :: digits) digits

inductive IsExponent : List Char → Int → Prop
  | absent : IsExponent [] 0
  | marked {mark : Char} {sign digits : List Char} {negative : Bool}
      (mark_eq : mark = 'e' ∨ mark = 'E') (isSign : IsSign sign negative)
      (isDigit : ∀ c ∈ digits, c.isDigit = true) (nonempty : digits ≠ []) :
      IsExponent (mark :: (sign ++ digits))
        (if negative then -(Nat.ofDigitChars 10 digits 0 : Int) else Nat.ofDigitChars 10 digits 0)

/-- At most one letter that stands for a type. -/
inductive IsSuffix : List Char → Prop
  | absent : IsSuffix []
  | letter {c : Char} (mem : c ∈ ['f', 'F', 'd', 'D']) : IsSuffix [c]

/-- A text without blanks spells a literal. The digits behind the point count in the coefficient and
are taken off the exponent. -/
inductive Spells : List Char → Literal → Prop
  | nan {sign : List Char} {negative : Bool} (isSign : IsSign sign negative) :
      Spells (sign ++ ['N', 'a', 'N']) .nan
  | infinity {sign : List Char} {negative : Bool} (isSign : IsSign sign negative) :
      Spells (sign ++ ['I', 'n', 'f', 'i', 'n', 'i', 't', 'y']) (.infinity negative)
  | decimal {sign whole point fraction mark suffix : List Char} {negative : Bool} {exponent : Int}
      (isSign : IsSign sign negative) (isDigit : ∀ c ∈ whole, c.isDigit = true)
      (isFraction : IsFraction point fraction) (nonempty : whole ++ fraction ≠ [])
      (isExponent : IsExponent mark exponent) (isSuffix : IsSuffix suffix) :
      Spells (sign ++ (whole ++ (point ++ (mark ++ suffix))))
        (.decimal ⟨negative, Nat.ofDigitChars 10 (whole ++ fraction) 0,
          exponent - fraction.length⟩)

/-- A text spells a literal between blanks. -/
def Denotes (text : String) (literal : Literal) : Prop :=
  ∃ before body after, text.toList = before ++ (body ++ after) ∧
    (∀ c ∈ before, isBlank c = true) ∧ (∀ c ∈ after, isBlank c = true) ∧ Spells body literal

/-! ### Reading the parts -/

theorem ne_sign {c : Char} (h : c.isDigit = true ∨ c = '.') : c ≠ '+' ∧ c ≠ '-' := by
  constructor <;> rintro rfl <;> revert h <;> decide

theorem sign_append {sign : List Char} (h : IsSign sign negative)
    (hr : ∀ c ∈ rest.head?, c ≠ '+' ∧ c ≠ '-') :
    Literal.sign (sign ++ rest) = (negative, rest) := by
  cases h with
  | absent =>
    rw [List.nil_append]
    unfold Literal.sign
    split
    · exact absurd rfl (hr _ rfl).2
    · exact absurd rfl (hr _ rfl).1
    · rfl
  | plus => rfl
  | minus => rfl

theorem exists_sign (text : List Char) :
    ∃ sign, IsSign sign (Literal.sign text).1 ∧ text = sign ++ (Literal.sign text).2 := by
  unfold Literal.sign
  split
  · exact ⟨_, .minus, rfl⟩
  · exact ⟨_, .plus, rfl⟩
  · exact ⟨_, .absent, rfl⟩

theorem fraction_append {point : List Char} (h : IsFraction point digits)
    (hr : ∀ c ∈ rest.head?, c.isDigit = false ∧ c ≠ '.') :
    fraction (point ++ rest) = (digits, rest) := by
  have hd : ∀ c ∈ rest.head?, c.isDigit = false := fun c hc => (hr c hc).1
  cases h with
  | absent =>
    rw [List.nil_append]
    unfold fraction
    split
    · exact absurd rfl (hr _ rfl).2
    · rfl
  | point isDigit =>
    rw [List.cons_append, fraction, takeWhile_digits isDigit hd, dropWhile_digits isDigit hd]

theorem exists_point (text : List Char) :
    ∃ point, IsFraction point (fraction text).1 ∧ text = point ++ (fraction text).2 := by
  unfold fraction
  split
  · exact ⟨_, .point isDigit_of_mem_takeWhile, by simp [List.takeWhile_append_dropWhile]⟩
  · exact ⟨_, .absent, rfl⟩

theorem isSuffix_iff : isSuffix text = true ↔ IsSuffix text := by
  constructor
  · intro h
    unfold isSuffix at h
    split at h
    · exact .absent
    · exact .letter (by simpa using h)
    · cases h
  · intro h
    cases h with
    | absent => rfl
    | letter mem => simpa [isSuffix] using mem

theorem mem_letters {c : Char} (h : c ∈ ['f', 'F', 'd', 'D']) :
    c = 'f' ∨ c = 'F' ∨ c = 'd' ∨ c = 'D' := by
  simpa using h

theorem IsSuffix.head? (h : IsSuffix text) :
    ∀ c ∈ text.head?, c.isDigit = false ∧ c ≠ '.' ∧ ¬(c = 'e' ∨ c = 'E') := by
  intro c hc
  cases h with
  | absent => cases hc
  | letter mem =>
    cases hc
    rcases mem_letters mem with rfl | rfl | rfl | rfl <;> decide

theorem exponent?_append {mark : List Char} (h : IsExponent mark exponent) (hr : IsSuffix rest) :
    exponent? (mark ++ rest) = some (exponent, rest) := by
  have hd : ∀ c ∈ rest.head?, c.isDigit = false := fun c hc => (hr.head? c hc).1
  cases h with
  | absent =>
    rw [List.nil_append]
    cases rest with
    | nil => rfl
    | cons c rest => rw [exponent?, if_neg (hr.head? c rfl).2.2]
  | @marked mark sign digits negative mark_eq isSign isDigit nonempty =>
    have hs : ∀ c ∈ (digits ++ rest).head?, c ≠ '+' ∧ c ≠ '-' := by
      cases digits with
      | nil => exact absurd rfl nonempty
      | cons d digits =>
        rintro c ⟨⟩
        exact ne_sign (.inl (isDigit d List.mem_cons_self))
    rw [List.cons_append, List.append_assoc, exponent?, if_pos mark_eq]
    simp only [sign_append isSign hs, takeWhile_digits isDigit hd, dropWhile_digits isDigit hd]
    rw [if_neg (by simpa using nonempty)]

theorem isExponent_of_exponent? (h : exponent? text = some (exponent, rest)) :
    ∃ mark, IsExponent mark exponent ∧ text = mark ++ rest := by
  unfold exponent? at h
  split at h
  · rename_i c tail
    split at h
    · rename_i hc
      obtain ⟨sign, isSign, he⟩ := exists_sign tail
      dsimp only at h
      split at h
      · cases h
      · rename_i hn
        cases h
        refine ⟨_, .marked hc isSign isDigit_of_mem_takeWhile (by simpa using hn), ?_⟩
        rw [List.cons_append, List.append_assoc, List.takeWhile_append_dropWhile, ← he]
    · cases h
      exact ⟨_, .absent, rfl⟩
  · cases h
    exact ⟨_, .absent, rfl⟩

/-! ### Reading literals -/

section Decimal

variable {whole point fraction mark suffix : List Char}

theorem head?_mark (he : IsExponent mark exponent) (hs : IsSuffix suffix) :
    ∀ c ∈ (mark ++ suffix).head?, c.isDigit = false ∧ c ≠ '.' := by
  cases he with
  | absent => exact fun c hc => ⟨(hs.head? c hc).1, (hs.head? c hc).2.1⟩
  | marked mark_eq =>
    rintro c ⟨⟩
    rcases mark_eq with rfl | rfl <;> decide

theorem head?_point (hf : IsFraction point fraction)
    (hr : ∀ c ∈ rest.head?, c.isDigit = false) :
    ∀ c ∈ (point ++ rest).head?, c.isDigit = false := by
  cases hf with
  | absent => exact hr
  | point =>
    rintro c ⟨⟩
    decide

/-- An unsigned decimal literal starts with a digit or a point. -/
theorem head?_decimal (hw : ∀ c ∈ whole, c.isDigit = true) (hf : IsFraction point fraction)
    (hn : whole ++ fraction ≠ []) (rest : List Char) :
    ∃ c, (whole ++ (point ++ rest)).head? = some c ∧ (c.isDigit = true ∨ c = '.') := by
  cases whole with
  | cons d whole => exact ⟨d, rfl, .inl (hw d List.mem_cons_self)⟩
  | nil =>
    cases hf with
    | absent => exact absurd rfl hn
    | point => exact ⟨'.', rfl, .inr rfl⟩

theorem decimal?_append (hw : ∀ c ∈ whole, c.isDigit = true) (hf : IsFraction point fraction)
    (hn : whole ++ fraction ≠ []) (he : IsExponent mark exponent) (hs : IsSuffix suffix) :
    decimal? negative (whole ++ (point ++ (mark ++ suffix))) =
      some ⟨negative, Nat.ofDigitChars 10 (whole ++ fraction) 0, exponent - fraction.length⟩ := by
  have hm := head?_mark he hs
  have hp := head?_point hf fun c hc => (hm c hc).1
  have hne : ¬(whole.isEmpty && fraction.isEmpty) = true := by
    simpa using hn
  rw [decimal?]
  simp only [takeWhile_digits hw hp, dropWhile_digits hw hp, fraction_append hf hm,
    exponent?_append he hs, isSuffix_iff.2 hs]
  rw [if_neg hne, if_pos trivial]

theorem spells_of_decimal? {d : Decimal} {sign : List Char} (isSign : IsSign sign negative)
    (h : decimal? negative text = some d) : Spells (sign ++ text) (.decimal d) := by
  rw [decimal?] at h
  dsimp only at h
  split at h
  · cases h
  · rename_i hn
    split at h
    · cases h
    · rename_i exponent suffix he
      split at h
      · rename_i hs
        cases h
        obtain ⟨mark, isExponent, hm⟩ := isExponent_of_exponent? he
        obtain ⟨point, isFraction, hp⟩ := exists_point (text.dropWhile Char.isDigit)
        have ht : text = text.takeWhile Char.isDigit ++ (point ++ (mark ++ suffix)) := by
          rw [← hm, ← hp, List.takeWhile_append_dropWhile]
        conv => lhs; rw [ht]
        exact .decimal isSign isDigit_of_mem_takeWhile isFraction (by simpa using hn) isExponent
          (isSuffix_iff.1 hs)
      · cases h

end Decimal

/-- Texts without blanks are read as what they spell. -/
theorem read?_eq_some_iff {literal : Literal} :
    read? text = some literal ↔ Spells text literal := by
  constructor
  · intro h
    obtain ⟨sign, isSign, he⟩ := exists_sign text
    rw [read?] at h
    dsimp only at h
    rw [he]
    split at h
    · rename_i hr
      cases h
      rw [hr]
      exact .nan isSign
    · split at h
      · rename_i hr
        cases h
        rw [hr]
        exact .infinity isSign
      · obtain ⟨d, hd, rfl⟩ := Option.map_eq_some_iff.1 h
        exact spells_of_decimal? isSign hd
  · intro h
    cases h with
    | nan isSign =>
      rw [read?, sign_append isSign (by rintro c ⟨⟩; decide)]
      rfl
    | infinity isSign =>
      rw [read?, sign_append isSign (by rintro c ⟨⟩; decide)]
      rfl
    | @decimal sign whole point fraction mark suffix negative exponent isSign isDigit isFraction
        nonempty isExponent isSuffix =>
      obtain ⟨c, hc, hd⟩ := head?_decimal isDigit isFraction nonempty (mark ++ suffix)
      have hs : ∀ b ∈ (whole ++ (point ++ (mark ++ suffix))).head?, b ≠ '+' ∧ b ≠ '-' := by
        intro b hb
        cases hc.symm.trans hb
        exact ne_sign hd
      have hw {word : List Char} (h : ∀ b ∈ word.head?, ¬(b.isDigit = true ∨ b = '.')) :
          whole ++ (point ++ (mark ++ suffix)) ≠ word := by
        rintro rfl
        exact h c hc hd
      rw [read?, sign_append isSign hs]
      dsimp only
      rw [if_neg (hw (by rintro b ⟨⟩; decide)), if_neg (hw (by rintro b ⟨⟩; decide)),
        decimal?_append isDigit isFraction nonempty isExponent isSuffix]
      rfl

/-! ### Blanks -/

def usualDigits : List Char := ['0', '1', '2', '3', '4', '5', '6', '7', '8', '9']

theorem mem_usualDigits {c : Char} (h : c.isDigit = true) : c ∈ usualDigits := by
  obtain ⟨low, high⟩ := Char.isDigit_iff_toNat.1 h
  have hn : '9'.toNat = '0'.toNat + 9 := rfl
  have hc : c.toNat - '0'.toNat < 10 := by omega
  have ht : ∀ k < 10, Char.ofNat ('0'.toNat + k) ∈ usualDigits := by decide
  have hk := ht _ hc
  rwa [Nat.add_sub_cancel' low, Char.ofNat_toNat] at hk

/-- What is tested on every digit and every mark holds of what is one of them. -/
theorem of_all_usualDigits {p : Char → Bool} {marks : List Char} {c : Char}
    (h : (usualDigits ++ marks).all p = true) (hc : c.isDigit = true ∨ c ∈ marks) : p c = true :=
  List.all_eq_true.1 h c (List.mem_append.2 (hc.imp_left mem_usualDigits))

/-- The characters of decimal literals, digits and suffixes apart. -/
def decimalMarks : List Char := ['+', '-', '.', 'e', 'E']

def marks : List Char :=
  ['+', '-', '.', 'e', 'E', 'f', 'F', 'd', 'D', 'N', 'a', 'I', 'n', 'i', 't', 'y']

theorem IsSign.subset {sign : List Char} (h : IsSign sign negative) : sign ⊆ ['+', '-'] := by
  cases h <;> decide

/-- A decimal literal is made of digits and marks before its suffix, and any other suffix does as
well. -/
theorem Spells.exists_body {d : Decimal} (h : Spells text (.decimal d)) :
    ∃ body suffix, text = body ++ suffix ∧ IsSuffix suffix ∧
      (∀ c ∈ body, c.isDigit = true ∨ c ∈ decimalMarks) ∧
      ∀ other, IsSuffix other → Spells (body ++ other) (.decimal d) := by
  cases h with
  | @decimal sign whole point fraction mark suffix negative exponent isSign isDigit isFraction
      nonempty isExponent isSuffix =>
    have hd {digits : List Char} (h : ∀ c ∈ digits, c.isDigit = true) :
        ∀ c ∈ digits, c.isDigit = true ∨ c ∈ decimalMarks := fun c hc => .inl (h c hc)
    have hs {sign : List Char} {negative : Bool} (h : IsSign sign negative) :
        ∀ c ∈ sign, c.isDigit = true ∨ c ∈ decimalMarks := fun c hc =>
      .inr ((by decide : ['+', '-'] ⊆ decimalMarks) (h.subset hc))
    have hp : ∀ c ∈ point, c.isDigit = true ∨ c ∈ decimalMarks := by
      cases isFraction with
      | absent => simp
      | point isDigit => exact List.forall_mem_cons.2 ⟨by decide, hd isDigit⟩
    have he : ∀ c ∈ mark, c.isDigit = true ∨ c ∈ decimalMarks := by
      cases isExponent with
      | absent => simp
      | marked mark_eq isSign isDigit =>
        refine List.forall_mem_cons.2 ⟨?_, List.forall_mem_append.2 ⟨hs isSign, hd isDigit⟩⟩
        rcases mark_eq with rfl | rfl <;> decide
    refine ⟨sign ++ (whole ++ (point ++ mark)), suffix, by simp, isSuffix, ?_, fun other isOther => ?_⟩
    · simp only [List.forall_mem_append]
      exact ⟨hs isSign, hd isDigit, hp, he⟩
    · have hw := Spells.decimal isSign isDigit isFraction nonempty isExponent isOther
      simpa using hw

/-- The parts of a literal are made of digits and marks. -/
theorem Spells.isDigit_or_mem_marks {literal : Literal} (h : Spells text literal) :
    ∀ c ∈ text, c.isDigit = true ∨ c ∈ marks := by
  have hm {part : List Char} (h : part ⊆ marks) : ∀ c ∈ part, c.isDigit = true ∨ c ∈ marks :=
    fun c hc => .inr (h hc)
  have hs {sign : List Char} {negative : Bool} (h : IsSign sign negative) :
      ∀ c ∈ sign, c.isDigit = true ∨ c ∈ marks :=
    hm (List.Subset.trans h.subset (by decide))
  cases literal with
  | nan =>
    cases h with
    | nan isSign => exact List.forall_mem_append.2 ⟨hs isSign, hm (by decide)⟩
  | infinity =>
    cases h with
    | infinity isSign => exact List.forall_mem_append.2 ⟨hs isSign, hm (by decide)⟩
  | decimal d =>
    obtain ⟨body, suffix, rfl, isSuffix, hb, -⟩ := h.exists_body
    have hd : decimalMarks ⊆ marks := by decide
    have hl : ['f', 'F', 'd', 'D'] ⊆ marks := by decide
    refine List.forall_mem_append.2 ⟨fun c hc => (hb c hc).imp_right fun hk => hd hk, ?_⟩
    cases isSuffix with
    | absent => exact hm (by decide)
    | letter mem => exact List.forall_mem_singleton.2 (.inr (hl mem))

/-- No part of a literal holds a blank. -/
theorem Spells.isBlank {literal : Literal} (h : Spells text literal) :
    ∀ c ∈ text, isBlank c = false := by
  have hm : ((usualDigits ++ marks).all fun c => Literal.isBlank c = false) = true := by decide
  intro c hc
  exact of_decide_eq_true (of_all_usualDigits hm (h.isDigit_or_mem_marks c hc))

/-- What denotes a literal is plain, the blanks around it included. -/
theorem Denotes.toNat_lt {text : String} {literal : Literal} (h : Denotes text literal) :
    ∀ c ∈ text.toList, c.toNat < 0x80 := by
  have hm : ((usualDigits ++ marks).all fun c => c.toNat < 0x80) = true := by decide
  have hb {part : List Char} (h : ∀ c ∈ part, Literal.isBlank c = true) :
      ∀ c ∈ part, c.toNat < 0x80 := by
    intro c hc
    have hc := of_decide_eq_true (h c hc)
    omega
  obtain ⟨before, body, after, he, hf, ha, hs⟩ := h
  rw [he, List.forall_mem_append, List.forall_mem_append]
  refine ⟨hb hf, fun c hc => ?_, hb ha⟩
  exact of_decide_eq_true (of_all_usualDigits hm (hs.isDigit_or_mem_marks c hc))

/-- A text is read as what it denotes, and not at all when it denotes nothing. -/
theorem read?_trim_eq_some_iff {text : String} {literal : Literal} :
    read? (Text.trim isBlank text.toList) = some literal ↔ Denotes text literal := by
  rw [read?_eq_some_iff]
  constructor
  · intro h
    obtain ⟨before, after, he, hb, ha⟩ := Text.exists_of_trim isBlank text.toList
    exact ⟨before, _, after, he, hb, ha, h⟩
  · rintro ⟨before, body, after, he, hb, ha, h⟩
    rw [he, Text.trim_append hb ha h.isBlank]
    exact h

/-- A text denotes one literal at most. -/
theorem Denotes.unique {text : String} {l m : Literal} (h : Denotes text l) (k : Denotes text m) :
    l = m :=
  Option.some.inj ((read?_trim_eq_some_iff.2 h).symm.trans (read?_trim_eq_some_iff.2 k))

end Literal

/-- Parsing rounds what the text denotes. -/
theorem Binary64.parse?_eq_some_iff {text : String} {x : Binary64} :
    parse? text = some x ↔ ∃ literal, Literal.Denotes text literal ∧ literal.toBinary64 = x := by
  rw [parse?, Option.map_eq_some_iff]
  simp only [Literal.read?_trim_eq_some_iff]

end TargetedConfig
