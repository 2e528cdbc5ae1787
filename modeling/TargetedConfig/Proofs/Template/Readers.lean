import Mathlib.Data.List.Forall2
import TargetedConfig.Proofs.Json.Keys
import TargetedConfig.Template.Field

/-!
# Where decoded parts come from

Whatever a reader of lists, maps or fields accepts comes from values that the reader of the parts
accepts. `Gives` says what is true of everything that a reader gives, and passes from readers of
parts to readers of the whole. An integer that is given is never too long to be read again.
-/

namespace TargetedConfig

/-! ### Where decoded parts come from -/

namespace Checked

variable {α β γ : Type}

theorem map_eq_valid {f : α → β} {x : Checked α} {b : β} :
    x.map f = .valid b ↔ ∃ a, x = .valid a ∧ f a = b := by
  cases x <;> simp [map]

theorem functor_eq_valid {f : α → β} {x : Checked α} {b : β} :
    f <$> x = .valid b ↔ ∃ a, x = .valid a ∧ f a = b :=
  map_eq_valid

theorem seq_eq_valid {x : Checked (α → β)} {y : Checked α} {b : β} :
    x <*> y = .valid b ↔ ∃ f a, x = .valid f ∧ y = .valid a ∧ f a = b := by
  change x.apply y = _ ↔ _
  cases x <;> cases y <;> simp [apply]

theorem under_eq_valid {x : Checked α} {place : Place} {a : α} :
    x.under place = .valid a ↔ x = .valid a := by
  cases x <;> simp [under]

theorem forall₂_of_itemsFrom {read : α → Checked β} {items : List α} {n : Nat}
    {decoded : List β} (h : itemsFrom read n items = .valid decoded) :
    List.Forall₂ (fun a b => read a = .valid b) items decoded := by
  induction items generalizing n decoded with
  | nil =>
    cases h
    exact .nil
  | cons a rest ih =>
    rw [itemsFrom, seq_eq_valid] at h
    obtain ⟨f, others, hf, ho, rfl⟩ := h
    rw [functor_eq_valid] at hf
    obtain ⟨b, hb, rfl⟩ := hf
    rw [under_eq_valid] at hb
    exact .cons hb (ih ho)

theorem exists_of_itemsFrom {read : α → Checked β} {items : List α} {n : Nat} {decoded : List β}
    (h : itemsFrom read n items = .valid decoded) :
    ∀ b ∈ decoded, ∃ a ∈ items, read a = .valid b := by
  have hf := forall₂_of_itemsFrom h
  clear h
  induction hf with
  | nil => simp
  | @cons a b rest others hb _ ih =>
    intro c hc
    rcases List.mem_cons.1 hc with rfl | hc
    · exact ⟨a, by simp, hb⟩
    · obtain ⟨a', ha, hr⟩ := ih c hc
      exact ⟨a', by simp [ha], hr⟩

theorem exists_of_entries {read : α → Checked β} {fields : List (String × α)}
    {decoded : List (String × β)} (h : entries read fields = .valid decoded) :
    ∀ p ∈ decoded, ∃ q ∈ fields, read q.2 = .valid p.2 := by
  induction fields generalizing decoded with
  | nil =>
    cases h
    simp
  | cons q rest ih =>
    obtain ⟨key, a⟩ := q
    rw [entries, seq_eq_valid] at h
    obtain ⟨f, others, hf, ho, rfl⟩ := h
    rw [functor_eq_valid] at hf
    obtain ⟨b, hb, rfl⟩ := hf
    rw [under_eq_valid] at hb
    intro p hp
    rcases List.mem_cons.1 hp with rfl | hp
    · exact ⟨(key, a), by simp, hb⟩
    · obtain ⟨q, hq, hr⟩ := ih ho p hp
      exact ⟨q, by simp [hq], hr⟩

end Checked

namespace Field

variable {α : Type} {f : Field}

theorem mem_of_last? {key : String} {entries : List (String × α)} {a : α}
    (h : last? key entries = some a) : (key, a) ∈ entries := by
  induction entries with
  | nil => cases h
  | cons entry rest ih =>
    obtain ⟨k, b⟩ := entry
    rw [last?, Option.or_eq_some_iff] at h
    rcases h with h | ⟨-, h⟩
    · exact List.mem_cons_of_mem _ (ih h)
    · split at h
      · rename_i hk
        cases h
        rw [hk]
        exact List.mem_cons_self
      · cases h

theorem mem_of_find? {entries : List (String × α)} {entry : String × α}
    (h : f.find? entries = some entry) : entry ∈ entries := by
  rw [find?] at h
  split at h
  · rename_i a ha
    cases h
    exact mem_of_last? ha
  · obtain ⟨a, ha, rfl⟩ := Option.map_eq_some_iff.1 h
    exact mem_of_last? ha

variable {read : Json.Value → Checked α} {fields : List (String × Json.Value)}

theorem exists_of_optional {o : Option α} (h : f.optional read fields = .valid o) :
    ∀ a ∈ o, ∃ p ∈ fields, read p.2 = .valid a := by
  rw [optional] at h
  split at h
  · cases h
    simp
  · cases h
    simp
  · rename_i key v _ hf
    rw [Checked.under_eq_valid, Checked.map_eq_valid] at h
    obtain ⟨a, ha, rfl⟩ := h
    intro b hb
    cases hb
    exact ⟨(key, v), mem_of_find? hf, ha⟩

theorem exists_of_withDefault {default a : α} (h : f.withDefault default read fields = .valid a) :
    a = default ∨ ∃ p ∈ fields, read p.2 = .valid a := by
  rw [withDefault] at h
  split at h
  · cases h
    exact .inl rfl
  · rename_i key v hf
    rw [Checked.under_eq_valid] at h
    exact .inr ⟨(key, v), mem_of_find? hf, h⟩

end Field

/-! ### Integers -/

namespace Json

-- Powers of numbers are those of the core library, whatever else is imported.
attribute [local instance (1100)] instPowNat

/-- An integer that is not too long to be read. -/
def Fits (n : Int) : Prop := (Value.integer n).integersFit = true

theorem fits_iff {n : Int} : Fits n ↔ (Token.writeInteger n).length ≤ Token.maxWholeLength :=
  decide_eq_true_iff

theorem fits_of_natAbs_lt {n : Int} (h : n.natAbs < 0x8000000000000000) : Fits n := by
  have hl : (Nat.toDigits 10 n.natAbs).length ≤ 20 := by
    refine (Nat.length_toDigits_le_iff (by decide) (by decide)).2 (Nat.lt_trans h ?_)
    decide
  have hm : Token.maxWholeLength = 4300 := rfl
  have hs : (if n < 0 then ['-'] else []).length ≤ 1 := by
    split <;> simp
  rw [fits_iff, Token.writeInteger, List.length_append]
  omega

end Json

open Json (Fits)

private theorem length_signed (text : List Char) :
    text.length - (IntegerText.signed text).2.length =
      if (IntegerText.signed text).1 then 1 else 0 := by
  unfold IntegerText.signed
  split <;> simp

theorem IntegerText.fits_of_plain {text : List Char} {n : Int} (h : plain text = .integer n) :
    Fits n := by
  have hs := length_signed text
  rw [plain] at h
  dsimp only at h
  generalize (signed text).1 = negative at h hs
  generalize (signed text).2 = rest at h hs
  split at h
  · cases h
    rfl
  · split at h
    · cases h
    · rename_i hd
      split at h
      · cases h
      · rename_i hl
        split at h
        · cases h
        · cases h
          have hne : rest.takeWhile Char.isDigit ≠ [] := by
            intro he
            simp [he] at hd
          have hw := Json.Token.length_writeInteger_le (List.all_eq_true.1 List.all_takeWhile) hne
            negative
          have hm : Text.maxDigits = Json.Token.maxWholeLength := rfl
          rw [Json.fits_iff]
          cases negative <;> simp only [if_true, if_false, Bool.false_eq_true] at hs hw ⊢ <;> omega

theorem IntegerText.fits_of_read {text : List Char} {n : Int} (h : read text = .valid n) :
    Fits n := by
  rw [read] at h
  split at h
  · rename_i hp
    cases h
    exact fits_of_plain hp
  · cases h
  · split at h
    · rename_i hp
      cases h
      obtain ⟨tidy, -, hp⟩ := Option.map_eq_some_iff.1 hp
      exact fits_of_plain hp
    · cases h

theorem Reader.fits_of_integer {v : Json.Value} {n : Int} (hv : v.integersFit = true)
    (h : integer v = .valid n) : Fits n := by
  cases v with
  | integer m =>
    cases h
    exact hv
  | bool b => cases b <;> cases h <;> rfl
  | string s => exact IntegerText.fits_of_read h
  | float x =>
    cases x with
    | finite negative units fits =>
      rw [integer] at h
      split at h
      · cases h
      · split at h
        · rename_i m hm hf
          cases h
          exact Json.fits_of_natAbs_lt (by simpa [fitsWord] using hf)
        · cases h
    | nan | infinite => cases h
  | null | array | object => cases h

/-! ### Readers -/

/-- No integer in the fields of an object is too long to be read. -/
def FieldsFit (fields : List (String × Json.Value)) : Prop :=
  ∀ p ∈ fields, p.2.integersFit = true

/-- Whatever a reader gives of a value in which no integer is too long has a property. -/
def Gives {α : Type} (P : α → Prop) (read : Json.Value → Checked α) : Prop :=
  ∀ ⦃v a⦄, v.integersFit = true → read v = .valid a → P a

open Json.Value (integersFit_array integersFit_object)

namespace Gives

variable {α : Type} {P : α → Prop} {read : Json.Value → Checked α} {f : Field}
  {fields : List (String × Json.Value)}

theorem model {read : List (String × Json.Value) → Checked α}
    (h : ∀ {fields a}, FieldsFit fields → read fields = .valid a → P a) :
    Gives P (Reader.model read) := by
  intro v a hv ha
  cases v with
  | object fields => exact h ((integersFit_object fields).1 hv) ha
  | null | bool | integer | float | string | array => cases ha

theorem listOf (h : Gives P read) : Gives (fun decoded => ∀ a ∈ decoded, P a)
    (Reader.listOf read) := by
  intro v decoded hv hd a ha
  cases v with
  | array items =>
    obtain ⟨w, hw, hr⟩ := Checked.exists_of_itemsFrom hd a ha
    exact h ((integersFit_array items).1 hv w hw) hr
  | null | bool | integer | float | string | object => cases hd

theorem mapOf (h : Gives P read) : Gives (fun m => ∀ p ∈ m.entries, P p.2)
    (Reader.mapOf read) := by
  intro v m hv hm
  cases v with
  | object fields =>
    obtain ⟨decoded, hd, rfl⟩ := Checked.map_eq_valid.1 hm
    refine OrderedMap.forall_ofList fun p hp => ?_
    obtain ⟨q, hq, hr⟩ := Checked.exists_of_entries hd p hp
    exact h ((integersFit_object fields).1 hv q hq) hr
  | null | bool | integer | float | string | array => cases hm

theorem optional (h : Gives P read) (hf : FieldsFit fields) {o : Option α}
    (ho : f.optional read fields = .valid o) : ∀ a ∈ o, P a := by
  intro a ha
  obtain ⟨p, hp, hr⟩ := Field.exists_of_optional ho a ha
  exact h (hf p hp) hr

theorem withDefault (h : Gives P read) (hf : FieldsFit fields) {default a : α} (hd : P default)
    (hw : f.withDefault default read fields = .valid a) : P a := by
  rcases Field.exists_of_withDefault hw with rfl | ⟨p, hp, hr⟩
  · exact hd
  · exact h (hf p hp) hr

end Gives

end TargetedConfig
