import TargetedConfig.Proofs.Template.Decoded
import TargetedConfig.Proofs.Text.Integer

/-!
# Version numbers without a text

The version number of a template has a text unless it is a value that holds an integer which is too
long. No template that is read from a text has such a version number, for its integers have been
short enough to be read.
-/

namespace TargetedConfig

/-- Values that hold an integer which is too long. -/
inductive Json.Value.Overlong : Json.Value → Prop where
  | integer {n : Int} (tooLong : Text.TooLong n) : Overlong (.integer n)
  | item {items : List Json.Value} {v : Json.Value} (mem : v ∈ items) (overlong : Overlong v) :
      Overlong (.array items)
  | field {fields : List (String × Json.Value)} {p : String × Json.Value} (mem : p ∈ fields)
      (overlong : Overlong p.2) : Overlong (.object fields)

namespace Json.Value

theorem overlong_array {items : List Json.Value} :
    (array items).Overlong ↔ ∃ v ∈ items, v.Overlong := by
  constructor
  · rintro (_ | ⟨mem, h⟩)
    exact ⟨_, mem, h⟩
  · rintro ⟨v, mem, h⟩
    exact .item mem h

theorem overlong_object {fields : List (String × Json.Value)} :
    (object fields).Overlong ↔ ∃ p ∈ fields, p.2.Overlong := by
  constructor
  · rintro (_ | _ | ⟨mem, h⟩)
    exact ⟨_, mem, h⟩
  · rintro ⟨p, mem, h⟩
    exact .field mem h

/-- The reader's limit counts the sign as well. -/
theorem not_overlong_of_integersFit {v : Json.Value} (h : v.integersFit = true) : ¬v.Overlong := by
  intro ho
  induction ho with
  | @integer n tooLong =>
    have hl : (Token.writeInteger n).length ≤ Token.maxWholeLength := of_decide_eq_true h
    have hm : Token.maxWholeLength = Text.maxDigits := rfl
    rw [Token.writeInteger, List.length_append] at hl
    rw [Text.TooLong] at tooLong
    omega
  | item mem _ ih => exact ih ((integersFit_array _).1 h _ mem)
  | field mem _ ih => exact ih ((integersFit_object _).1 h _ mem)

end Json.Value

namespace Template

theorem itemTexts?_eq_none_iff {items : List Json.Value}
    (h : ∀ v ∈ items, valueText? v = none ↔ v.Overlong) :
    itemTexts? items = none ↔ ∃ v ∈ items, v.Overlong := by
  induction items with
  | nil => simp [itemTexts?]
  | cons v rest ih =>
    rw [List.forall_mem_cons] at h
    simp only [itemTexts?, List.mem_cons, exists_eq_or_imp, ← h.1, ← ih h.2]
    cases valueText? v <;> simp

theorem fieldTexts?_eq_none_iff {fields : List (String × Json.Value)}
    (h : ∀ p ∈ fields, valueText? p.2 = none ↔ p.2.Overlong) :
    fieldTexts? fields = none ↔ ∃ p ∈ fields, p.2.Overlong := by
  induction fields with
  | nil => simp [fieldTexts?]
  | cons p rest ih =>
    obtain ⟨k, v⟩ := p
    rw [List.forall_mem_cons] at h
    simp only [fieldTexts?, List.mem_cons, exists_eq_or_imp, ← h.1, ← ih h.2]
    cases valueText? v <;> simp

theorem valueText?_eq_none_iff (v : Json.Value) : valueText? v = none ↔ v.Overlong := by
  induction v using Json.Value.tree_induction with
  | integer n =>
    rw [valueText?, Text.ofInteger?_eq_none_iff]
    exact ⟨.integer, fun | .integer h => h⟩
  | array items ih =>
    rw [valueText?, Option.map_eq_none_iff, itemTexts?_eq_none_iff ih, Json.Value.overlong_array]
  | object fields ih =>
    rw [valueText?, Option.map_eq_none_iff, fieldTexts?_eq_none_iff ih, Json.Value.overlong_object]
  | null | bool | float | string => exact ⟨nofun, nofun⟩

/-- The version number is a value that holds an integer which is too long. -/
def Unnumbered (t : Template) : Prop :=
  ∃ details v, t.version = some details ∧ details.get? versionNumberKey = some v ∧ v.Overlong

variable {t : Template} {f : Failure}

theorem versionNumber_eq_error_iff :
    t.versionNumber = .error f ↔ f = .integerTooLong ∧ t.Unnumbered := by
  have hu : t.Unnumbered ↔
      ∃ v, t.version.bind (·.get? versionNumberKey) = some v ∧ valueText? v = none := by
    simp only [Unnumbered, Option.bind_eq_some_iff, valueText?_eq_none_iff]
    constructor
    · rintro ⟨details, v, hd, hv, ho⟩
      exact ⟨v, ⟨details, hd, hv⟩, ho⟩
    · rintro ⟨v, ⟨details, hd, hv⟩, ho⟩
      exact ⟨details, v, hd, hv, ho⟩
  rw [hu, versionNumber]
  cases t.version.bind (·.get? versionNumberKey) with
  | none => simp
  | some v =>
    simp only [Option.some.injEq, exists_eq_left']
    cases v with
    | null | string => simp [valueText?]
    | bool | integer | float | array | object =>
      dsimp only
      cases valueText? _ <;> simp [eq_comm]

theorem Unnumbered.versionNumber_eq (h : t.Unnumbered) :
    t.versionNumber = .error .integerTooLong :=
  versionNumber_eq_error_iff.2 ⟨rfl, h⟩

theorem Unnumbered.versionNumber_ne (h : t.Unnumbered) (version : Option String) :
    t.versionNumber ≠ .ok version := by
  rw [h.versionNumber_eq]
  nofun

theorem exists_versionNumber (h : ¬t.Unnumbered) : ∃ version, t.versionNumber = .ok version := by
  cases hv : t.versionNumber with
  | ok version => exact ⟨version, rfl⟩
  | error f => exact absurd (versionNumber_eq_error_iff.1 hv).2 h

/-- Details whose integers can be read have a version number with a text. -/
theorem not_unnumbered_of_details
    (h : ∀ details, t.version = some details → ∀ p ∈ details.entries, p.2.integersFit = true) :
    ¬t.Unnumbered := by
  rintro ⟨details, v, hd, hv, ho⟩
  exact Json.Value.not_overlong_of_integersFit (h details hd _ (OrderedMap.mem_entries_iff.2 hv)) ho

/-- The version number of a template that has been loaded has a text. -/
theorem not_unnumbered_of_load {text : String} {notes : List Entry}
    (h : load text = (.ok t, notes)) : ¬t.Unnumbered :=
  not_unnumbered_of_details fun details hd p hp =>
    ((settled_of_load h).version details hd p hp).integers

theorem Readable.not_unnumbered (h : t.Readable) : ¬t.Unnumbered := by
  refine not_unnumbered_of_details fun details hd p hp => ?_
  have hi := h.integers
  rw [toJson, Json.Value.integersFit_object] at hi
  have hv := hi ("version", .object details.entries) (by simp [hd, Encode.given])
  exact (Json.Value.integersFit_object _).1 hv p hp

end Template

end TargetedConfig
