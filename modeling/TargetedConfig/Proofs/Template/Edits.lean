import TargetedConfig.Proofs.Json.Reading
import TargetedConfig.Proofs.Template.Fields

/-!
# Edits that no template notices

Foreign fields, the order of fields, the choice between the two names of a field and the contents of
objects of which only the presence counts have no bearing on the template of a text. One edit leaves
the fields of the model that it changes alike, and so the whole value, by induction on the way to
the place of the edit.
-/

namespace TargetedConfig

namespace Field

variable {α : Type} {f : Field} {key : String}

theorem Named.eq_or_eq {other k : String} (hk : f.Named key) (ho : f.Named other)
    (hne : key ≠ other) (h : f.Named k) : k = key ∨ k = other := by
  rcases hk with rfl | rfl <;> rcases ho with rfl | rfl
  · exact absurd rfl hne
  · exact h
  · exact h.symm
  · exact absurd rfl hne

/-! ### The value that counts as a field, in a changed object -/

theorem last?_append (key : String) (before after : List (String × α)) :
    last? key (before ++ after) = (last? key after).or (last? key before) := by
  induction before with
  | nil => simp [last?]
  | cons p rest ih => rw [List.cons_append, last?, ih, last?, Option.or_assoc]

theorem last?_eq_none {entries : List (String × α)} (h : key ∉ entries.map Prod.fst) :
    last? key entries = none := by
  induction entries with
  | nil => rfl
  | cons p rest ih =>
    rw [List.map_cons, List.mem_cons, not_or] at h
    rw [last?, ih h.2, if_neg (Ne.symm h.1), Option.or_none]

theorem last?_eq_some_iff {entries : List (String × α)} (h : (entries.map Prod.fst).Nodup) {a : α} :
    last? key entries = some a ↔ (key, a) ∈ entries := by
  refine ⟨mem_of_last?, fun ha => ?_⟩
  obtain ⟨before, after, rfl⟩ := List.append_of_mem ha
  have hn : key ∉ after.map Prod.fst := by
    rw [List.map_append, List.map_cons] at h
    exact (List.nodup_cons.1 h.of_append_right).1
  rw [last?_append, last?, last?_eq_none hn, if_pos rfl]
  rfl

theorem value?_insert (before after : List (String × α)) (h : ¬f.Named key) (a : α) :
    f.value? (before ++ (key, a) :: after) = f.value? (before ++ after) := by
  rw [Named, not_or] at h
  rw [value?, value?, last?_append, last?_append, last?_append, last?_append, last?, last?,
    if_neg h.1, if_neg h.2, Option.or_none, Option.or_none]

theorem value?_perm {entries others : List (String × α)} (hp : entries.Perm others)
    (hn : (entries.map Prod.fst).Nodup) : f.value? entries = f.value? others := by
  have hl : ∀ key, last? key entries = last? key others := by
    intro key
    ext a
    rw [last?_eq_some_iff hn, last?_eq_some_iff ((hp.map Prod.fst).nodup hn)]
    exact hp.mem_iff
  rw [value?, value?, hl, hl]

theorem last?_alone {other : String} {before after : List (String × α)}
    (h : other ∉ (before ++ after).map Prod.fst) (a : α) :
    last? other (before ++ (key, a) :: after) = if key = other then some a else none := by
  rw [List.map_append, List.mem_append, not_or] at h
  rw [last?_append, last?, last?_eq_none h.1, last?_eq_none h.2, Option.none_or, Option.or_none]

/-- A field that stands under one of its names alone has the value there. -/
theorem value?_alone {before after : List (String × α)} (hk : f.Named key)
    (h : ∀ other ∈ (before ++ after).map Prod.fst, ¬f.Named other) (a : α) :
    f.value? (before ++ (key, a) :: after) = some a := by
  have hn : f.name ∉ (before ++ after).map Prod.fst := fun hm => h _ hm (.inl rfl)
  have ho : f.other ∉ (before ++ after).map Prod.fst := fun hm => h _ hm (.inr rfl)
  rw [value?, last?_alone hn, last?_alone ho]
  rcases hk with rfl | rfl
  · rw [if_pos rfl]
    rfl
  · rw [if_pos rfl]
    split <;> rfl

private theorem rel_refl {R : α → α → Prop} (hr : ∀ a, R a a) : ∀ o : Option α, Option.Rel R o o
  | none => .none
  | some a => .some (hr a)

private theorem rel_or {R : α → α → Prop} {a b c d : Option α} (h : Option.Rel R a b)
    (h' : Option.Rel R c d) : Option.Rel R (a.or c) (b.or d) := by
  cases h with
  | none => exact h'
  | some h => exact .some h

/-- Objects that differ in the value of one entry. -/
theorem value?_rel {R : α → α → Prop} (hr : ∀ a, R a a) {a b : α} (h : R a b)
    (before after : List (String × α)) (key : String) :
    Option.Rel R (f.value? (before ++ (key, a) :: after))
      (f.value? (before ++ (key, b) :: after)) := by
  have hl : ∀ other, Option.Rel R (last? other (before ++ (key, a) :: after))
      (last? other (before ++ (key, b) :: after)) := by
    intro other
    have hi : Option.Rel R (if key = other then some a else none)
        (if key = other then some b else none) := by
      split
      · exact .some h
      · exact .none
    rw [last?_append, last?_append, last?, last?]
    exact rel_or (rel_or (rel_refl hr _) hi) (rel_refl hr _)
  exact rel_or (hl _) (hl _)

end Field

namespace Json.Value

theorem nesting_object_mono {fields others : List (String × Json.Value)}
    (h : ∀ p ∈ fields, ∃ q ∈ others, p.2.nesting ≤ q.2.nesting) :
    (object fields).nesting ≤ (object others).nesting := by
  refine nesting_object_le fun p hp => ?_
  obtain ⟨q, hq, hl⟩ := h p hp
  exact Nat.lt_of_le_of_lt hl (nesting_lt_of_mem_fields hq)

theorem nesting_replace_field {key : String} {v w : Json.Value} (h : v.nesting ≤ w.nesting)
    (before after : List (String × Json.Value)) :
    (object (before ++ (key, v) :: after)).nesting ≤
      (object (before ++ (key, w) :: after)).nesting := by
  refine nesting_object_mono fun p hp => ?_
  rcases List.mem_append.1 hp with hp | hp
  · exact ⟨p, by simp [hp], Nat.le_refl _⟩
  · rcases List.mem_cons.1 hp with rfl | hp
    · exact ⟨(key, w), by simp, h⟩
    · exact ⟨p, by simp [hp], Nat.le_refl _⟩

theorem nesting_replace_item {v w : Json.Value} (h : v.nesting ≤ w.nesting)
    (before after : List Json.Value) :
    (array (before ++ v :: after)).nesting ≤ (array (before ++ w :: after)).nesting := by
  have hw : w.nesting < (array (before ++ w :: after)).nesting :=
    nesting_lt_of_mem_items (by simp)
  refine nesting_array_le fun u hu => ?_
  rcases List.mem_append.1 hu with hu | hu
  · exact nesting_lt_of_mem_items (List.mem_append_left _ hu)
  · rcases List.mem_cons.1 hu with rfl | hu
    · exact Nat.lt_of_le_of_lt h hw
    · exact nesting_lt_of_mem_items (List.mem_append_right _ (List.mem_cons_of_mem _ hu))

end Json.Value

namespace Template

variable {change : Change} {s : Shape} {v w : Json.Value}

/-! ### One edit -/

theorem Model.FieldsAlike.alike {m : Model} {fields others : List (String × Json.Value)}
    (h : m.FieldsAlike fields others) : (Shape.model m).Alike (.object fields) (.object others) :=
  ⟨by simp, m.decode_alike h⟩

theorem Model.fieldsAlike_of_eq {m : Model} {fields others : List (String × Json.Value)}
    (h : ∀ p ∈ m.fields, p.1.value? fields = p.1.value? others) : m.FieldsAlike fields others := by
  intro p hp
  rw [h p hp]
  exact Field.rel_refl (.refl p.2) _

theorem Rearranged.alike (h : Rearranged s v w) (hv : v.keysDistinct = true) : s.Alike v w := by
  cases h with
  | insert before after value foreign =>
    refine (Model.fieldsAlike_of_eq fun p hp => ?_).alike
    exact (Field.value?_insert before after (foreign p hp) value).symm
  | reorder perm =>
    refine (Model.fieldsAlike_of_eq fun p _ => ?_).alike
    exact Field.value?_perm perm ((Json.Value.keysDistinct_object _).1 hv).1

private theorem fieldsAlike_rename {m : Model} {p : Field × Shape}
    {before after : List (String × Json.Value)} {key other : String} (value : Json.Value)
    (known : p ∈ m.fields) (named : p.1.Named key) (renamed : p.1.Named other)
    (ha : other ∉ (before ++ after).map Prod.fst) (hk : key ∉ (before ++ after).map Prod.fst) :
    m.FieldsAlike (before ++ (key, value) :: after) (before ++ (other, value) :: after) := by
  by_cases he : key = other
  · rw [he]
    exact Model.fieldsAlike_of_eq fun _ _ => rfl
  · refine Model.fieldsAlike_of_eq fun q hq => ?_
    -- Only the field that moves has either name.
    by_cases hqk : q.1.Named key
    · cases Model.eq_of_named hq known hqk named
      have alone : ∀ k ∈ (before ++ after).map Prod.fst, ¬p.1.Named k := by
        intro k hm hn
        rcases named.eq_or_eq renamed he hn with rfl | rfl
        · exact hk hm
        · exact ha hm
      rw [Field.value?_alone named alone, Field.value?_alone renamed alone]
    · have hqo : ¬q.1.Named other := by
        intro hqo
        cases Model.eq_of_named hq known hqo renamed
        exact hqk named
      rw [Field.value?_insert before after hqk, Field.value?_insert before after hqo]

theorem Edited.alike (h : Edited s v w) (hv : v.keysDistinct = true) : s.Alike v w := by
  cases h with
  | rearrange rearranged => exact rearranged.alike hv
  | refill fields others => exact ⟨by simp, .refl _⟩
  | rename before after value known named renamed alone =>
    have hn := ((Json.Value.keysDistinct_object _).1 hv).1
    rw [List.map_append, List.map_cons, List.nodup_middle, ← List.map_append] at hn
    have hk := (List.nodup_cons.1 hn).1
    exact (fieldsAlike_rename value known named renamed alone hk).alike

/-! ### Edits at any depth -/

private theorem fieldsAlike_field {m : Model} {p : Field × Shape} {key : String}
    (known : p ∈ m.fields) (named : p.1.Named key) (h : p.2.Alike v w)
    (before after : List (String × Json.Value)) :
    m.FieldsAlike (before ++ (key, v) :: after) (before ++ (key, w) :: after) := by
  intro q hq
  by_cases hk : q.1.Named key
  · cases Model.eq_of_named hq known hk named
    exact Field.value?_rel (.refl p.2) h before after key
  · rw [Field.value?_insert before after hk, Field.value?_insert before after hk]
    exact Field.rel_refl (.refl q.2) _

/-- A change in one place leaves the whole alike if it leaves the place alike. -/
theorem Inside.alike (hc : ∀ {s v w}, change s v w → v.keysDistinct = true → s.Alike v w)
    (h : Inside change s v w) (hv : v.keysDistinct = true) : s.Alike v w := by
  induction h with
  | here changed => exact hc changed hv
  | @field m p before after key v w known named inside ih =>
    have hi := ((Json.Value.keysDistinct_object _).1 hv).2 (key, v) (by simp)
    exact (fieldsAlike_field known named (ih hi) before after).alike
  | @item m before after v w inside ih =>
    have hi := (Json.Value.keysDistinct_array _).1 hv v (by simp)
    exact ⟨by simp, Checked.itemsFrom_alike (ih hi).read before after 0⟩
  | @entry m before after key v w inside ih =>
    have hi := ((Json.Value.keysDistinct_object _).1 hv).2 (key, v) (by simp)
    exact ⟨by simp, (Checked.entries_alike (ih hi).read before after key).map _⟩

/-- After any number of changes the whole is alike if each of them leaves its place alike. -/
theorem Changed.alike (hc : ∀ {s v w}, change s v w → v.keysDistinct = true → s.Alike v w)
    (h : Changed change v w) (hv : v.keysDistinct = true) :
    (Shape.model .template).Alike v w := by
  -- From the front: every change passes on that no key is repeated.
  induction h using Relation.ReflTransGen.head_induction_on with
  | refl => exact .refl _ _
  | head step _ ih => exact (step.2.alike hc hv).trans (ih step.1)

theorem Rearranged.nesting_le (h : Rearranged s v w) : v.nesting ≤ w.nesting := by
  cases h with
  | insert before after value foreign =>
    refine Json.Value.nesting_object_mono fun p hp => ⟨p, ?_, Nat.le_refl _⟩
    rcases List.mem_append.1 hp with hp | hp <;> simp [hp]
  | reorder perm =>
    exact Json.Value.nesting_object_mono fun p hp => ⟨p, perm.mem_iff.1 hp, Nat.le_refl _⟩

theorem Inside.nesting_le (hc : ∀ {s v w}, change s v w → v.nesting ≤ w.nesting)
    (h : Inside change s v w) : v.nesting ≤ w.nesting := by
  induction h with
  | here changed => exact hc changed
  | field before after known named inside ih =>
    exact Json.Value.nesting_replace_field ih before after
  | item before after inside ih => exact Json.Value.nesting_replace_item ih before after
  | entry before after inside ih => exact Json.Value.nesting_replace_field ih before after

theorem Changed.nesting_le (hc : ∀ {s v w}, change s v w → v.nesting ≤ w.nesting)
    (h : Changed change v w) : v.nesting ≤ w.nesting := by
  induction h with
  | refl => exact Nat.le_refl _
  | tail _ step ih => exact Nat.le_trans ih (step.2.nesting_le hc)

/-! ### Texts -/

private theorem read_eq_valid_iff {text : String} {checked : Template × List Entry}
    (h : Json.StandsFor text v) :
    read text = .valid checked ↔ v.nesting ≤ maxNesting ∧ ofJson v = .valid checked := by
  rw [read]
  split
  · rename_i hn
    constructor
    · intro he
      cases he
    · rintro ⟨hl, -⟩
      rw [Json.read?_eq_some_iff.2 ⟨h, hl⟩] at hn
      cases hn
  · rename_i w hw
    obtain ⟨ht, hl⟩ := Json.read?_eq_some_iff.1 hw
    cases h.unique ht
    exact (and_iff_right hl).symm

/-- The text of a value is accepted if the value nests no deeper than is allowed and gives a
template. -/
theorem load_eq_ok_iff {text : String} {t : Template} (h : Json.StandsFor text v) :
    (load text).1 = .ok t ↔ v.nesting ≤ maxNesting ∧ ∃ notes, ofJson v = .valid (t, notes) := by
  have hr : (load text).1 = .ok t ↔ ∃ notes, read text = .valid (t, notes) := by
    rw [load, if_neg h.ne_empty]
    cases read text with
    | invalid violations => simp
    | valid checked =>
      obtain ⟨u, notes⟩ := checked
      simp
  simp only [hr, read_eq_valid_iff h, exists_and_left]

/-- Edits of an accepted text give the same template, as long as the text stays within the nesting
that is allowed; and a rearranged text is accepted only if the text was. -/
theorem load_of_changed {text edited : String} (hv : Json.StandsFor text v)
    (hw : Json.StandsFor edited w) (distinct : v.keysDistinct = true) :
    (Changed Edited v w → w.nesting ≤ maxNesting →
      ∀ t, (load text).1 = .ok t → (load edited).1 = .ok t) ∧
    (Changed Rearranged v w →
      ∀ t, (load edited).1 = .ok t → (load text).1 = .ok t) := by
  constructor
  · intro h hn t ht
    rw [load_eq_ok_iff hv] at ht
    obtain ⟨-, notes, ht⟩ := ht
    have ha := h.alike Edited.alike distinct
    exact (load_eq_ok_iff hw).2 ⟨hn, notes, (ha.read _).1 ht⟩
  · intro h t ht
    rw [load_eq_ok_iff hw] at ht
    obtain ⟨hn, notes, ht⟩ := ht
    have ha := h.alike Rearranged.alike distinct
    have hl := h.nesting_le Rearranged.nesting_le
    exact (load_eq_ok_iff hv).2 ⟨Nat.le_trans hl hn, notes, (ha.read _).2 ht⟩

/-- A template with a parameter of the name of a field, and a condition that is always true. -/
def seeded (parameter contents : List (String × Json.Value)) : Json.Value :=
  .object [("parameters", .object [("seed", .object parameter)]),
    ("conditions", .array [.object [("name", .string "c"),
      ("condition", .object [("true", .object contents)])]])]

def defaultText (key : String) : String × Json.Value := (key, .object [("value", .string "v")])

/-- The same template after edits of each kind. -/
def reseeded : Json.Value :=
  .object [("conditions", .array [.object [("name", .string "c"),
      ("condition", .object [("true", .object [("seed", .integer 1)])])]]),
    ("parameters", .object [("seed", .object [("seed", .array []), defaultText "default_value"])])]

private theorem inside_parameter {fields others contents : List (String × Json.Value)}
    (h : change (.model .parameter) (.object fields) (.object others)) :
    Inside change (.model .template) (seeded fields contents) (seeded others contents) :=
  .field (p := (.plain "parameters", .mapOf .parameter)) [] _ (by simp [Model.fields]) (.inl rfl)
    (.entry [] [] (.here h))

private theorem inside_contents {parameter fields others : List (String × Json.Value)}
    (h : change .mark (.object fields) (.object others)) :
    Inside change (.model .template) (seeded parameter fields) (seeded parameter others) := by
  have node : Inside change (.model .node) (.object [("true", .object fields)])
      (.object [("true", .object others)]) :=
    .field (p := (.plain "true", .mark)) [] []
      (List.mem_map_of_mem (a := Decode.NodeField.always) (by decide)) (.inl rfl) (.here h)
  exact .field (p := (.plain "conditions", .listOf .condition))
    [("parameters", .object [("seed", .object parameter)])] [] (by simp [Model.fields]) (.inl rfl)
    (.item [] [] (.field (p := (.plain "condition", .model .node)) [("name", .string "c")] []
      (by simp [Model.fields]) (.inl rfl) node))

private theorem changed_seeded :
    Changed Edited (seeded [defaultText "defaultValue"] []) reseeded := by
  have inserted : Rearranged (.model .parameter) (.object [defaultText "defaultValue"])
      (.object [("seed", .array []), defaultText "defaultValue"]) :=
    .insert [] [defaultText "defaultValue"] (.array []) (by decide)
  have renamed : Edited (.model .parameter)
      (.object [("seed", .array []), defaultText "defaultValue"])
      (.object [("seed", .array []), defaultText "default_value"]) :=
    .rename (p := (⟨"defaultValue", "default_value"⟩, .model .value)) [("seed", .array [])] [] _
      (by simp [Model.fields]) (.inl rfl) (.inr rfl) (by decide)
  have reordered : Rearranged (.model .template)
      (seeded [("seed", .array []), defaultText "default_value"] [("seed", .integer 1)])
      reseeded :=
    .reorder (.swap _ _ _)
  exact .head ⟨by decide, inside_parameter (.rearrange inserted)⟩ <|
    .head ⟨by decide, inside_parameter renamed⟩ <|
    .head ⟨by decide, inside_contents (.refill [] [("seed", .integer 1)])⟩ <|
    .single ⟨by decide, .here (.rearrange reordered)⟩

theorem load_of_changed_seeded :
    Json.StandsFor (seeded [defaultText "defaultValue"] []).render
        (seeded [defaultText "defaultValue"] []) ∧
      Json.StandsFor reseeded.render reseeded ∧
      (seeded [defaultText "defaultValue"] []).keysDistinct = true ∧
      Changed Edited (seeded [defaultText "defaultValue"] []) reseeded ∧
      reseeded.nesting ≤ maxNesting ∧
      ∃ t, (load (seeded [defaultText "defaultValue"] []).render).1 = .ok t ∧
        (load reseeded.render).1 = .ok t := by
  have hv : Json.StandsFor (seeded [defaultText "defaultValue"] []).render
      (seeded [defaultText "defaultValue"] []) := Json.standsFor_render (by decide)
  have hw : Json.StandsFor reseeded.render reseeded := Json.standsFor_render (by decide)
  have hd : (seeded [defaultText "defaultValue"] []).keysDistinct = true := by decide
  have hn : reseeded.nesting ≤ maxNesting := by decide
  have hl : (load (seeded [defaultText "defaultValue"] []).render).1.isOk = true := by
    decide +kernel
  cases ht : (load (seeded [defaultText "defaultValue"] []).render).1 with
  | error failure =>
    rw [ht] at hl
    cases hl
  | ok t =>
    have hr := (load_of_changed hv hw hd).1 changed_seeded hn t ht
    exact ⟨hv, hw, hd, changed_seeded, hn, t, rfl, hr⟩

end Template

end TargetedConfig
