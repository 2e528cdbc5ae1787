import TargetedConfig.Proofs.Template.Readers
import TargetedConfig.Proofs.Template.RoundTrip

/-!
# What decoded templates are made of

A template that has been loaded holds no integer that is too long to be read again, no empty value
type, and no repeated key in the details about its version.
-/

namespace TargetedConfig

open Json.Value (integersFit_array integersFit_object)
open Json (Fits)

/-! ### What a reader leaves alone -/

/-- A parameter with a value type, in which no integer is too long to be read. -/
structure Parameter.Settled (p : Parameter) : Prop where
  integers : (Template.Encode.parameter p).integersFit = true
  valueType : p.valueType ≠ ""

def ParameterGroup.Settled (g : ParameterGroup) : Prop :=
  ∀ p ∈ g.parameters.entries, p.2.Settled

/-- A detail about the version with its keys settled, in which no integer is too long to be
read. -/
structure Json.Value.Settled (v : Json.Value) : Prop where
  integers : v.integersFit = true
  keys : v.distinctKeys = v

/-- A reading of a condition in which no integer is too long to be read. -/
def Reading.Fits (r : Reading) : Prop := (Template.Encode.node r.condition).integersFit = true

namespace Template

/-- What loading leaves in a template: integers that can be read again, value types, and settled
keys. -/
structure Settled (t : Template) : Prop where
  conditions : ∀ n ∈ t.conditions, (Encode.node n.condition).integersFit = true
  parameters : ∀ p ∈ t.parameters.entries, p.2.Settled
  groups : ∀ g ∈ t.groups.entries, g.2.Settled
  version : ∀ details ∈ t.version, ∀ p ∈ details.entries, p.2.Settled

theorem fit_given {α : Type} {name : String} {write : α → Json.Value} {o : Option α} :
    (∀ p ∈ Encode.given name write o, p.2.integersFit = true) ↔
      ∀ a ∈ o, (write a).integersFit = true := by
  cases o <;> simp [Encode.given]

theorem integersFit_string (s : String) : (Json.Value.string s).integersFit = true := rfl

theorem integersFit_mapOf {α : Type} {write : α → Json.Value} {m : OrderedMap α} :
    (Encode.mapOf write m).integersFit = true ↔
      ∀ p ∈ m.entries, (write p.2).integersFit = true := by
  rw [Encode.mapOf, integersFit_object, List.forall_mem_map]

theorem integersFit_list {name : String} {items : List Json.Value} :
    (Encode.list name items).integersFit = true ↔ ∀ v ∈ items, v.integersFit = true := by
  simp [Encode.list, integersFit_object, integersFit_array]

namespace Decode

variable {fields : List (String × Json.Value)}

theorem fits_getD {f : Field} {o : Option Int} (hf : FieldsFit fields)
    (h : f.optional Reader.integer fields = .valid o) :
    (Json.Value.integer (o.getD 0)).integersFit = true := by
  have hg : Gives Fits Reader.integer := fun _ _ => Reader.fits_of_integer
  cases o with
  | none => rfl
  | some n => exact hg.optional hf h n rfl

/-! ### Values of parameters -/

theorem fits_of_rollout {v : ParameterValue} (hf : FieldsFit fields)
    (h : rollout fields = .valid v) : (Encode.value v).integersFit = true := by
  rw [rollout] at h
  simp only [Checked.seq_eq_valid, Checked.functor_eq_valid] at h
  obtain ⟨_, percent, ⟨_, text, ⟨id, -, rfl⟩, -, rfl⟩, hp, rfl⟩ := h
  have hn := fits_getD hf hp
  cases text <;> simp [Encode.value, Encode.given, integersFit_object, integersFit_string, hn]

theorem fits_of_personalization {v : ParameterValue} (h : personalization fields = .valid v) :
    (Encode.value v).integersFit = true := by
  rw [personalization, Checked.functor_eq_valid] at h
  obtain ⟨id, -, rfl⟩ := h
  rfl

theorem gives_value :
    Gives (fun v => (Encode.value v).integersFit = true) (Reader.model value) := by
  refine .model fun {fields v} hf h => ?_
  rw [value] at h
  simp only [Checked.seq_eq_valid, Checked.functor_eq_valid] at h
  obtain ⟨_, personalized, ⟨_, rolled, ⟨_, inAppDefault, ⟨text, -, rfl⟩, -, rfl⟩, hr, rfl⟩, hp,
    rfl⟩ := h
  have hr := (Gives.model fun {_ _} => fits_of_rollout).optional hf hr
  have hp := (Gives.model fun {_ _} _ => fits_of_personalization).optional hf hp
  dsimp only
  split
  · rfl
  · cases rolled with
    | some v => exact hr v rfl
    | none =>
      cases personalized with
      | some v => exact hp v rfl
      | none => rfl

/-! ### Parameters -/

theorem valueType_ne (name : Option String) : valueType name ≠ "" := by
  unfold valueType
  split
  · decide
  · split
    · decide
    · assumption

theorem gives_parameter : Gives Parameter.Settled (Reader.model parameter) := by
  refine .model fun {fields p} hf h => ?_
  rw [parameter] at h
  simp only [Checked.seq_eq_valid, Checked.functor_eq_valid] at h
  obtain ⟨_, type, ⟨_, description, ⟨_, conditional, ⟨default, hd, rfl⟩, hc, rfl⟩, -, rfl⟩, -,
    rfl⟩ := h
  have hd := gives_value.optional hf hd
  have hc := gives_value.mapOf.withDefault hf (by simp [OrderedMap.empty]) hc
  refine ⟨?_, valueType_ne type⟩
  rw [Encode.parameter, integersFit_object]
  simp only [List.forall_mem_append, List.forall_mem_singleton, fit_given]
  exact ⟨⟨⟨hd, integersFit_mapOf.2 hc⟩, fun _ _ => rfl⟩, rfl⟩

theorem gives_parameters {m : OrderedMap Parameter} (hf : FieldsFit fields)
    (h : parameters fields = .valid m) : ∀ p ∈ m.entries, p.2.Settled :=
  gives_parameter.mapOf.withDefault hf (by simp [OrderedMap.empty]) h

theorem gives_group : Gives ParameterGroup.Settled (Reader.model group) := by
  refine .model fun {fields g} hf h => ?_
  rw [group] at h
  simp only [Checked.seq_eq_valid, Checked.functor_eq_valid] at h
  obtain ⟨_, parameters, ⟨description, -, rfl⟩, hp, rfl⟩ := h
  exact gives_parameters hf hp

theorem gives_details :
    Gives (fun d : OrderedMap Json.Value => ∀ p ∈ d.entries, p.2.Settled) details := by
  intro v d hv hd
  cases v with
  | object fields =>
    cases hd
    refine OrderedMap.forall_ofList ?_
    rw [List.forall_mem_map]
    intro p hp
    exact ⟨Json.Value.integersFit_distinctKeys ((integersFit_object fields).1 hv p hp),
      Json.Value.distinctKeys_distinctKeys p.2⟩
  | null | bool | integer | float | string | array => cases hd

/-! ### Conditions -/

theorem gives_range :
    Gives (fun r => (Encode.range r).integersFit = true) (Reader.model range) := by
  refine .model fun {fields r} hf h => ?_
  rw [range] at h
  simp only [Checked.seq_eq_valid, Checked.functor_eq_valid] at h
  obtain ⟨_, upper, ⟨lower, hl, rfl⟩, hu, rfl⟩ := h
  have hl := fits_getD hf hl
  have hu := fits_getD hf hu
  simp [Encode.range, integersFit_object, hl, hu]

theorem fits_of_percent {slice : PercentSlice} (hf : FieldsFit fields)
    (h : percent fields = .valid slice) : (Reading.percent slice).Fits := by
  rw [percent] at h
  simp only [Checked.seq_eq_valid, Checked.functor_eq_valid] at h
  obtain ⟨_, seed, ⟨_, range, ⟨_, bound, ⟨operator, -, rfl⟩, hb, rfl⟩, hr, rfl⟩, -, rfl⟩ := h
  have hb := fits_getD hf hb
  have hr := gives_range.optional hf hr
  rw [Reading.Fits, Reading.percent, Encode.node, integersFit_object, List.forall_mem_singleton,
    Encode.percent, integersFit_object]
  simp only [List.forall_mem_append, List.forall_mem_cons, fit_given]
  exact ⟨⟨⟨rfl, hb, by simp⟩, hr⟩, rfl, by simp⟩

theorem fits_signal (test : SignalTest) : (⟨.signal test, []⟩ : Reading).Fits := by
  simp [Reading.Fits, Encode.node, Encode.signal, integersFit_object, integersFit_array,
    integersFit_string]

theorem fits_combined {readings : List Reading} (h : ∀ r ∈ readings, r.Fits) :
    (Reading.combined .or readings).Fits ∧ (Reading.combined .and readings).Fits := by
  simpa [Reading.Fits, Reading.combined, Encode.node, integersFit_list, nodes_eq_map] using h

theorem fits_of_ofFields {readings : List (String × Reading)} (h : ∀ p ∈ readings, p.2.Fits) :
    (Reading.ofFields readings).Fits := by
  match readings with
  | [] => rfl
  | [p] => exact h p (by simp)
  | _ :: _ :: _ => rfl

theorem nodeEntries_eq_map (fields : List (String × Json.Value)) :
    nodeEntries fields = fields.map fun p => (p.1, nodeEntry (NodeField.ofKey? p.1) p.2) := by
  induction fields with
  | nil => rfl
  | cons p rest ih =>
    obtain ⟨k, v⟩ := p
    rw [nodeEntries, ih, List.map_cons]

theorem listEntries_eq_map (fields : List (String × Json.Value)) :
    listEntries fields = fields.map fun p => (p.1, nodes p.2) := by
  induction fields with
  | nil => rfl
  | cons p rest ih =>
    obtain ⟨k, v⟩ := p
    rw [listEntries, ih, List.map_cons]

theorem nodesFrom_eq (n : Nat) (items : List Json.Value) :
    nodesFrom n items = Checked.itemsFrom node n items := by
  induction items generalizing n with
  | nil => rfl
  | cons item rest ih => rw [nodesFrom, Checked.itemsFrom, ih]

theorem exists_of_childrenOf {children : List Reading}
    (h : childrenOf (listEntries fields) = .valid children) :
    children = [] ∨ ∃ p ∈ fields, nodes p.2 = .valid children := by
  rw [childrenOf] at h
  split at h
  · cases h
    exact .inl rfl
  · rename_i key readings hf
    rw [Checked.under_eq_valid] at h
    have hm := Field.mem_of_find? hf
    rw [listEntries_eq_map, List.mem_map] at hm
    obtain ⟨p, hp, he⟩ := hm
    cases he
    exact .inr ⟨p, hp, h⟩

theorem exists_of_fieldOf {entries : List (String × Checked (Option Reading))} {field : NodeField}
    {o : Option (String × Reading)} (h : fieldOf entries field = .valid o) :
    ∀ p ∈ o, ∃ entry ∈ entries, entry.2 = .valid (some p.2) := by
  rw [fieldOf] at h
  split at h
  · cases h
    simp
  · rename_i key reading hf
    rw [Checked.under_eq_valid, Checked.map_eq_valid] at h
    obtain ⟨r, hr, rfl⟩ := h
    intro p hp
    obtain ⟨r, rfl, rfl⟩ := Option.map_eq_some_iff.1 hp
    exact ⟨_, Field.mem_of_find? hf, hr⟩

theorem exists_of_fieldsOf {entries : List (String × Checked (Option Reading))}
    {names : List NodeField} {readings : List (String × Reading)}
    (h : fieldsOf entries names = .valid readings) :
    ∀ p ∈ readings, ∃ entry ∈ entries, entry.2 = .valid (some p.2) := by
  induction names generalizing readings with
  | nil =>
    cases h
    simp
  | cons field rest ih =>
    rw [fieldsOf, Checked.seq_eq_valid] at h
    obtain ⟨f, others, hf, ho, rfl⟩ := h
    rw [Checked.functor_eq_valid] at hf
    obtain ⟨given, hg, rfl⟩ := hf
    intro p hp
    rcases List.mem_append.1 hp with hp | hp
    · exact exists_of_fieldOf hg p (Option.mem_toList.1 hp)
    · exact ih ho p hp

theorem fits_of_nodeField {field : NodeField} {r : Reading} (hf : FieldsFit fields)
    (hc : ∀ {children}, childrenOf (listEntries fields) = .valid children → ∀ r ∈ children, r.Fits)
    (h : nodeField field fields (listEntries fields) = .valid r) : r.Fits := by
  cases field with
  | or =>
    obtain ⟨children, hr, rfl⟩ := Checked.map_eq_valid.1 h
    exact (fits_combined (hc hr)).1
  | and =>
    obtain ⟨children, hr, rfl⟩ := Checked.map_eq_valid.1 h
    exact (fits_combined (hc hr)).2
  | always =>
    cases h
    rfl
  | never =>
    cases h
    rfl
  | percent =>
    obtain ⟨slice, hs, rfl⟩ := Checked.map_eq_valid.1 h
    exact fits_of_percent hf hs
  | signal =>
    obtain ⟨test, -, rfl⟩ := Checked.map_eq_valid.1 h
    exact fits_signal test

-- A node reads the fields of its fields as lists of conditions, so one induction has to go through
-- all three ways to read a value.
private theorem fits_of_tree {v : Json.Value} (hv : v.integersFit = true) :
    (∀ r, node v = .valid r → r.Fits) ∧
    (∀ readings, nodes v = .valid readings → ∀ r ∈ readings, r.Fits) ∧
    ∀ field o, nodeEntry field v = .valid o → ∀ r ∈ o, r.Fits := by
  induction v using Json.Value.tree_induction with
  | array items ih =>
    refine ⟨?_, ?_, ?_⟩
    · intro r h
      cases h
    · intro readings h r hr
      rw [nodes, nodesFrom_eq] at h
      obtain ⟨v, hm, hn⟩ := Checked.exists_of_itemsFrom h r hr
      exact (ih v hm ((integersFit_array items).1 hv v hm)).1 r hn
    · intro field o h r hr
      cases field with
      | none =>
        cases h
        cases hr
      | some field => cases h
  | object fields ih =>
    have hf : FieldsFit fields := (integersFit_object fields).1 hv
    refine ⟨?_, ?_, ?_⟩
    · intro r h
      rw [node, nodeOf, Checked.map_eq_valid] at h
      obtain ⟨readings, hr, rfl⟩ := h
      refine fits_of_ofFields fun p hp => ?_
      obtain ⟨entry, he, hs⟩ := exists_of_fieldsOf hr p hp
      rw [nodeEntries_eq_map, List.mem_map] at he
      obtain ⟨q, hq, rfl⟩ := he
      exact (ih q hq (hf q hq)).2.2 _ _ hs p.2 rfl
    · intro readings h
      cases h
    · intro field o h r hr
      cases field with
      | none =>
        cases h
        cases hr
      | some field =>
        obtain ⟨s, hs, rfl⟩ := Checked.map_eq_valid.1 h
        cases hr
        refine fits_of_nodeField hf (fun {children} hc => ?_) hs
        rcases exists_of_childrenOf hc with rfl | ⟨p, hp, hn⟩
        · simp
        · exact (ih p hp (hf p hp)).2.1 children hn
  | null =>
    refine ⟨?_, ?_, ?_⟩
    · intro r h
      cases h
    · intro readings h
      cases h
    · intro field o h r hr
      cases field <;> cases h <;> cases hr
  | bool | integer | float | string =>
    refine ⟨?_, ?_, ?_⟩
    · intro r h
      cases h
    · intro readings h
      cases h
    · intro field o h r hr
      cases field with
      | none =>
        cases h
        cases hr
      | some field => cases h

theorem gives_node : Gives Reading.Fits node := fun _ r hv h => (fits_of_tree hv).1 r h

theorem gives_named :
    Gives (fun p : NamedCondition × List Entry => (Encode.node p.1.condition).integersFit = true)
      (Reader.model named) := by
  refine .model fun {fields p} hf h => ?_
  rw [named] at h
  simp only [Checked.seq_eq_valid, Checked.functor_eq_valid] at h
  obtain ⟨_, reading, ⟨name, -, rfl⟩, hr, rfl⟩ := h
  have hd : (Reading.ofFields []).Fits := rfl
  have hr := gives_node.withDefault hf hd hr
  exact hr

/-- A template that is read is settled. -/
theorem gives_template :
    Gives (fun p : Template × List Entry => p.1.Settled) (Reader.model template) := by
  refine .model fun {fields p} hf h => ?_
  rw [template] at h
  simp only [Checked.seq_eq_valid, Checked.functor_eq_valid] at h
  obtain ⟨_, etag, ⟨_, version, ⟨_, groups, ⟨_, conditions, ⟨parameters, hp, rfl⟩, hc, rfl⟩, hg,
    rfl⟩, hv, rfl⟩, -, rfl⟩ := h
  have hc := gives_named.listOf.withDefault hf (by simp) hc
  exact {
    conditions := by
      intro n hn
      obtain ⟨p, hp, rfl⟩ := List.mem_map.1 hn
      exact hc p hp
    parameters := gives_parameters hf hp
    groups := gives_group.mapOf.withDefault hf (by simp [OrderedMap.empty]) hg
    version := gives_details.optional hf hv }

end Decode

/-- What is loaded is read from the value of the text. -/
theorem exists_of_load {text : String} {t : Template} {notes : List Entry}
    (h : load text = (.ok t, notes)) :
    ∃ v, Json.read? maxNesting text = some v ∧ ofJson v = .valid (t, notes) := by
  rw [load] at h
  split at h
  · cases h
  · split at h
    · cases h
    · rename_i hr
      cases h
      rw [read] at hr
      split at hr
      · cases hr
      · rename_i v hv
        exact ⟨v, hv, hr⟩

/-- A template that has been loaded is settled. -/
theorem settled_of_load {text : String} {t : Template} {notes : List Entry}
    (h : load text = (.ok t, notes)) : t.Settled := by
  obtain ⟨v, hv, hr⟩ := exists_of_load h
  exact Decode.gives_template (Json.integersFit_of_read? hv) hr

/-- No integer of a settled template is too long to be read. -/
theorem Settled.integersFit {t : Template} (h : t.Settled) : t.toJson.integersFit = true := by
  have hg : ∀ g ∈ t.groups.entries, (Encode.group g.2).integersFit = true := by
    intro g hg
    rw [Encode.group, integersFit_object]
    simp only [List.forall_mem_append, List.forall_mem_singleton, fit_given]
    exact ⟨fun _ _ => rfl, integersFit_mapOf.2 fun p hp => (h.groups g hg p hp).integers⟩
  have hc : ∀ n ∈ t.conditions, (Encode.named n).integersFit = true := by
    intro n hn
    simpa [Encode.named, integersFit_object, integersFit_string] using h.conditions n hn
  rw [toJson, integersFit_object]
  simp only [List.forall_mem_append, List.forall_mem_cons, fit_given]
  refine ⟨⟨⟨?_, ?_, ?_, by simp⟩, ?_⟩, fun _ _ => rfl⟩
  · exact integersFit_mapOf.2 fun p hp => (h.parameters p hp).integers
  · rw [integersFit_array, List.forall_mem_map]
    exact hc
  · exact integersFit_mapOf.2 hg
  · intro details hd
    rw [integersFit_object]
    exact fun p hp => (h.version details hd p hp).integers

end Template

end TargetedConfig
