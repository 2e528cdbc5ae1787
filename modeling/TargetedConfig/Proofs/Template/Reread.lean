import TargetedConfig.Proofs.OrderedMap
import TargetedConfig.Proofs.Targeting.Evaluation
import TargetedConfig.Template.Decoding
import TargetedConfig.Template.Encoding

/-!
# Templates read back from their values

Encoder and decoder meet part by part: what is written for an operator, a value, a parameter or a
condition reads as the same again. There are two exceptions. A node that is no condition reads as a
malformed one, whatever it was, and an empty value type as the type of texts.
-/

namespace TargetedConfig

/-! ### Parts that read as they were -/

theorem PercentOperator.ofName_name (op : PercentOperator) : ofName (some op.name) = op := by
  cases op <;> rfl

theorem SignalOperator.ofName_name (op : SignalOperator) : ofName (some op.name) = op := by
  rcases op with test | r | r | _
  · cases test <;> rfl
  · cases r <;> rfl
  · cases r <;> rfl
  · rfl

namespace Checked

variable {α β γ : Type}

theorem under_of_valid {x : Checked α} {a : α} (h : x = .valid a) (place : Place) :
    x.under place = .valid a := by
  rw [h]
  rfl

theorem itemsFrom_map {read : β → Checked γ} {write : α → β} (reread : α → γ)
    (h : ∀ a, read (write a) = .valid (reread a)) (n : Nat) (items : List α) :
    itemsFrom read n (items.map write) = .valid (items.map reread) := by
  induction items generalizing n with
  | nil => rfl
  | cons a rest ih =>
    rw [List.map_cons, itemsFrom, h, ih]
    rfl

theorem entries_map {read : β → Checked γ} {write : α → β} (reread : α → γ)
    (h : ∀ a, read (write a) = .valid (reread a)) (fields : List (String × α)) :
    entries read (fields.map fun p => (p.1, write p.2)) =
      .valid (fields.map fun p => (p.1, reread p.2)) := by
  induction fields with
  | nil => rfl
  | cons p rest ih =>
    rw [List.map_cons, entries, h, ih]
    rfl

end Checked

namespace Template

open Decode

theorem mapOf_encode {α : Type} {read : Json.Value → Checked α} {write : α → Json.Value}
    (reread : α → α) (h : ∀ a, read (write a) = .valid (reread a)) (m : OrderedMap α) :
    Reader.mapOf read (Encode.mapOf write m) = .valid (m.map reread) := by
  have he := Checked.entries_map reread h m.entries
  rw [Encode.mapOf, Reader.mapOf]
  dsimp only
  rw [he]
  exact congrArg Checked.valid (OrderedMap.ofList_entries (m.map reread))

theorem percent_encode (slice : PercentSlice) :
    Reader.model Decode.percent (Encode.percent slice) = .valid slice := by
  obtain ⟨operator, seed, bound, range⟩ := slice
  have h : Reader.model Decode.percent (Encode.percent ⟨operator, seed, bound, range⟩) =
      .valid ⟨.ofName (some operator.name), seed, bound, range⟩ := by
    cases range <;> rfl
  rw [h, PercentOperator.ofName_name]

theorem strings_encode (texts : List String) :
    Reader.listOf Reader.string (.array (texts.map .string)) = .valid texts := by
  have hs : ∀ s, Reader.string (.string s) = .valid (id s) := fun _ => rfl
  have h := Checked.itemsFrom_map id hs 0 texts
  rwa [List.map_id] at h

theorem signal_encode (test : SignalTest) :
    Reader.model Decode.signal (Encode.signal test) = .valid test := by
  obtain ⟨key, operator, targets⟩ := test
  have ht := strings_encode targets
  have h : Reader.model Decode.signal (Encode.signal ⟨key, operator, targets⟩) =
      (Checked.valid fun targets =>
        (⟨key, .ofName (some operator.name), targets⟩ : SignalTest)).apply
        ((Reader.listOf Reader.string (.array (targets.map .string))).under
          (.key "targetCustomSignalValues")) := rfl
  rw [h, ht, SignalOperator.ofName_name]
  rfl

theorem value_encode (v : ParameterValue) :
    Reader.model Decode.value (Encode.value v) = .valid v := by
  rcases v with text | _ | ⟨id, _ | text, percent⟩ | id <;> rfl

end Template

/-! ### What reading changes -/

/-- A parameter with an empty value type has the type of texts when it is read. -/
def Parameter.reloaded (p : Parameter) : Parameter :=
  { p with valueType := Template.Decode.valueType (some p.valueType) }

def ParameterGroup.reloaded (g : ParameterGroup) : ParameterGroup :=
  { g with parameters := g.parameters.map Parameter.reloaded }

namespace Condition

mutual

/-- How the value of a condition is read. -/
def reread : Condition → Reading
  | .always => ⟨.always, []⟩
  | .never => ⟨.never, []⟩
  | .or children => .combined .or (rereadAll children)
  | .and children => .combined .and (rereadAll children)
  | .percent slice => .percent slice
  | .signal test => ⟨.signal test, []⟩
  | .malformed _ => .ofFields []
  | .foreign _ => .ofFields []

def rereadAll : List Condition → List Reading
  | [] => []
  | c :: rest => reread c :: rereadAll rest

end

def reloaded (c : Condition) : Condition := c.reread.condition

private theorem map_condition_rereadAll (children : List Condition) :
    (rereadAll children).map (·.condition) = children.map reloaded := by
  induction children with
  | nil => rfl
  | cons c rest ih =>
    rw [rereadAll, List.map_cons, List.map_cons, ih]
    rfl

theorem reloaded_or (children : List Condition) :
    (or children).reloaded = .or (children.map reloaded) :=
  congrArg or (map_condition_rereadAll children)

theorem reloaded_and (children : List Condition) :
    (and children).reloaded = .and (children.map reloaded) :=
  congrArg and (map_condition_rereadAll children)

end Condition

namespace Template

open Decode

theorem values_encode (m : OrderedMap ParameterValue) :
    Reader.mapOf (Reader.model Decode.value) (Encode.mapOf Encode.value m) = .valid m := by
  have h := mapOf_encode id value_encode m
  rwa [OrderedMap.map_id] at h

theorem parameter_encode (p : Parameter) :
    Reader.model Decode.parameter (Encode.parameter p) = .valid p.reloaded := by
  obtain ⟨default, conditional, description, valueType⟩ := p
  obtain ⟨fields, hf⟩ : ∃ fields, Encode.parameter ⟨default, conditional, description, valueType⟩ =
      .object fields := ⟨_, rfl⟩
  have hd : Field.optional ⟨"defaultValue", "default_value"⟩ (Reader.model Decode.value) fields =
      .valid default := by
    cases hf
    cases default with
    | none => cases description <;> rfl
    | some v =>
      cases description <;> rcases v with text | _ | ⟨id, _ | text, percent⟩ | id <;> rfl
  have hc : Field.withDefault ⟨"conditionalValues", "conditional_values"⟩ .empty
      (Reader.mapOf (Reader.model Decode.value)) fields = .valid conditional := by
    cases hf
    have hm := Checked.under_of_valid (values_encode conditional) (.key "conditionalValues")
    cases default <;> cases description <;> exact hm
  have hs : Field.optional (.plain "description") Reader.string fields = .valid description := by
    cases hf
    cases default <;> cases description <;> rfl
  have ht : Field.optional ⟨"valueType", "value_type"⟩ Reader.string fields =
      .valid (some valueType) := by
    cases hf
    cases default <;> cases description <;> rfl
  rw [hf]
  change Decode.parameter fields = _
  rw [Decode.parameter, hd, hc, hs, ht]
  rfl

theorem parameters_encode (m : OrderedMap Parameter) :
    Reader.mapOf (Reader.model Decode.parameter) (Encode.mapOf Encode.parameter m) =
      .valid (m.map Parameter.reloaded) :=
  mapOf_encode _ parameter_encode m

theorem group_encode (g : ParameterGroup) :
    Reader.model Decode.group (Encode.group g) = .valid g.reloaded := by
  obtain ⟨description, parameters⟩ := g
  obtain ⟨fields, hf⟩ : ∃ fields, Encode.group ⟨description, parameters⟩ = .object fields :=
    ⟨_, rfl⟩
  have hs : Field.optional (.plain "description") Reader.string fields = .valid description := by
    cases hf
    cases description <;> rfl
  have hp : Decode.parameters fields = .valid (parameters.map Parameter.reloaded) := by
    cases hf
    have hm := Checked.under_of_valid (parameters_encode parameters) (.key "parameters")
    cases description <;> exact hm
  rw [hf]
  change Decode.group fields = _
  rw [Decode.group, hs, hp]
  rfl

/-- A node with a single field means what the field means. -/
theorem node_single (field : NodeField) {fields : List (String × Json.Value)} {reading : Reading}
    (h : nodeField field fields (listEntries fields) = .valid reading) :
    node (.object [(field.names.name, .object fields)]) = .valid reading := by
  have hk : NodeField.ofKey? field.names.name = some field := by
    cases field <;> rfl
  rw [node, nodeEntries, hk, nodeEntry, h]
  cases field <;> rfl

private theorem nodesFrom_encode {children : List Condition}
    (h : ∀ c ∈ children, node (Encode.node c) = .valid c.reread) (n : Nat) :
    nodesFrom n (Encode.nodes children) = .valid (Condition.rereadAll children) := by
  induction children generalizing n with
  | nil => rfl
  | cons c rest ih =>
    rw [Encode.nodes, nodesFrom, h c (by simp), ih (fun d hd => h d (by simp [hd]))]
    rfl

private theorem childrenOf_encode {items : List Json.Value} {readings : List Reading}
    (h : nodesFrom 0 items = .valid readings) :
    childrenOf (listEntries [("conditions", .array items)]) = .valid readings := by
  rw [listEntries, nodes, h]
  rfl

/-- The value of a condition is read as the condition, except for nodes that are none. -/
theorem node_encode (c : Condition) : node (Encode.node c) = .valid c.reread := by
  induction c using Condition.tree_induction with
  | always => rfl
  | never => rfl
  | or children ih =>
    have hc := childrenOf_encode (nodesFrom_encode ih 0)
    exact node_single .or (congrArg (·.map (Reading.combined .or)) hc)
  | and children ih =>
    have hc := childrenOf_encode (nodesFrom_encode ih 0)
    exact node_single .and (congrArg (·.map (Reading.combined .and)) hc)
  | percent slice =>
    exact node_single .percent (congrArg (·.map Reading.percent) (percent_encode slice))
  | signal test =>
    have hs := congrArg (·.map fun test => (⟨.signal test, []⟩ : Reading)) (signal_encode test)
    exact node_single .signal hs
  | malformed reason => rfl
  | foreign name => rfl

end Template

def NamedCondition.reloaded (n : NamedCondition) : NamedCondition :=
  { n with condition := n.condition.reloaded }

namespace Template

open Decode

theorem named_encode (n : NamedCondition) :
    Reader.model Decode.named (Encode.named n) =
      .valid (n.reloaded, n.condition.reread.notes) := by
  obtain ⟨name, condition, hname⟩ := n
  obtain ⟨fields, hf⟩ : ∃ fields, Encode.named ⟨name, condition, hname⟩ = .object fields :=
    ⟨_, rfl⟩
  have hn : Field.required (.plain "name") Reader.nonEmptyString fields =
      .valid ⟨name, hname⟩ := by
    cases hf
    have hs : Reader.nonEmptyString (.string name) = .valid ⟨name, hname⟩ := dif_neg hname
    exact Checked.under_of_valid hs (.key "name")
  have hc : Field.withDefault (.plain "condition") (Reading.ofFields []) node fields =
      .valid condition.reread := by
    cases hf
    exact Checked.under_of_valid (node_encode condition) (.key "condition")
  rw [hf]
  change Decode.named fields = _
  rw [Decode.named, hn, hc]
  rfl

def reloadNotes (t : Template) : List Entry := t.conditions.flatMap (·.condition.reread.notes)

/-- A template as its value is read. -/
def reloaded (t : Template) : Template where
  conditions := t.conditions.map NamedCondition.reloaded
  parameters := t.parameters.map Parameter.reloaded
  groups := t.groups.map ParameterGroup.reloaded
  version := t.version.map (·.map Json.Value.distinctKeys)
  etag := t.etag

private theorem details_encode (details : OrderedMap Json.Value) :
    Decode.details (.object details.entries) = .valid (details.map Json.Value.distinctKeys) :=
  congrArg Checked.valid (OrderedMap.ofList_entries (details.map Json.Value.distinctKeys))

/-- The value of a template is read as the template, except for nodes that are no condition, empty
value types and keys that are repeated within a detail about the version. -/
theorem ofJson_toJson (t : Template) : ofJson t.toJson = .valid (t.reloaded, t.reloadNotes) := by
  obtain ⟨conditions, parameters, groups, version, etag⟩ := t
  obtain ⟨fields, hf⟩ : ∃ fields, toJson ⟨conditions, parameters, groups, version, etag⟩ =
      .object fields := ⟨_, rfl⟩
  have hp : Decode.parameters fields = .valid (parameters.map Parameter.reloaded) := by
    cases hf
    have hm := Checked.under_of_valid (parameters_encode parameters) (.key "parameters")
    cases version <;> cases etag <;> exact hm
  have hc : Field.withDefault (.plain "conditions") []
      (Reader.listOf (Reader.model Decode.named)) fields =
        .valid (conditions.map fun n => (n.reloaded, n.condition.reread.notes)) := by
    cases hf
    have hm := Checked.under_of_valid (Checked.itemsFrom_map _ named_encode 0 conditions)
      (.key "conditions")
    cases version <;> cases etag <;> exact hm
  have hg : Field.withDefault ⟨"parameterGroups", "parameter_groups"⟩ .empty
      (Reader.mapOf (Reader.model Decode.group)) fields =
        .valid (groups.map ParameterGroup.reloaded) := by
    cases hf
    have hm := Checked.under_of_valid (mapOf_encode _ group_encode groups) (.key "parameterGroups")
    cases version <;> cases etag <;> exact hm
  have hv : Field.optional (.plain "version") Decode.details fields =
      .valid (version.map (·.map Json.Value.distinctKeys)) := by
    cases hf
    cases version with
    | none => cases etag <;> rfl
    | some details =>
      have hm := Checked.under_of_valid (congrArg (·.map some) (details_encode details))
        (.key "version")
      cases etag <;> exact hm
  have he : Field.optional (.plain "etag") Reader.string fields = .valid etag := by
    cases hf
    cases version <;> cases etag <;> rfl
  rw [hf]
  change Decode.template fields = _
  rw [Decode.template, hp, hc, hg, hv, he]
  have hn : (conditions.map fun n => (n.reloaded, n.condition.reread.notes)).map Prod.fst =
      conditions.map NamedCondition.reloaded := by
    rw [List.map_map]
    rfl
  have hr : (conditions.map fun n => (n.reloaded, n.condition.reread.notes)).flatMap Prod.snd =
      conditions.flatMap (·.condition.reread.notes) := List.flatMap_map _ _ _
  change Checked.valid ((⟨_, _, _, _, _⟩ : Template), _) = _
  rw [hn, hr]
  rfl

end Template

end TargetedConfig
