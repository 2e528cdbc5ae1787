import Mathlib.Logic.Relation
import TargetedConfig.Proofs.Json.Keys
import TargetedConfig.Template.Decoding

/-!
# The form of template texts

The objects of a template text are of two kinds. A model has fields of its own, under one of two
names each; every other key of it is foreign. The keys of a map are free, and so are the contents of
an object of which only the presence counts. The forms here are those of the decoder, and `Inside`
leads along them to every model in a value, wherever it stands.
-/

namespace TargetedConfig

/-- A key is one of the names of a field. -/
def Field.Named (f : Field) (key : String) : Prop := key = f.name ∨ key = f.other

instance (f : Field) (key : String) : Decidable (f.Named key) :=
  inferInstanceAs (Decidable (key = f.name ∨ key = f.other))

namespace Template

/-- The objects with fields of their own. -/
inductive Model where
  | template
  | condition
  | node
  | list
  | percent
  | range
  | signal
  | parameter
  | value
  | rollout
  | personalization
  | group

inductive Shape where
  /-- A value with no model in it. -/
  | plain
  /-- An object of which only the presence counts. -/
  | mark
  | model (m : Model)
  | listOf (m : Model)
  | mapOf (m : Model)

def Decode.NodeField.shape : NodeField → Shape
  | .or => .model .list
  | .and => .model .list
  | .always => .mark
  | .never => .mark
  | .percent => .model .percent
  | .signal => .model .signal

namespace Model

def fields : Model → List (Field × Shape)
  | .template =>
    [(.plain "parameters", .mapOf .parameter),
      (.plain "conditions", .listOf .condition),
      (⟨"parameterGroups", "parameter_groups"⟩, .mapOf .group),
      (.plain "version", .plain),
      (.plain "etag", .plain)]
  | .condition => [(.plain "name", .plain), (.plain "condition", .model .node)]
  | .node => Decode.NodeField.all.map fun f => (f.names, f.shape)
  | .list => [(Decode.children, .listOf .node)]
  | .percent =>
    [(⟨"percentOperator", "percent_operator"⟩, .plain),
      (⟨"microPercent", "micro_percent"⟩, .plain),
      (⟨"microPercentRange", "micro_percent_range"⟩, .model .range),
      (.plain "seed", .plain)]
  | .range =>
    [(⟨"microPercentLowerBound", "micro_percent_lower_bound"⟩, .plain),
      (⟨"microPercentUpperBound", "micro_percent_upper_bound"⟩, .plain)]
  | .signal =>
    [(⟨"customSignalOperator", "custom_signal_operator"⟩, .plain),
      (⟨"customSignalKey", "custom_signal_key"⟩, .plain),
      (⟨"targetCustomSignalValues", "target_custom_signal_values"⟩, .plain)]
  | .parameter =>
    [(⟨"defaultValue", "default_value"⟩, .model .value),
      (⟨"conditionalValues", "conditional_values"⟩, .mapOf .value),
      (.plain "description", .plain),
      (⟨"valueType", "value_type"⟩, .plain)]
  | .value =>
    [(.plain "value", .plain),
      (⟨"useInAppDefault", "use_in_app_default"⟩, .plain),
      (⟨"rolloutValue", "rollout_value"⟩, .model .rollout),
      (⟨"personalizationValue", "personalization_value"⟩, .model .personalization)]
  | .rollout =>
    [(⟨"rolloutId", "rollout_id"⟩, .plain), (.plain "value", .plain), (.plain "percent", .plain)]
  | .personalization => [(⟨"personalizationId", "personalization_id"⟩, .plain)]
  | .group => [(.plain "description", .plain), (.plain "parameters", .mapOf .parameter)]

/-- A key under which a model has no field. -/
def Foreign (m : Model) (key : String) : Prop := ∀ p ∈ m.fields, ¬p.1.Named key

instance (m : Model) (key : String) : Decidable (m.Foreign key) :=
  inferInstanceAs (Decidable (∀ p ∈ m.fields, ¬p.1.Named key))

private theorem fields_apart (m : Model) :
    m.fields.Pairwise fun p q => ¬p.1.Named q.1.name ∧ ¬p.1.Named q.1.other := by
  cases m <;> decide

/-- Two fields of a model share a name only if they are the same. -/
theorem eq_of_named {m : Model} {p q : Field × Shape} {key : String} (hp : p ∈ m.fields)
    (hq : q ∈ m.fields) (hpk : p.1.Named key) (hqk : q.1.Named key) : p = q := by
  have ha : ∀ {p q : Field × Shape}, ¬p.1.Named q.1.name ∧ ¬p.1.Named q.1.other →
      p.1.Named key → ¬q.1.Named key := by
    rintro p q ⟨hn, ho⟩ hpk (rfl | rfl)
    · exact hn hpk
    · exact ho hpk
  have he := List.Pairwise.forall_of_forall_of_flip
    (R := fun p q : Field × Shape => p.1.Named key → q.1.Named key → p = q)
    (fun _ _ _ _ => rfl)
    (m.fields_apart.imp fun h hp hq => absurd hq (ha h hp))
    (m.fields_apart.imp fun h hq hp => absurd hq (ha h hp))
  exact he hp hq hpk hqk

end Model

/-! ### Edits -/

/-- A relation between the values of a shape before and after a change. -/
abbrev Change := Shape → Json.Value → Json.Value → Prop

/-- A field of no meaning is added to a model, or the fields of a model change places. -/
inductive Rearranged : Shape → Json.Value → Json.Value → Prop where
  | insert {m : Model} (before after : List (String × Json.Value)) {key : String}
      (value : Json.Value) (foreign : m.Foreign key) :
      Rearranged (.model m) (.object (before ++ after)) (.object (before ++ (key, value) :: after))
  | reorder {m : Model} {fields others : List (String × Json.Value)} (perm : fields.Perm others) :
      Rearranged (.model m) (.object fields) (.object others)

/-- A model is rearranged, a field of it that stands under one of its names alone moves to the
other one, or an object of which only the presence counts is given other contents. -/
inductive Edited : Shape → Json.Value → Json.Value → Prop where
  | rearrange {s : Shape} {v w : Json.Value} (rearranged : Rearranged s v w) : Edited s v w
  | rename {m : Model} {p : Field × Shape} (before after : List (String × Json.Value))
      {key other : String} (value : Json.Value) (known : p ∈ m.fields) (named : p.1.Named key)
      (renamed : p.1.Named other) (alone : other ∉ (before ++ after).map Prod.fst) :
      Edited (.model m) (.object (before ++ (key, value) :: after))
        (.object (before ++ (other, value) :: after))
  | refill (fields others : List (String × Json.Value)) :
      Edited .mark (.object fields) (.object others)

/-- Two values of one shape differ in one place, and there by a change. -/
inductive Inside (change : Change) : Shape → Json.Value → Json.Value → Prop where
  | here {s : Shape} {v w : Json.Value} (changed : change s v w) : Inside change s v w
  | field {m : Model} {p : Field × Shape} (before after : List (String × Json.Value))
      {key : String} {v w : Json.Value} (known : p ∈ m.fields) (named : p.1.Named key)
      (inside : Inside change p.2 v w) :
      Inside change (.model m) (.object (before ++ (key, v) :: after))
        (.object (before ++ (key, w) :: after))
  | item {m : Model} (before after : List Json.Value) {v w : Json.Value}
      (inside : Inside change (.model m) v w) :
      Inside change (.listOf m) (.array (before ++ v :: after)) (.array (before ++ w :: after))
  | entry {m : Model} (before after : List (String × Json.Value)) {key : String}
      {v w : Json.Value} (inside : Inside change (.model m) v w) :
      Inside change (.mapOf m) (.object (before ++ (key, v) :: after))
        (.object (before ++ (key, w) :: after))

/-- The second value is the first one after any number of changes of a template, each of which
leaves it without repeated keys. -/
def Changed (change : Change) : Json.Value → Json.Value → Prop :=
  Relation.ReflTransGen fun v w =>
    w.keysDistinct = true ∧ Inside change (.model .template) v w

end Template

end TargetedConfig
