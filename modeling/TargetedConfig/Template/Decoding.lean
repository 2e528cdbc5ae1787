import TargetedConfig.Template.Basic
import TargetedConfig.Template.Field
import TargetedConfig.Targeting.Bucket

/-!
# Templates from JSON values

`Template.ofJson` reads a template and notes what is doubtful about its conditions. A condition node
is an object of which exactly one field should be set: it means what that field means, and any other
node is kept as malformed. All fields of an object are read; those that do not count are dropped.
-/

namespace TargetedConfig

/-- A condition and the notes about it. -/
structure Reading where
  condition : Condition
  notes : List Entry := []

namespace Reading

def maxSeedLength : Nat := 32

def percentNote (message : String) (details : Fields) : Entry :=
  Anomaly.entry ⟨.invalidPercentCondition, message, details⟩ .warning Template.logger

def boundNotes (field : String) (bound : Int) : List Entry :=
  if 0 ≤ bound ∧ bound ≤ Bucket.count then []
  else
    [percentNote "Percent condition bound out of range"
      [("field", .string field), ("bound", .integer bound)]]

def rangeNotes (range : Option BucketRange) : List Entry :=
  match range with
  | none => []
  | some r =>
    boundNotes "micro_percent_lower_bound" r.lower ++ boundNotes "micro_percent_upper_bound" r.upper

def seedNotes (seed : String) : List Entry :=
  if maxSeedLength < seed.length ∨ seed.toList.any (fun c => 0x80 ≤ c.toNat) then
    [percentNote "Percent condition seed must be at most 32 ASCII characters"
      [("seed", .string seed)]]
  else []

/-- A percent condition, which is kept as it is. -/
def percent (slice : PercentSlice) : Reading :=
  ⟨.percent slice,
    boundNotes "micro_percent" slice.bound ++ rangeNotes slice.range ++ seedNotes slice.seed⟩

/-- A node that is not exactly one condition. -/
def malformed (reason : String) : Reading :=
  ⟨.malformed reason,
    [⟨.warning, Template.logger, "Invalid condition node in template",
      [("reason", .string reason)]⟩]⟩

/-- Children under a condition that combines them. -/
def combined (combine : List Condition → Condition) (children : List Reading) : Reading :=
  ⟨combine (children.map (·.condition)), children.flatMap (·.notes)⟩

/-- What a node means whose given fields have these names and meanings. -/
def ofFields : List (String × Reading) → Reading
  | [] => malformed "no condition set"
  | [(_, reading)] => reading
  | fields =>
    malformed ("several conditions set: [" ++
      ", ".intercalate (fields.map fun (name, _) => Text.quoted name) ++ "]")

end Reading

namespace Template.Decode

open Reader

def range (fields : List (String × Json.Value)) : Checked BucketRange :=
  (fun lower upper => ⟨lower.getD 0, upper.getD 0⟩) <$>
    Field.optional ⟨"microPercentLowerBound", "micro_percent_lower_bound"⟩ integer fields <*>
    Field.optional ⟨"microPercentUpperBound", "micro_percent_upper_bound"⟩ integer fields

def percent (fields : List (String × Json.Value)) : Checked PercentSlice :=
  (fun operator bound range seed => ⟨.ofName operator, seed.getD "", bound.getD 0, range⟩) <$>
    Field.optional ⟨"percentOperator", "percent_operator"⟩ string fields <*>
    Field.optional ⟨"microPercent", "micro_percent"⟩ integer fields <*>
    Field.optional ⟨"microPercentRange", "micro_percent_range"⟩ (model range) fields <*>
    Field.optional (.plain "seed") string fields

def signal (fields : List (String × Json.Value)) : Checked SignalTest :=
  (fun operator key targets => ⟨key.getD "", .ofName operator, targets⟩) <$>
    Field.optional ⟨"customSignalOperator", "custom_signal_operator"⟩ string fields <*>
    Field.optional ⟨"customSignalKey", "custom_signal_key"⟩ string fields <*>
    Field.withDefault ⟨"targetCustomSignalValues", "target_custom_signal_values"⟩ []
      (listOf string) fields

inductive NodeField where
  | or
  | and
  | always
  | never
  | percent
  | signal
  deriving DecidableEq

namespace NodeField

def names : NodeField → Field
  | .or => ⟨"orCondition", "or_condition"⟩
  | .and => ⟨"andCondition", "and_condition"⟩
  | .always => .plain "true"
  | .never => .plain "false"
  | .percent => .plain "percent"
  | .signal => ⟨"customSignal", "custom_signal"⟩

def all : List NodeField := [.or, .and, .always, .never, .percent, .signal]

def ofKey? (key : String) : Option NodeField :=
  all.find? fun f => f.names.name == key || f.names.other == key

end NodeField

/-- The field of an object that lists conditions. -/
def children : Field := .plain "conditions"

def childrenOf (entries : List (String × Checked (List Reading))) : Checked (List Reading) :=
  match children.find? entries with
  | none => .valid []
  | some (key, readings) => readings.under (.key key)

/-- What a field of a node means that is an object. Its own fields are also given read as those of
a list object. -/
def nodeField (field : NodeField) (fields : List (String × Json.Value))
    (entries : List (String × Checked (List Reading))) : Checked Reading :=
  match field with
  | .or => (childrenOf entries).map (Reading.combined .or)
  | .and => (childrenOf entries).map (Reading.combined .and)
  | .always => .valid ⟨.always, []⟩
  | .never => .valid ⟨.never, []⟩
  | .percent => (percent fields).map Reading.percent
  | .signal => (signal fields).map fun test => ⟨.signal test, []⟩

def notObject : NodeField → Violation.Kind
  | .always => .notMap
  | .never => .notMap
  | _ => .notModel

/-- The meaning of a field of a node whose entries have been read; none if it is missing or null. -/
def fieldOf (entries : List (String × Checked (Option Reading))) (field : NodeField) :
    Checked (Option (String × Reading)) :=
  match field.names.find? entries with
  | none => .valid none
  | some (key, reading) =>
    (reading.map fun r => r.map fun r => (field.names.other, r)).under (.key key)

/-- The given ones of some fields. -/
def fieldsOf (entries : List (String × Checked (Option Reading))) :
    List NodeField → Checked (List (String × Reading))
  | [] => .valid []
  | field :: rest =>
    (fun given readings => given.toList ++ readings) <$> fieldOf entries field <*>
      fieldsOf entries rest

def nodeOf (entries : List (String × Checked (Option Reading))) : Checked Reading :=
  (fieldsOf entries NodeField.all).map Reading.ofFields

mutual

def node : Json.Value → Checked Reading
  | .object fields => nodeOf (nodeEntries fields)
  | _ => .fail .notModel

/-- The entries of a node, each read as the field its key belongs to. -/
def nodeEntries : List (String × Json.Value) → List (String × Checked (Option Reading))
  | [] => []
  | (key, value) :: rest => (key, nodeEntry (NodeField.ofKey? key) value) :: nodeEntries rest

def nodeEntry : Option NodeField → Json.Value → Checked (Option Reading)
  | none, _ => .valid none
  | some _, .null => .valid none
  | some field, .object fields => (nodeField field fields (listEntries fields)).map some
  | some field, _ => .fail (notObject field)

def listEntries : List (String × Json.Value) → List (String × Checked (List Reading))
  | [] => []
  | (key, value) :: rest => (key, nodes value) :: listEntries rest

def nodes : Json.Value → Checked (List Reading)
  | .array items => nodesFrom 0 items
  | _ => .fail .notList

def nodesFrom (n : Nat) : List Json.Value → Checked (List Reading)
  | [] => .valid []
  | item :: rest => List.cons <$> (node item).under (.index n) <*> nodesFrom (n + 1) rest

end

/-- A named condition; without a node it is malformed. -/
def named (fields : List (String × Json.Value)) : Checked (NamedCondition × List Entry) :=
  (fun name reading => (⟨name.1, reading.condition, name.2⟩, reading.notes)) <$>
    Field.required (.plain "name") nonEmptyString fields <*>
    Field.withDefault (.plain "condition") (Reading.ofFields []) node fields

def rollout (fields : List (String × Json.Value)) : Checked ParameterValue :=
  (fun id text percent => .rollout (id.getD "") text (percent.getD 0)) <$>
    Field.optional ⟨"rolloutId", "rollout_id"⟩ string fields <*>
    Field.optional (.plain "value") string fields <*>
    Field.optional (.plain "percent") integer fields

def personalization (fields : List (String × Json.Value)) : Checked ParameterValue :=
  (fun id => .personalization (id.getD "")) <$>
    Field.optional ⟨"personalizationId", "personalization_id"⟩ string fields

/-- The value of a parameter. Of several fields the deferral to the caller's default counts first,
then a rollout, then a personalization, then the text. -/
def value (fields : List (String × Json.Value)) : Checked ParameterValue :=
  (fun text inAppDefault rollout personalization =>
    if inAppDefault.getD false then .inAppDefault
    else (rollout.or personalization).getD (.explicit (text.getD ""))) <$>
    Field.optional (.plain "value") string fields <*>
    Field.optional ⟨"useInAppDefault", "use_in_app_default"⟩ boolean fields <*>
    Field.optional ⟨"rolloutValue", "rollout_value"⟩ (model rollout) fields <*>
    Field.optional ⟨"personalizationValue", "personalization_value"⟩ (model personalization) fields

/-- The type of a parameter; a missing or empty one is the type of texts. -/
def valueType (name : Option String) : String :=
  match name with
  | none => "STRING"
  | some name => if name = "" then "STRING" else name

def parameter (fields : List (String × Json.Value)) : Checked Parameter :=
  (fun default conditional description type =>
    ⟨default, conditional, description, valueType type⟩) <$>
    Field.optional ⟨"defaultValue", "default_value"⟩ (model value) fields <*>
    Field.withDefault ⟨"conditionalValues", "conditional_values"⟩ .empty (mapOf (model value))
      fields <*>
    Field.optional (.plain "description") string fields <*>
    Field.optional ⟨"valueType", "value_type"⟩ string fields

def parameters (fields : List (String × Json.Value)) : Checked (OrderedMap Parameter) :=
  Field.withDefault (.plain "parameters") .empty (mapOf (model parameter)) fields

def group (fields : List (String × Json.Value)) : Checked ParameterGroup :=
  (fun description parameters => ⟨description, parameters⟩) <$>
    Field.optional (.plain "description") string fields <*> parameters fields

/-- Free details; repeated keys are settled at every depth. -/
def details : Json.Value → Checked (OrderedMap Json.Value)
  | .object fields => .valid (.ofList (fields.map fun (k, v) => (k, v.distinctKeys)))
  | _ => .fail .notMap

def template (fields : List (String × Json.Value)) : Checked (Template × List Entry) :=
  (fun parameters conditions groups version etag =>
    (⟨conditions.map (·.1), parameters, groups, version, etag⟩, conditions.flatMap (·.2))) <$>
    parameters fields <*>
    Field.withDefault (.plain "conditions") [] (listOf (model named)) fields <*>
    Field.withDefault ⟨"parameterGroups", "parameter_groups"⟩ .empty (mapOf (model group))
      fields <*>
    Field.optional (.plain "version") details fields <*>
    Field.optional (.plain "etag") string fields

end Template.Decode

/-- The template that a value gives, and the notes about its conditions. -/
def Template.ofJson (v : Json.Value) : Checked (Template × List Entry) :=
  Reader.model Template.Decode.template v

end TargetedConfig
