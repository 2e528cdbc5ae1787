import TargetedConfig.Json.Text
import TargetedConfig.Template.Basic

/-!
# Templates as JSON values

`Template.toJson` writes the fields of a template in a fixed order and leaves out those that have no
value. A node that is no condition becomes an empty object, which reads as a node that is none.
-/

namespace TargetedConfig

namespace Template.Encode

/-- A field, unless it has no value. -/
def given {α : Type} (name : String) (write : α → Json.Value) :
    Option α → List (String × Json.Value)
  | none => []
  | some a => [(name, write a)]

def mapOf {α : Type} (write : α → Json.Value) (m : OrderedMap α) : Json.Value :=
  .object (m.entries.map fun (key, a) => (key, write a))

def range (r : BucketRange) : Json.Value :=
  .object [("microPercentLowerBound", .integer r.lower),
    ("microPercentUpperBound", .integer r.upper)]

def percent (slice : PercentSlice) : Json.Value :=
  .object ([("percentOperator", .string slice.operator.name),
      ("microPercent", .integer slice.bound)] ++
    given "microPercentRange" range slice.range ++ [("seed", .string slice.seed)])

def signal (test : SignalTest) : Json.Value :=
  .object [("customSignalOperator", .string test.operator.name),
    ("customSignalKey", .string test.key),
    ("targetCustomSignalValues", .array (test.targets.map .string))]

def list (name : String) (children : List Json.Value) : Json.Value :=
  .object [(name, .object [("conditions", .array children)])]

mutual

def node : Condition → Json.Value
  | .always => .object [("true", .object [])]
  | .never => .object [("false", .object [])]
  | .or children => list "orCondition" (nodes children)
  | .and children => list "andCondition" (nodes children)
  | .percent slice => .object [("percent", percent slice)]
  | .signal test => .object [("customSignal", signal test)]
  | .malformed _ => .object []
  | .foreign _ => .object []

def nodes : List Condition → List Json.Value
  | [] => []
  | c :: rest => node c :: nodes rest

end

def named (c : NamedCondition) : Json.Value :=
  .object [("name", .string c.name), ("condition", node c.condition)]

def value : ParameterValue → Json.Value
  | .explicit text => .object [("value", .string text)]
  | .inAppDefault => .object [("useInAppDefault", .bool true)]
  | .rollout id text percent =>
    .object [("rolloutValue", .object ([("rolloutId", .string id)] ++ given "value" .string text ++
      [("percent", .integer percent)]))]
  | .personalization id =>
    .object [("personalizationValue", .object [("personalizationId", .string id)])]

def parameter (p : Parameter) : Json.Value :=
  .object (given "defaultValue" value p.default ++
    [("conditionalValues", mapOf value p.conditional)] ++
    given "description" .string p.description ++ [("valueType", .string p.valueType)])

def group (g : ParameterGroup) : Json.Value :=
  .object (given "description" .string g.description ++
    [("parameters", mapOf parameter g.parameters)])

end Template.Encode

namespace Template

open Encode in
def toJson (t : Template) : Json.Value :=
  .object ([("parameters", mapOf parameter t.parameters),
      ("conditions", .array (t.conditions.map named)),
      ("parameterGroups", mapOf group t.groups)] ++
    given "version" (fun (details : OrderedMap Json.Value) => .object details.entries) t.version ++
    given "etag" .string t.etag)

def render (t : Template) : String := t.toJson.render

/-- The greatest height of a condition in a text. -/
def maxConditionHeight : Nat := 127

/-- The greatest height of a detail about the version in a text. -/
def maxDetailHeight : Nat := 254

/-- Whether a template nests as little as a text can. -/
def fitsText (t : Template) : Bool :=
  t.conditions.all (·.condition.height ≤ maxConditionHeight) &&
    t.version.all fun details => details.entries.all (·.2.height ≤ maxDetailHeight)

/-- The text of a template that does not nest too deep to have one. -/
def render? (t : Template) : Option String := if t.fitsText then some t.render else none

end Template

end TargetedConfig
