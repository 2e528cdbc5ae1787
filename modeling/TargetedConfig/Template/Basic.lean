import TargetedConfig.Context
import TargetedConfig.Json.Value
import TargetedConfig.Parameter.Resolution
import TargetedConfig.Targeting.Condition

/-!
# Templates

A template lists named conditions, highest priority first, and declares parameters, at top level
and in groups. `Template.declarations` merges the declarations: a parameter at top level counts
before one in a group, and one in an earlier group before one in a later group. Every declaration
that does not bring a new key is noted.
-/

namespace TargetedConfig

structure Template where
  conditions : List NamedCondition := []
  parameters : OrderedMap Parameter := .empty
  groups : OrderedMap ParameterGroup := .empty
  /-- Free details about the version. -/
  version : Option (OrderedMap Json.Value) := none
  etag : Option String := none

namespace Template

def logger : String := "remote_config.template"

/-- The names of the conditions, highest priority first. -/
def conditionNames (t : Template) : List String := t.conditions.map (·.name)

mutual

/-- The text of a value inside an array or object, unless an integer in it is too long. -/
def valueText? : Json.Value → Option String
  | .null => some "None"
  | .bool b => some (if b then "True" else "False")
  | .integer n => Text.ofInteger? n
  | .float x => some (Numeral.version.render x)
  | .string s => some (Text.quoted s)
  | .array items => (itemTexts? items).map fun texts => "[" ++ ", ".intercalate texts ++ "]"
  | .object fields => (fieldTexts? fields).map Context.braced

def itemTexts? : List Json.Value → Option (List String)
  | [] => some []
  | v :: rest => (valueText? v).bind fun text => (itemTexts? rest).map (text :: ·)

def fieldTexts? : List (String × Json.Value) → Option (List (String × String))
  | [] => some []
  | (k, v) :: rest => (valueText? v).bind fun text => (fieldTexts? rest).map ((k, text) :: ·)

end

/-- The key of the version number among the details about the version. -/
def versionNumberKey : String := "versionNumber"

/-- The version number as text; a text is its own. -/
def versionNumber (t : Template) : Except Failure (Option String) :=
  match t.version.bind (·.get? versionNumberKey) with
  | none => .ok none
  | some .null => .ok none
  | some (.string s) => .ok (some s)
  | some v =>
    match valueText? v with
    | some text => .ok (some text)
    | none => .error .integerTooLong

/-- The declarations read so far and the notes about those that brought no new key. -/
structure Declarations where
  parameters : OrderedMap Parameter := .empty
  notes : List Entry := []

namespace Declarations

/-- A parameter of a group; the first declaration of a key counts. -/
def declareGrouped (group : String) (d : Declarations) (declaration : String × Parameter) :
    Declarations :=
  if d.parameters.contains declaration.1 then
    { d with
      notes := d.notes ++ [⟨.warning, logger, "Parameter declared in several groups",
        [("parameter", .string declaration.1), ("group", .string group)]⟩] }
  else { d with parameters := d.parameters.insert declaration.1 declaration.2 }

/-- A parameter at top level; it counts before those in groups. -/
def declareTop (d : Declarations) (declaration : String × Parameter) : Declarations :=
  let notes :=
    if d.parameters.contains declaration.1 then
      [⟨.warning, logger, "Parameter declared both in a group and at top level",
        [("parameter", .string declaration.1)]⟩]
    else []
  ⟨d.parameters.insert declaration.1 declaration.2, d.notes ++ notes⟩

def declareGroup (d : Declarations) (group : String × ParameterGroup) : Declarations :=
  group.2.parameters.entries.foldl (declareGrouped group.1) d

end Declarations

def declarations (t : Template) : Declarations :=
  t.parameters.entries.foldl Declarations.declareTop
    (t.groups.entries.foldl Declarations.declareGroup {})

def sameConditions : List NamedCondition → List NamedCondition → Bool
  | [], [] => true
  | a :: as, b :: bs => a.name == b.name && a.condition.same b.condition && sameConditions as bs
  | _, _ => false

/-- Equality of templates. The order of map entries does not count, and a template with a number
that is not a number differs from itself. -/
def same (t u : Template) : Bool :=
  sameConditions t.conditions u.conditions && t.parameters.sameBy Parameter.same u.parameters &&
    t.groups.sameBy ParameterGroup.same u.groups &&
    (match t.version, u.version with
      | none, none => true
      | some v, some w => v.sameBy Json.Value.same w
      | _, _ => false) &&
    t.etag == u.etag

end Template

end TargetedConfig
