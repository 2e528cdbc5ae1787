import TargetedConfig.OrderedMap

/-!
# Parameters

A parameter has a default value and values for conditions. A value either names a text or says why
there is none here: the caller's own default is to be used, or the choice is made elsewhere.
-/

namespace TargetedConfig

inductive ParameterValue where
  | explicit (text : String)
  /-- The caller's default is to be used. -/
  | inAppDefault
  /-- A text that is served through a rollout. -/
  | rollout (id : String) (text : Option String) (percent : Int)
  /-- A text that a personalization chooses. -/
  | personalization (id : String)
  deriving DecidableEq, Inhabited

namespace ParameterValue

def text? : ParameterValue → Option String
  | .explicit text => some text
  | .inAppDefault => none
  | .rollout _ text _ => text
  | .personalization _ => none

def kindName : ParameterValue → String
  | .explicit _ => "ExplicitValue"
  | .inAppDefault => "InAppDefaultValue"
  | .rollout _ _ _ => "RolloutValue"
  | .personalization _ => "PersonalizationValue"

end ParameterValue

/-- A parameter. Its values for conditions are found by the name of the condition. -/
structure Parameter where
  default : Option ParameterValue := none
  conditional : OrderedMap ParameterValue := .empty
  description : Option String := none
  valueType : String := "STRING"
  deriving Inhabited

namespace Parameter

/-- Equality of parameters; the order of the values for conditions does not count. -/
def same (p q : Parameter) : Bool :=
  p.default == q.default && p.conditional.sameBy (· == ·) q.conditional &&
    p.description == q.description && p.valueType == q.valueType

end Parameter

structure ParameterGroup where
  description : Option String := none
  parameters : OrderedMap Parameter := .empty

namespace ParameterGroup

/-- Equality of groups; the order of their parameters does not count. -/
def same (g h : ParameterGroup) : Bool :=
  g.description == h.description && g.parameters.sameBy Parameter.same h.parameters

end ParameterGroup

end TargetedConfig
