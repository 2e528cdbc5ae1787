import TargetedConfig.Relation

/-! # Operators of conditions and their names -/

namespace TargetedConfig

inductive PercentOperator where
  | lessOrEqual
  | greaterThan
  | between
  | unspecified
  deriving DecidableEq

namespace PercentOperator

def name : PercentOperator → String
  | .lessOrEqual => "LESS_OR_EQUAL"
  | .greaterThan => "GREATER_THAN"
  | .between => "BETWEEN"
  | .unspecified => "PERCENT_OPERATOR_UNSPECIFIED"

def all : List PercentOperator := [.lessOrEqual, .greaterThan, .between, .unspecified]

/-- The operator of a name; unspecified for a missing or unknown one. -/
def ofName (name : Option String) : PercentOperator :=
  (all.find? fun op => name == some op.name).getD .unspecified

end PercentOperator

inductive StringTest where
  | contains
  | doesNotContain
  | exactlyMatches
  | matchesPattern
  deriving DecidableEq

inductive SignalOperator where
  | string (test : StringTest)
  | numeric (r : Relation)
  | version (r : Relation)
  | unspecified
  deriving DecidableEq

namespace SignalOperator

/-- The last part of the name of a comparison. -/
def relationName : Relation → String
  | .less => "LESS_THAN"
  | .lessEqual => "LESS_EQUAL"
  | .equal => "EQUAL"
  | .notEqual => "NOT_EQUAL"
  | .greater => "GREATER_THAN"
  | .greaterEqual => "GREATER_EQUAL"

def name : SignalOperator → String
  | .string .contains => "STRING_CONTAINS"
  | .string .doesNotContain => "STRING_DOES_NOT_CONTAIN"
  | .string .exactlyMatches => "STRING_EXACTLY_MATCHES"
  | .string .matchesPattern => "STRING_CONTAINS_REGEX"
  | .numeric r => "NUMERIC_" ++ relationName r
  | .version r => "SEMANTIC_VERSION_" ++ relationName r
  | .unspecified => "CUSTOM_SIGNAL_OPERATOR_UNSPECIFIED"

def relations : List Relation :=
  [.less, .lessEqual, .equal, .notEqual, .greater, .greaterEqual]

def all : List SignalOperator :=
  [.string .contains, .string .doesNotContain, .string .exactlyMatches, .string .matchesPattern] ++
    relations.map .numeric ++ relations.map .version ++ [.unspecified]

/-- The operator of a name; unspecified for a missing or unknown one. -/
def ofName (name : Option String) : SignalOperator :=
  (all.find? fun op => name == some op.name).getD .unspecified

def isString : SignalOperator → Bool
  | .string _ => true
  | _ => false

def isNumeric : SignalOperator → Bool
  | .numeric _ => true
  | _ => false

def isVersion : SignalOperator → Bool
  | .version _ => true
  | _ => false

end SignalOperator

end TargetedConfig
