import TargetedConfig.Json.Value

/-!
# Anomalies and the journal

A fault in template data is never an error of an evaluation: it becomes an `Anomaly`. Everything
worth noting is written as an `Entry` into a `Ledger`, which also collects the anomalies if it has
been given a place to collect them. `Ledger.report` writes both, so that the entries which name an
anomaly and the collected anomalies tell the same story.
-/

namespace TargetedConfig

namespace Anomaly

inductive Code where
  | maxDepthExceeded
  | malformedCondition
  | emptyAndCondition
  | missingRandomizationId
  | unspecifiedOperator
  | missingTargetValues
  | invalidTargetArity
  | invalidNumber
  | invalidSemanticVersion
  | invalidRegex
  | invalidPercentCondition
  | inAppDefault
  | emptyDefaultValue
  | unresolvableValue
  deriving DecidableEq

namespace Code

def name : Code → String
  | .maxDepthExceeded => "max_depth_exceeded"
  | .malformedCondition => "malformed_condition"
  | .emptyAndCondition => "empty_and_condition"
  | .missingRandomizationId => "missing_randomization_id"
  | .unspecifiedOperator => "unspecified_operator"
  | .missingTargetValues => "missing_target_values"
  | .invalidTargetArity => "invalid_target_arity"
  | .invalidNumber => "invalid_number"
  | .invalidSemanticVersion => "invalid_semantic_version"
  | .invalidRegex => "invalid_regex"
  | .invalidPercentCondition => "invalid_percent_condition"
  | .inAppDefault => "in_app_default"
  | .emptyDefaultValue => "empty_default_value"
  | .unresolvableValue => "unresolvable_value"

def all : List Code :=
  [.maxDepthExceeded, .malformedCondition, .emptyAndCondition, .missingRandomizationId,
   .unspecifiedOperator, .missingTargetValues, .invalidTargetArity, .invalidNumber,
   .invalidSemanticVersion, .invalidRegex, .invalidPercentCondition, .inAppDefault,
   .emptyDefaultValue, .unresolvableValue]

def ofName? (name : String) : Option Code := all.find? (·.name == name)

end Code

end Anomaly

abbrev Fields := List (String × Json.Value)

structure Anomaly where
  code : Anomaly.Code
  message : String
  details : Fields

inductive Level where
  | debug
  | info
  | warning
  | error
  deriving DecidableEq

namespace Level

def name : Level → String
  | .debug => "debug"
  | .info => "info"
  | .warning => "warning"
  | .error => "error"

/-- The weight of a level; more weight matters more. -/
def weight : Level → Nat
  | .debug => 10
  | .info => 20
  | .warning => 30
  | .error => 40

end Level

/-- An entry of the journal: who writes it, what happened, and named details. -/
structure Entry where
  level : Level
  logger : String
  event : String
  fields : Fields

def Anomaly.entry (a : Anomaly) (level : Level) (logger : String) : Entry :=
  ⟨level, logger, a.message, ("anomaly", .string a.code.name) :: a.details⟩

/-- The entries written so far, and the anomalies collected so far if they are collected. -/
structure Ledger where
  entries : List Entry := []
  collected : Option (List Anomaly) := none

namespace Ledger

def write (l : Ledger) (e : Entry) : Ledger := { l with entries := l.entries ++ [e] }

def writeAll (l : Ledger) (es : List Entry) : Ledger := { l with entries := l.entries ++ es }

/-- Writes the entry of an anomaly and collects it. -/
def report (l : Ledger) (a : Anomaly) (level : Level) (logger : String) : Ledger :=
  { l.write (a.entry level logger) with collected := l.collected.map (· ++ [a]) }

/-- The collected anomalies; none if they are not collected. -/
def anomalies (l : Ledger) : List Anomaly := l.collected.getD []

end Ledger

end TargetedConfig
