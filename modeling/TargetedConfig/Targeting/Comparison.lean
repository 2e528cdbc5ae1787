import TargetedConfig.Anomaly
import TargetedConfig.Binary64.Literal
import TargetedConfig.Pattern.Match
import TargetedConfig.Targeting.Operator
import TargetedConfig.Version

/-!
# Comparing a signal with targets

Comparisons come in three families. Texts are compared with any number of targets, numbers and
versions with exactly one. A comparison that its data do not allow ends in a `Comparison.Refusal`; a
pattern with one of the faults that are not data faults ends the whole evaluation.
-/

namespace TargetedConfig.Comparison

/-- Why a comparison has no answer. -/
inductive Refusal where
  | unsupportedOperator (op : SignalOperator)
  /-- The family of text comparisons was asked for an operator that it does not have. -/
  | unsupportedStringOperator (op : SignalOperator)
  | invalidPatterns (patterns : List String)
  | numericArity (targets : List String)
  | versionArity (targets : List String)
  | invalidNumber (signal target : String)
  | invalidVersion (signal target : String)

namespace Refusal

def code : Refusal → Anomaly.Code
  | .unsupportedOperator _ => .unspecifiedOperator
  | .unsupportedStringOperator _ => .unspecifiedOperator
  | .invalidPatterns _ => .invalidRegex
  | .numericArity _ => .invalidTargetArity
  | .versionArity _ => .invalidTargetArity
  | .invalidNumber _ _ => .invalidNumber
  | .invalidVersion _ _ => .invalidSemanticVersion

def message : Refusal → String
  | .unsupportedOperator _ => "Unsupported custom signal operator"
  | .unsupportedStringOperator _ => "Unsupported string operator"
  | .invalidPatterns _ => "Invalid regular expression in target values"
  | .numericArity _ => "Target values must contain 1 element for numeric operations"
  | .versionArity _ => "Target values must contain 1 element for semantic version operations"
  | .invalidNumber _ _ => "Unable to parse numeric custom signal"
  | .invalidVersion _ _ => "Invalid semantic version in custom signal"

def strings (texts : List String) : Json.Value := .array (texts.map .string)

def details : Refusal → Fields
  | .unsupportedOperator op => [("operator", .string op.name)]
  | .unsupportedStringOperator op => [("operator", .string op.name)]
  | .invalidPatterns patterns => [("patterns", strings patterns)]
  | .numericArity targets => [("target_values", strings targets)]
  | .versionArity targets => [("target_values", strings targets)]
  | .invalidNumber signal target =>
    [("signal_value", .string signal), ("target_value", .string target)]
  | .invalidVersion signal target =>
    [("signal_value", .string signal), ("target_value", .string target)]

end Refusal

/-- The answer of a comparison, or the faults of a pattern that end the whole evaluation. -/
abbrev Answer := Except Pattern.Fault (Except Refusal Bool)

def occursIn (target text : List Char) : Bool :=
  target.isPrefixOf text ||
    match text with
    | [] => false
    | _ :: rest => occursIn target rest

/-- Whether some pattern matches a whole signal. Malformed patterns are passed over, and refused in
the end if no pattern matches. -/
def matchesAny (signal : String) (malformed : List String) : List String → Answer
  | [] => .ok (if malformed.isEmpty then .ok false else .error (.invalidPatterns malformed.reverse))
  | pattern :: patterns =>
    match Pattern.fullMatch pattern signal with
    | .ok true => .ok (.ok true)
    | .ok false => matchesAny signal malformed patterns
    | .error .malformed => matchesAny signal (pattern :: malformed) patterns
    | .error fault => .error fault

def texts (op : SignalOperator) (signal : String) (targets : List String) : Answer :=
  match op with
  | .string .contains => .ok (.ok (targets.any fun t => occursIn t.toList signal.toList))
  | .string .doesNotContain => .ok (.ok (!targets.any fun t => occursIn t.toList signal.toList))
  | .string .exactlyMatches => .ok (.ok (targets.any (· == signal)))
  | .string .matchesPattern => matchesAny signal [] targets
  | op => .ok (.error (.unsupportedStringOperator op))

def numbers (r : Relation) (signal : String) (targets : List String) : Except Refusal Bool :=
  match targets with
  | [target] =>
    match Binary64.parse? signal, Binary64.parse? target with
    | some x, some y => .ok (Binary64.compares r x.rank y.rank)
    | _, _ => .error (.invalidNumber signal target)
  | _ => .error (.numericArity targets)

def versions (r : Relation) (signal : String) (targets : List String) : Except Refusal Bool :=
  match targets with
  | [target] =>
    match Version.parse? signal, Version.parse? target with
    | some v, some w => .ok (r.holds (Version.compareSegments v w))
    | _, _ => .error (.invalidVersion signal target)
  | _ => .error (.versionArity targets)

def compare (op : SignalOperator) (signal : String) (targets : List String) : Answer :=
  match op with
  | .string _ => texts op signal targets
  | .numeric r => .ok (numbers r signal targets)
  | .version r => .ok (versions r signal targets)
  | .unspecified => .ok (.error (.unsupportedOperator op))

end TargetedConfig.Comparison
