import TargetedConfig.Json.Value
import TargetedConfig.Pattern.Reader
import TargetedConfig.Template.Violation

/-!
# Failures

Data faults are anomalies. A `Failure` is what remains: arguments that break a rule, a template text
that cannot be read or written, integers that are too long for a text, and faults of patterns that
no comparison can answer. Those that `response?` answers have a code, a message and details.
-/

namespace TargetedConfig

/-- What a name means that looks like the name of a level and is none. -/
inductive ReservedLevel where
  /-- The form of a record. -/
  | form
  /-- The table of styles in which forms can be written. -/
  | styles
  deriving DecidableEq

inductive Failure where
  | emptyTemplateText
  | unreadableTemplate (violations : List Violation)
  | noTemplate
  | unnamedCondition
  | missingConditions
  | noConditions
  | missingContext
  /-- A condition asks for a signal where there is no context. -/
  | absentContext
  /-- No signal may have a value of this type. -/
  | unsupportedSignal (typeName : String)
  /-- An integer has too many digits for a text. -/
  | integerTooLong
  | pattern (fault : Pattern.Fault)
  /-- A template nests too deep to have a text. -/
  | tooDeepToWrite
  | unknownLevel (name : String)
  | reservedLevel (meaning : ReservedLevel)

/-- A failure as it is answered to a caller: a code, a message and details. -/
structure Response where
  code : String
  message : String
  details : List (String × Json.Value) := []

namespace Response

/-- Kinds of answers, each with its own code and message. -/
inductive Kind where
  | invalidArgument
  | unreadableTemplate
  deriving DecidableEq

def Kind.code (_ : Kind) : String := "INVALID_ARGUMENT"

/-- The message unless another one is given. -/
def Kind.message : Kind → String
  | .invalidArgument => "Invalid argument"
  | .unreadableTemplate => "Unable to parse JSON string."

def ofKind (kind : Kind) (message : Option String) (details : List (String × Json.Value)) :
    Response :=
  ⟨kind.code, message.getD kind.message, details⟩

end Response

namespace Violation

def placeJson : Place → Json.Value
  | .key name => .string name
  | .index n => .integer n

def toJson (v : Violation) : Json.Value :=
  .object [("type", .string v.kind.name), ("loc", .array (v.path.map placeJson))]

end Violation

namespace Failure

/-- The answer to an argument that breaks a rule. -/
def invalid (message : String) : Option (Response.Kind × Response) :=
  some (.invalidArgument, .ofKind .invalidArgument (some message) [])

/-- The answer to a failure; only arguments and template texts are answered this way. -/
def response? : Failure → Option (Response.Kind × Response)
  | .emptyTemplateText => invalid "JSON String must not be null or empty."
  | .unreadableTemplate violations =>
    some (.unreadableTemplate,
      .ofKind .unreadableTemplate none [("errors", .array (violations.map Violation.toJson))])
  | .noTemplate =>
    invalid "No Remote Config Server template in cache. Call set() before calling evaluate()."
  | .unnamedCondition => invalid "Condition name must not be empty."
  | .missingConditions => invalid "List of conditions must not be null."
  | .noConditions => invalid "List of conditions must not be empty."
  | .missingContext => invalid "Context must not be null."
  | .absentContext => none
  | .unsupportedSignal _ => none
  | .integerTooLong => none
  | .pattern _ => none
  | .tooDeepToWrite => none
  | .unknownLevel _ => none
  | .reservedLevel _ => none

end Failure

end TargetedConfig
