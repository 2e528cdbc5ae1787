import TargetedConfig.Parameter.Basic
import TargetedConfig.Value

/-!
# Resolving parameters

`Parameter.decide` looks at one parameter: the first true condition that has a value for it decides,
and its default decides if there is none. A decision either serves a text or keeps what the caller's
defaults say and reports why. `resolve` applies the decisions to the caller's defaults in turn.
-/

namespace TargetedConfig

inductive Decision where
  | serve (text : String)
  | keep (anomaly : Anomaly) (level : Level)

namespace Parameter

/-- The value for the first of some conditions that has one. -/
def conditional? (p : Parameter) : List String → Option (String × ParameterValue)
  | [] => none
  | name :: rest =>
    match p.conditional.get? name with
    | some value => some (name, value)
    | none => p.conditional? rest

/-- A decision that leaves an entry as it is and reports it. -/
def keep (code : Anomaly.Code) (level : Level) (message : String) (details : Fields) : Decision :=
  .keep ⟨code, message, details⟩ level

/-- The decision of a value for a condition; an empty text is a text. -/
def decideConditional (key condition : String) (value : ParameterValue) : Decision :=
  match value, value.text? with
  | .inAppDefault, _ =>
    keep .inAppDefault .info "Conditional value defers to the in-app default"
      [("parameter", .string key), ("condition", .string condition)]
  | _, some text => .serve text
  | value, none =>
    keep .unresolvableValue .info "Conditional value cannot be resolved in process"
      [("parameter", .string key), ("condition", .string condition),
       ("value_kind", .string value.kindName)]

/-- The decision of a default value; an empty text counts as none. -/
def decideDefault (key : String) : Option ParameterValue → Decision
  | none =>
    keep .emptyDefaultValue .warning "Parameter has no default value" [("parameter", .string key)]
  | some .inAppDefault =>
    keep .inAppDefault .info "Default value defers to the in-app default"
      [("parameter", .string key)]
  | some value =>
    match value.text? with
    | none =>
      keep .unresolvableValue .info "Default value cannot be resolved in process"
        [("parameter", .string key), ("value_kind", .string value.kindName)]
    | some "" =>
      keep .emptyDefaultValue .warning
        "Default value is empty, keeping the default config value" [("parameter", .string key)]
    | some text => .serve text

/-- The decision about a parameter when some conditions, listed by priority, are true. -/
def decide (key : String) (p : Parameter) (trueNames : List String) : Decision :=
  match p.conditional? trueNames with
  | some (condition, value) => decideConditional key condition value
  | none => decideDefault key p.default

end Parameter

namespace Resolution

def logger : String := "remote_config.parameter_resolver"

def seed (defaults : OrderedMap String) : OrderedMap Value :=
  defaults.map fun raw => ⟨.default, raw⟩

/-- The names of the true conditions in order of priority. -/
def trueNames (evaluated : OrderedMap Bool) (priority : List String) : List String :=
  priority.filter fun name => (evaluated.get? name).getD false

def apply (key : String) : Decision → OrderedMap Value → StateM Ledger (OrderedMap Value)
  | .serve text, done => return done.insert key ⟨.remote, text⟩
  | .keep anomaly level, done => do
    modify fun l => l.report anomaly level logger
    return done

def resolveAll (names : List String) :
    List (String × Parameter) → OrderedMap Value → StateM Ledger (OrderedMap Value)
  | [], done => return done
  | (key, parameter) :: rest, done => do
    resolveAll names rest (← apply key (parameter.decide key names) done)

/-- Resolves parameters on top of the caller's defaults. Conditions count by the given order, which
is the order of their results unless another one is given. -/
def resolve (parameters : OrderedMap Parameter) (evaluated : OrderedMap Bool)
    (defaults : OrderedMap String) (order : Option (List String)) :
    StateM Ledger (OrderedMap Value) :=
  resolveAll (trueNames evaluated (order.getD evaluated.keys)) parameters.entries (seed defaults)

end Resolution

end TargetedConfig
