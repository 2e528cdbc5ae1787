import TargetedConfig.Context
import TargetedConfig.Targeting.Bucket
import TargetedConfig.Targeting.Comparison
import TargetedConfig.Targeting.Condition

/-!
# Evaluating conditions

`Condition.evaluate` decides a condition tree for a context. It looks at children in order and
only as long as they can matter, cuts trees below a greatest depth, and turns every data fault
into a false condition and an anomaly. A tree that asks for no signal needs no context.
-/

namespace TargetedConfig

/-- A computation that writes a ledger and may fail. -/
abbrev Audited := ExceptT Failure (StateM Ledger)

namespace Audited

def logger : String := "remote_config.condition_evaluator"

/-- Reports a fault in template data; the condition that has it is false. -/
def refuse (code : Anomaly.Code) (message : String) (details : Fields) : Audited Bool := do
  modify fun l => l.report ⟨code, message, details⟩ .warning logger
  return false

def runOn {α : Type} (x : Audited α) (l : Ledger) : Except Failure α × Ledger := x.run l

end Audited

/-- Whether a bucket lies in a slice; `none` without an operator. -/
def PercentSlice.holds? (slice : PercentSlice) (bucket : Int) : Option Bool :=
  let range := slice.range.getD {}
  match slice.operator with
  | .lessOrEqual => some (bucket ≤ slice.bound)
  | .greaterThan => some (slice.bound < bucket)
  | .between => some (range.lower < bucket && bucket ≤ range.upper)
  | .unspecified => none

namespace Condition

open Audited

/-- The context of an evaluation, for a condition that asks for a signal. -/
def required : Option Context → Audited Context
  | some context => return context
  | none => throw .absentContext

def evaluatePercent (context : Option Context) (slice : PercentSlice) : Audited Bool := do
  match (← required context).randomizationId? with
  | none =>
    refuse .missingRandomizationId
      "Percentage operation must not be performed without randomizationId" []
  | some id =>
    match slice.holds? (Bucket.ofId slice.seed id) with
    | some answer => return answer
    | none =>
      refuse .unspecifiedOperator "Unspecified percent operator"
        [("operator", .string slice.operator.name)]

/-- The details of a refused comparison: operator and key, and the refusal's own, which count where
both name the same. -/
def refusalDetails (test : SignalTest) (refusal : Comparison.Refusal) : Fields :=
  refusal.details.foldl (fun fields (k, v) => putEntry fields k v)
    [("operator", .string test.operator.name), ("key", .string test.key)]

def evaluateSignal (context : Option Context) (test : SignalTest) : Audited Bool := do
  if test.targets.isEmpty then
    refuse .missingTargetValues "Values must be assigned to all custom signal fields"
      [("operator", .string test.operator.name), ("key", .string test.key)]
  else
    match (← required context).get? test.key with
    | none => return false
    | some text =>
      match Comparison.compare test.operator text test.targets with
      | .error fault => throw (.pattern fault)
      | .ok (.ok answer) => return answer
      | .ok (.error refusal) =>
        refuse refusal.code refusal.message (refusalDetails test refusal)

def refuseNode (reason : String) : Audited Bool :=
  refuse .malformedCondition "Invalid condition node" [("reason", .string reason)]

def refuseDepth (maxDepth : Int) : Audited Bool :=
  refuse .maxDepthExceeded "Maximum condition recursion depth exceeded"
    [("max_depth", .integer maxDepth)]

mutual

def evaluate (maxDepth : Int) (context : Option Context) (depth : Int) (c : Condition) :
    Audited Bool :=
  if maxDepth < depth then refuseDepth maxDepth
  else
    match c with
    | .always => return true
    | .never => return false
    | .or children => evaluateAny maxDepth context (depth + 1) children
    | .and children =>
      if children.isEmpty then
        refuse .emptyAndCondition "AND condition without sub-conditions evaluates to false" []
      else evaluateAll maxDepth context (depth + 1) children
    | .percent slice => evaluatePercent context slice
    | .signal test => evaluateSignal context test
    | .malformed reason => refuseNode reason
    | .foreign typeName => refuseNode typeName
termination_by structural c

/-- Whether a child is true; children after the first true one are not evaluated. -/
def evaluateAny (maxDepth : Int) (context : Option Context) (depth : Int) :
    List Condition → Audited Bool
  | [] => return false
  | child :: rest => do
    if ← evaluate maxDepth context depth child then return true
    else evaluateAny maxDepth context depth rest

/-- Whether all children are true; children after the first false one are not evaluated. -/
def evaluateAll (maxDepth : Int) (context : Option Context) (depth : Int) :
    List Condition → Audited Bool
  | [] => return true
  | child :: rest => do
    if ← evaluate maxDepth context depth child then
      evaluateAll maxDepth context depth rest
    else return false

end

/-- The depth below which conditions are not evaluated, unless another one is asked for. -/
def defaultMaxDepth : Int := 10

/-- Evaluates named conditions in order. A repeated name keeps its first place and its last
result. -/
def evaluateNamed (maxDepth : Int) (context : Context) :
    List NamedCondition → OrderedMap Bool → Audited (OrderedMap Bool)
  | [], done => return done
  | c :: rest, done => do
    let result ← evaluate maxDepth (some context) 0 c.condition
    evaluateNamed maxDepth context rest (done.insert c.name result)

def evaluatedEntry (results : OrderedMap Bool) : Entry :=
  let names := (results.entries.filter (·.2)).map fun (name, _) => Json.Value.string name
  ⟨.debug, logger, "Conditions evaluated",
    [("total", .integer results.size), ("true_conditions", .array names)]⟩

def evaluateConditions (maxDepth : Int) (context : Context) (conditions : List NamedCondition) :
    Audited (OrderedMap Bool) := do
  let results ← evaluateNamed maxDepth context conditions .empty
  modify (·.write (evaluatedEntry results))
  return results

/-- The conditions and the context of an evaluation, if both are given and there are conditions. -/
def arguments (conditions : Option (List NamedCondition)) (context : Option Context) :
    Except Failure (List NamedCondition × Context) :=
  match conditions, context with
  | none, _ => .error .missingConditions
  | some [], _ => .error .noConditions
  | some _, none => .error .missingContext
  | some conditions, some context => .ok (conditions, context)

/-- Evaluates all named conditions if there are any and a context is given. -/
def evaluateGiven (maxDepth : Int) (conditions : Option (List NamedCondition))
    (context : Option Context) : Audited (OrderedMap Bool) :=
  match arguments conditions context with
  | .error f => throw f
  | .ok (conditions, context) => evaluateConditions maxDepth context conditions

end Condition

end TargetedConfig
