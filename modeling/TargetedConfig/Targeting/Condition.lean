import TargetedConfig.Failure
import TargetedConfig.Targeting.Operator

/-! # Condition trees and named conditions -/

namespace TargetedConfig

/-- Bounds of a slice of buckets; the lower one is exclusive, the upper one inclusive. -/
structure BucketRange where
  lower : Int := 0
  upper : Int := 0
  deriving DecidableEq

/-- A percent condition: a slice of the buckets under a seed. -/
structure PercentSlice where
  operator : PercentOperator
  seed : String := ""
  bound : Int := 0
  range : Option BucketRange := none
  deriving DecidableEq

/-- A signal condition: a signal and the targets it is compared with. -/
structure SignalTest where
  key : String
  operator : SignalOperator
  targets : List String := []
  deriving DecidableEq

inductive Condition where
  | always
  | never
  | or (children : List Condition)
  | and (children : List Condition)
  | percent (slice : PercentSlice)
  | signal (test : SignalTest)
  /-- What stands for a node of template data that is not exactly one condition. -/
  | malformed (reason : String)
  /-- An object of another type in the place of a condition. -/
  | foreign (typeName : String)
  deriving Inhabited

/-- A named condition; its place in a list is its priority. -/
structure NamedCondition where
  name : String
  condition : Condition
  named : name ≠ ""

namespace NamedCondition

/-- Names a condition; the name must not be empty. -/
def ofName (name : String) (condition : Condition) : Except Failure NamedCondition :=
  if h : name = "" then .error .unnamedCondition else .ok ⟨name, condition, h⟩

end NamedCondition

namespace Condition

mutual

def same : Condition → Condition → Bool
  | .always, .always => true
  | .never, .never => true
  | .or a, .or b => sameAll a b
  | .and a, .and b => sameAll a b
  | .percent a, .percent b => a == b
  | .signal a, .signal b => a == b
  | .malformed a, .malformed b => a == b
  | .foreign a, .foreign b => a == b
  | _, _ => false

def sameAll : List Condition → List Condition → Bool
  | [], [] => true
  | a :: as, b :: bs => same a b && sameAll as bs
  | _, _ => false

end

mutual

/-- The number of conditions on the longest path down a tree. -/
def height : Condition → Nat
  | .or children => heightAll children + 1
  | .and children => heightAll children + 1
  | _ => 1

def heightAll : List Condition → Nat
  | [] => 0
  | c :: rest => max (height c) (heightAll rest)

end

end Condition

end TargetedConfig
