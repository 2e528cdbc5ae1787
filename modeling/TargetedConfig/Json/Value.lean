import TargetedConfig.Binary64.Basic
import TargetedConfig.OrderedMap

/-!
# JSON values

Integers are exact and apart from binary64 numbers. The fields of an object keep their order, and a
text that repeats a key gives a value that repeats it; `Value.distinctKeys` settles repetitions.
-/

namespace TargetedConfig.Json

inductive Value where
  | null
  | bool (b : Bool)
  | integer (n : Int)
  | float (x : Binary64)
  | string (s : String)
  | array (items : List Value)
  | object (fields : List (String × Value))
  deriving Inhabited

namespace Value

mutual

/-- Leaves each key of every object once, with its last value at its first place. -/
def distinctKeys : Value → Value
  | .array items => .array (distinctKeysItems items)
  | .object fields => .object (distinctKeysFields fields [])
  | v => v

def distinctKeysItems : List Value → List Value
  | [] => []
  | v :: rest => distinctKeys v :: distinctKeysItems rest

def distinctKeysFields : List (String × Value) → List (String × Value) → List (String × Value)
  | [], done => done
  | (k, v) :: rest, done => distinctKeysFields rest (putEntry done k (distinctKeys v))

end

mutual

/-- Equality of values in which the order of an object's fields does not count, integers and
binary64 numbers compare by value, and a number that is not a number differs from itself. -/
def same : Value → Value → Bool
  | .null, .null => true
  | .bool a, .bool b => a == b
  | .integer a, .integer b => a == b
  | .float a, .float b => a.same b
  | .string a, .string b => a == b
  | .array a, .array b => sameItems a b
  | .object a, .object b => a.length == b.length && sameFields a b
  | _, _ => false

def sameItems : List Value → List Value → Bool
  | [], [] => true
  | a :: as, b :: bs => same a b && sameItems as bs
  | _, _ => false

/-- Each field of the first list has an equal one in the second. -/
def sameFields : List (String × Value) → List (String × Value) → Bool
  | [], _ => true
  | (k, a) :: rest, fields =>
    (match fields.lookup k with
      | some b => same a b
      | none => false) && sameFields rest fields

end

mutual

/-- The number of values on the longest path into a value. -/
def height : Value → Nat
  | .array items => heightItems items + 1
  | .object fields => heightFields fields + 1
  | _ => 1

def heightItems : List Value → Nat
  | [] => 0
  | v :: rest => max (height v) (heightItems rest)

def heightFields : List (String × Value) → Nat
  | [] => 0
  | (_, v) :: rest => max (height v) (heightFields rest)

end

end Value

end TargetedConfig.Json
