import TargetedConfig.Json.Token
import TargetedConfig.Json.Value

/-!
# JSON texts

`write` gives the compact text of a value, `read?` the value of a text. Both go through the tokens
of the text. The reader keeps the open arrays and objects on a stack and takes one token at a
time, so that its nesting limit is a limit on the height of the stack; an array or object with
nothing in it does not count.
-/

namespace TargetedConfig.Json

namespace Value

mutual

def tokens : Value → List Token
  | .null => [.null]
  | .bool b => [.bool b]
  | .integer n => [.integer n]
  | .float x => [.float x]
  | .string s => [.string s]
  | .array items => .openArray :: tokensItems true items
  | .object fields => .openObject :: tokensFields true fields

/-- The tokens of the remaining items of an array and its end. -/
def tokensItems (first : Bool) : List Value → List Token
  | [] => [.closeArray]
  | v :: rest => (if first then [] else [.comma]) ++ tokens v ++ tokensItems false rest

/-- The tokens of the remaining fields of an object and its end. -/
def tokensFields (first : Bool) : List (String × Value) → List Token
  | [] => [.closeObject]
  | (k, v) :: rest =>
    (if first then [] else [.comma]) ++ .string k :: .colon :: tokens v ++ tokensFields false rest

end

def write (v : Value) : List Char := v.tokens.flatMap Token.write

def render (v : Value) : String := String.ofList v.write

end Value

/-- An open array or object: its finished parts, latest first. -/
inductive Frame where
  | items (done : List Value)
  | fields (done : List (String × Value))
  | field (done : List (String × Value)) (key : String)

inductive Mode where
  /-- A value. -/
  | value
  /-- A value or the end of an array just opened. -/
  | item
  /-- A key. -/
  | key
  /-- A key or the end of an object just opened. -/
  | member
  /-- The colon after a key. -/
  | colon
  /-- What follows a finished value. -/
  | after (v : Value)

abbrev Reading := List Frame × Mode

def beginValue (stack : List Frame) : Token → Option Reading
  | .null => some (stack, .after .null)
  | .bool b => some (stack, .after (.bool b))
  | .integer n => some (stack, .after (.integer n))
  | .float x => some (stack, .after (.float x))
  | .string s => some (stack, .after (.string s))
  | .openArray => some (.items [] :: stack, .item)
  | .openObject => some (.fields [] :: stack, .member)
  | _ => none

/-- Takes one token. The stack holds at most `limit` arrays and objects with something in them. -/
def step (limit : Nat) : Reading → Token → Option Reading
  | (stack, .value), t => beginValue stack t
  | (.items [] :: stack, .item), .closeArray => some (stack, .after (.array []))
  | (stack, .item), t => if stack.length ≤ limit then beginValue stack t else none
  | (.fields done :: stack, .key), .string k => some (.field done k :: stack, .colon)
  | (.fields [] :: stack, .member), .closeObject => some (stack, .after (.object []))
  | (.fields done :: stack, .member), .string k =>
    if stack.length < limit then some (.field done k :: stack, .colon) else none
  | (stack, .colon), .colon => some (stack, .value)
  | (.items done :: stack, .after v), .comma => some (.items (v :: done) :: stack, .value)
  | (.items done :: stack, .after v), .closeArray =>
    some (stack, .after (.array (v :: done).reverse))
  | (.field done k :: stack, .after v), .comma => some (.fields ((k, v) :: done) :: stack, .key)
  | (.field done k :: stack, .after v), .closeObject =>
    some (stack, .after (.object ((k, v) :: done).reverse))
  | _, _ => none

def ofTokens? (limit : Nat) (tokens : List Token) : Option Value :=
  match tokens.foldlM (step limit) ([], .value) with
  | some ([], .after v) => some v
  | _ => none

/-- The value of a text whose arrays and objects nest at most `limit` deep, empty ones aside. -/
def read? (limit : Nat) (text : String) : Option Value :=
  (Token.tokens? text.toList).bind (ofTokens? limit)

end TargetedConfig.Json
