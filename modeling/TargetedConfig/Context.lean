import TargetedConfig.Failure
import TargetedConfig.Numeral
import TargetedConfig.OrderedMap
import TargetedConfig.Text.Integer
import TargetedConfig.Text.Quoted

/-!
# Evaluation contexts

A context maps signal names to texts. Signals of other types are written as text when the context is
made: booleans as words, integers in decimal, binary64 numbers by their shortest digits. A value of
any other type is refused, and so is an integer that is too long. `ContextBuilder` collects signals before a context is made from them.
-/

namespace TargetedConfig

inductive Signal where
  | string (s : String)
  | bool (b : Bool)
  | integer (n : Int)
  | float (x : Binary64)
  /-- A value of any other type. -/
  | unsupported (typeName : String)

namespace Signal

def refusal (typeName : String) : String := "Unsupported signal value type: " ++ typeName

def text : Signal → Except Failure String
  | .string s => .ok s
  | .bool b => .ok (if b then "true" else "false")
  | .integer n =>
    match Text.ofInteger? n with
    | some s => .ok s
    | none => .error .integerTooLong
  | .float x => .ok (Numeral.signal.render x)
  | .unsupported typeName => .error (.unsupportedSignal typeName)

end Signal

structure Context where
  signals : OrderedMap String

namespace Context

/-- The signal that identifies a user in percent conditions. -/
def randomizationIdKey : String := "randomizationId"

/-- The texts of all signals, or why the first one that has none has none. -/
def texts : List (String × Signal) → Except Failure (List (String × String))
  | [] => .ok []
  | (key, signal) :: rest =>
    match signal.text with
    | .error f => .error f
    | .ok text => (texts rest).map ((key, text) :: ·)

def ofSignals (signals : OrderedMap Signal) : Except Failure Context :=
  (texts signals.entries).map fun pairs => ⟨.ofList pairs⟩

def get? (c : Context) (key : String) : Option String := c.signals.get? key

def randomizationId? (c : Context) : Option String := c.get? randomizationIdKey

/-- Equality of contexts; the order of signals does not count. -/
def same (c d : Context) : Bool := c.signals.sameBy (· == ·) d.signals

/-- The entries of a map with quoted keys, between braces. -/
def braced (entries : List (String × String)) : String :=
  "\x7b" ++ ", ".intercalate (entries.map fun (k, v) => Text.quoted k ++ ": " ++ v) ++ "\x7d"

def render (c : Context) : String :=
  "EvaluationContext(" ++ braced (c.signals.entries.map fun (k, v) => (k, Text.quoted v)) ++ ")"

end Context

structure ContextBuilder where
  signals : OrderedMap Signal := .empty

namespace ContextBuilder

/-- Sets a signal; the last value of a name counts. -/
def put (b : ContextBuilder) (key : String) (signal : Signal) : ContextBuilder :=
  ⟨b.signals.insert key signal⟩

def randomizationId (b : ContextBuilder) (signal : Signal) : ContextBuilder :=
  b.put Context.randomizationIdKey signal

def build (b : ContextBuilder) : Except Failure Context := Context.ofSignals b.signals

end ContextBuilder

end TargetedConfig
