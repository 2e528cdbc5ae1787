import TargetedConfig.Anomaly
import TargetedConfig.Binary64.Literal
import TargetedConfig.Text.Integer
import TargetedConfig.Text.Quoted

/-!
# Resolved values

A value is a text together with its source. Each typed view of a static value is the zero of its
type. The other views read the text; a text that does not fit gives zero and a complaint.
-/

namespace TargetedConfig

/-- Where a value comes from: nowhere, the caller's defaults, or the template. -/
inductive Source where
  | static
  | default
  | remote
  deriving DecidableEq

namespace Source

def name : Source → String
  | .static => "static"
  | .default => "default"
  | .remote => "remote"

def ofName? : String → Option Source
  | "static" => some .static
  | "default" => some .default
  | "remote" => some .remote
  | _ => none

def render (s : Source) : String :=
  "<ValueSource." ++ s.name.toUpper ++ ": " ++ Text.quoted s.name ++ ">"

end Source

structure Value where
  source : Source
  raw : String
  deriving DecidableEq

namespace Value

/-- Why a view of a value is zero. -/
inductive Complaint where
  | unreadableLong
  | longOutOfRange
  | unreadableDouble
  deriving DecidableEq

namespace Complaint

def message : Complaint → String
  | .unreadableLong => "Unable to convert value to long"
  | .longOutOfRange => "Value out of range for long"
  | .unreadableDouble => "Unable to convert value to double"

def entry (c : Complaint) (raw : String) : Entry :=
  ⟨.warning, "remote_config.value", c.message, [("value", .string raw)]⟩

end Complaint

/-- The value of a parameter that nothing is known about. -/
def static : Value := ⟨.static, ""⟩

def asString (v : Value) : String := if v.source = .static then "" else v.raw

def truthy : List String := ["1", "true", "t", "yes", "y", "on"]

/-- Whether the text is one of those that count as true; only ASCII letters have these lower case
letters. -/
def asBoolean (v : Value) : Bool :=
  v.source ≠ .static && truthy.contains v.raw.toLower

def inLongRange (n : Int) : Bool := -0x8000000000000000 ≤ n && n < 0x8000000000000000

/-- The integer that a text denotes; underscores in it and blanks around it are refused. -/
def longText? (raw : String) : Option Int :=
  let text := raw.toList
  if text.contains '_' || Text.trim (fun c => Text.isSpace c.toNat) text != text then none
  else Text.looseInteger? text

def asLong (v : Value) : Int × Option Complaint :=
  if v.source = .static then (0, none)
  else
    match longText? v.raw with
    | none => (0, some .unreadableLong)
    | some n => if inLongRange n then (n, none) else (0, some .longOutOfRange)

def asDouble (v : Value) : Binary64 × Option Complaint :=
  if v.source = .static then (.zero false, none)
  else
    match Binary64.parse? v.raw with
    | none => (.zero false, some .unreadableDouble)
    | some x => (x, none)

def render (v : Value) : String :=
  "Value(source=" ++ v.source.render ++ ", raw=" ++ Text.quoted v.raw ++ ")"

/-- All views of a value, with the complaints of the conversions. -/
structure Views where
  string : String
  boolean : Bool
  long : Int
  double : Binary64

/-- Takes all views in turn; the entries tell of the texts that do not fit. -/
def views (v : Value) : Views × List Entry :=
  let (long, c) := v.asLong
  let (double, d) := v.asDouble
  (⟨v.asString, v.asBoolean, long, double⟩, (c.toList ++ d.toList).map (·.entry v.raw))

end Value

structure Config where
  values : OrderedMap Value
  anomalies : List Anomaly := []

namespace Config

/-- The value of a key; static for an unknown one. -/
def getValue (c : Config) (key : String) : Value := (c.values.get? key).getD .static

def contains (c : Config) (key : String) : Bool := c.values.contains key

def size (c : Config) : Nat := c.values.size

/-- All views of the values of some keys, and the entries of their conversions. -/
def views (c : Config) : List String → List (String × Value.Views) × List Entry
  | [] => ([], [])
  | key :: rest =>
    let (views, entries) := (c.getValue key).views
    let (others, more) := c.views rest
    ((key, views) :: others, entries ++ more)

def render (c : Config) : String :=
  "ServerConfig(\x7b" ++
    ", ".intercalate (c.values.entries.map fun (k, v) => Text.quoted k ++ ": " ++ v.render) ++
    "\x7d)"

end Config

end TargetedConfig
