import TargetedConfig.Json.Value
import TargetedConfig.Template.IntegerText

/-!
# Fields of template objects

A field has a name and an alternative name. `Field.find?` says which entry of an object counts as
the field: the last one under the name, and only without one the last under the alternative name.
The readers `string`, `integer` and `boolean` accept values of neighbouring types where their
meaning is plain.
-/

namespace TargetedConfig

open Json (Value)

structure Field where
  name : String
  other : String

namespace Field

variable {α : Type}

def last? (key : String) : List (String × α) → Option α
  | [] => none
  | (k, a) :: rest => (last? key rest).or (if k = key then some a else none)

/-- The entry that counts as the field, and the key it stands under. -/
def find? (f : Field) (entries : List (String × α)) : Option (String × α) :=
  match last? f.name entries with
  | some a => some (f.name, a)
  | none => (last? f.other entries).map fun a => (f.other, a)

def plain (name : String) : Field := ⟨name, name⟩

/-- A field that may be missing or null. -/
def optional (f : Field) (read : Value → Checked α) (fields : List (String × Value)) :
    Checked (Option α) :=
  match f.find? fields with
  | none => .valid none
  | some (_, .null) => .valid none
  | some (key, v) => ((read v).map some).under (.key key)

/-- A field that may be missing but not null. -/
def withDefault (f : Field) (value : α) (read : Value → Checked α)
    (fields : List (String × Value)) : Checked α :=
  match f.find? fields with
  | none => .valid value
  | some (key, v) => (read v).under (.key key)

def required (f : Field) (read : Value → Checked α) (fields : List (String × Value)) : Checked α :=
  match f.find? fields with
  | none => .invalid [⟨.missing, [.key f.name]⟩]
  | some (key, v) => (read v).under (.key key)

end Field

namespace Reader

variable {α : Type}

/-- An object read by its fields. -/
def model (read : List (String × Value) → Checked α) : Value → Checked α
  | .object fields => read fields
  | _ => .fail .notModel

/-- An object with free keys. Every entry is checked; of entries with one key the last counts. -/
def mapOf (read : Value → Checked α) : Value → Checked (OrderedMap α)
  | .object fields => (Checked.entries read fields).map .ofList
  | _ => .fail .notMap

def listOf (read : Value → Checked α) : Value → Checked (List α)
  | .array items => Checked.itemsFrom read 0 items
  | _ => .fail .notList

def string : Value → Checked String
  | .string s => .valid s
  | _ => .fail .notString

def nonEmptyString : Value → Checked { s : String // s ≠ "" }
  | .string s => if h : s = "" then .fail .emptyString else .valid ⟨s, h⟩
  | _ => .fail .notString

/-- A whole number in 64 bits whose negation is one as well. -/
def fitsWord (n : Int) : Bool := n.natAbs < 0x8000000000000000

def isWord (n : Int) : Bool := -0x8000000000000000 ≤ n && n < 0x8000000000000000

/-- A whole number; also a truth value, a binary64 number without a fraction, or a text. -/
def integer : Value → Checked Int
  | .integer n => .valid n
  | .bool b => .valid (if b then 1 else 0)
  | .string s => IntegerText.read s.toList
  | .float x =>
    match x with
    | .finite _ _ _ =>
      match x.toInt? with
      | none => .fail .fractionalInteger
      | some n => if fitsWord n then .valid n else .fail .integerSize
    | _ => .fail .infiniteInteger
  | _ => .fail .notInteger

/-- The words for true and false, in lower case. -/
def trueWords : List String := ["1", "on", "t", "true", "y", "yes"]

def falseWords : List String := ["0", "off", "f", "false", "n", "no"]

/-- One and zero count as true and false. -/
def booleanInteger (n : Int) : Checked Bool :=
  if n = 0 then .valid false else if n = 1 then .valid true else .fail .unreadableBoolean

/-- A truth value; also one of the words for it in any letter case, or a one or zero. -/
def boolean : Value → Checked Bool
  | .bool b => .valid b
  | .string s =>
    if trueWords.contains s.toLower then .valid true
    else if falseWords.contains s.toLower then .valid false
    else .fail .unreadableBoolean
  | .integer n => if isWord n then booleanInteger n else .fail .notBoolean
  | .float x =>
    match x.toInt? with
    | some n => if fitsWord n then booleanInteger n else .fail .notBoolean
    | none => .fail .notBoolean
  | _ => .fail .notBoolean

end Reader

end TargetedConfig
