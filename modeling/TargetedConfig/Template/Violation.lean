/-!
# Violations of the template form

A violation names what is wrong and the place where it is. `Checked` values gather the violations of
all their parts, in order, instead of stopping at the first one.
-/

namespace TargetedConfig

/-- A step on the way to a place inside a document. -/
inductive Place where
  | key (name : String)
  | index (n : Nat)
  deriving DecidableEq

namespace Violation

inductive Kind where
  | notJson
  | notModel
  | notMap
  | notList
  | notString
  | emptyString
  | missing
  | notInteger
  | unreadableInteger
  | integerSize
  | fractionalInteger
  | infiniteInteger
  | notBoolean
  | unreadableBoolean
  | otherWord
  deriving DecidableEq

def Kind.name : Kind → String
  | .notJson => "json_invalid"
  | .notModel => "model_type"
  | .notMap => "dict_type"
  | .notList => "list_type"
  | .notString => "string_type"
  | .emptyString => "string_too_short"
  | .missing => "missing"
  | .notInteger => "int_type"
  | .unreadableInteger => "int_parsing"
  | .integerSize => "int_parsing_size"
  | .fractionalInteger => "int_from_float"
  | .infiniteInteger => "finite_number"
  | .notBoolean => "bool_type"
  | .unreadableBoolean => "bool_parsing"
  | .otherWord => "string_pattern_mismatch"

end Violation

structure Violation where
  kind : Violation.Kind
  path : List Place
  deriving DecidableEq

/-- A value, or everything that is wrong with it. -/
inductive Checked (α : Type) where
  | valid (value : α)
  | invalid (violations : List Violation)

namespace Checked

variable {α β : Type}

/-- One violation at the place looked at. -/
def fail (kind : Violation.Kind) : Checked α := .invalid [⟨kind, []⟩]

def map (f : α → β) : Checked α → Checked β
  | .valid a => .valid (f a)
  | .invalid vs => .invalid vs

/-- Applies a checked function to a checked value; the violations of the function come first. -/
def apply : Checked (α → β) → Checked α → Checked β
  | .valid f, .valid a => .valid (f a)
  | .valid _, .invalid vs => .invalid vs
  | .invalid us, .valid _ => .invalid us
  | .invalid us, .invalid vs => .invalid (us ++ vs)

instance : Functor Checked := ⟨fun f x => x.map f, fun a x => x.map fun _ => a⟩

instance : Applicative Checked where
  pure := .valid
  seq f x := f.apply (x ())

/-- Moves the violations of a part to its place in the whole. -/
def under (place : Place) : Checked α → Checked α
  | .valid a => .valid a
  | .invalid vs => .invalid (vs.map fun v => { v with path := place :: v.path })

/-- The items of a list, each at its place counted from a number. -/
def itemsFrom (f : α → Checked β) : Nat → List α → Checked (List β)
  | _, [] => .valid []
  | n, a :: rest => List.cons <$> (f a).under (.index n) <*> itemsFrom f (n + 1) rest

/-- The entries of a map, each at its key. -/
def entries (f : α → Checked β) : List (String × α) → Checked (List (String × β))
  | [] => .valid []
  | (key, a) :: rest =>
    (fun b bs => (key, b) :: bs) <$> (f a).under (.key key) <*> entries f rest

end Checked

end TargetedConfig
