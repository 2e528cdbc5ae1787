/-!
# Order relations

The six comparisons that a numeric or version condition may ask for, decided from the order of the
two sides.
-/

namespace TargetedConfig

inductive Relation where
  | less
  | lessEqual
  | equal
  | notEqual
  | greater
  | greaterEqual
  deriving DecidableEq

namespace Relation

/-- Whether the relation holds between two things in the given order. -/
def holds : Relation → Ordering → Bool
  | .less, o => o == .lt
  | .lessEqual, o => o != .gt
  | .equal, o => o == .eq
  | .notEqual, o => o != .eq
  | .greater, o => o == .gt
  | .greaterEqual, o => o != .lt

/-- The relation that holds between two swapped sides. -/
def swap : Relation → Relation
  | .less => .greater
  | .lessEqual => .greaterEqual
  | .equal => .equal
  | .notEqual => .notEqual
  | .greater => .less
  | .greaterEqual => .lessEqual

/-- The relation that holds exactly when this one does not. -/
def complement : Relation → Relation
  | .less => .greaterEqual
  | .lessEqual => .greater
  | .equal => .notEqual
  | .notEqual => .equal
  | .greater => .lessEqual
  | .greaterEqual => .less

@[simp] theorem holds_swap (r : Relation) (o : Ordering) : r.swap.holds o.swap = r.holds o := by
  cases r <;> cases o <;> rfl

@[simp] theorem holds_complement (r : Relation) (o : Ordering) :
    r.complement.holds o = !r.holds o := by
  cases r <;> cases o <;> rfl

end Relation

/-- A relation between binary64 numbers; with one that is not a number only `notEqual` holds. -/
def Binary64.compares (r : Relation) (x y : Option Int) : Bool :=
  match x, y with
  | some a, some b => r.holds (compare a b)
  | _, _ => r == .notEqual

end TargetedConfig
