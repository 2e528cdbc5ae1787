import Mathlib.Order.Lattice
import Mathlib.Order.Monotone.Basic
import TargetedConfig.Relation

/-!
# What order relations mean

Relations are decided from an `Ordering`. When this is the ordering of two members of a linear
order, a relation holds exactly when these members stand in it.
-/

namespace TargetedConfig.Relation

def Relates {α : Type*} [LT α] [LE α] : Relation → α → α → Prop
  | .less, a, b => a < b
  | .lessEqual, a, b => a ≤ b
  | .equal, a, b => a = b
  | .notEqual, a, b => a ≠ b
  | .greater, a, b => b < a
  | .greaterEqual, a, b => b ≤ a

theorem holds_iff_relates {α : Type*} [LinearOrder α] {o : Ordering} {a b : α} (h : o.Compares a b)
    (r : Relation) : r.holds o = true ↔ r.Relates a b := by
  cases r with
  | less => simpa [holds, Relates] using h.eq_lt
  | lessEqual => simpa [holds, Relates] using h.ne_gt
  | equal => simpa [holds, Relates] using h.eq_eq
  | notEqual => simpa [holds, Relates] using not_congr h.eq_eq
  | greater => simpa [holds, Relates] using h.eq_gt
  | greaterEqual => simpa [holds, Relates] using h.ne_lt

theorem holds_compare {α : Type*} [LinearOrder α] (r : Relation) (a b : α) :
    r.holds (compare a b) = true ↔ r.Relates a b :=
  holds_iff_relates ((compare_iff a b).1 rfl) r

instance {α : Type*} [LinearOrder α] (r : Relation) (a b : α) : Decidable (r.Relates a b) :=
  decidable_of_iff _ (holds_compare r a b)

/-- A strictly monotone map keeps every relation. -/
theorem relates_map_iff {α β : Type*} [LinearOrder α] [Preorder β] {f : α → β} (hf : StrictMono f)
    (r : Relation) (a b : α) : r.Relates (f a) (f b) ↔ r.Relates a b := by
  cases r with
  | less => exact hf.lt_iff_lt
  | lessEqual => exact hf.le_iff_le
  | equal => exact hf.injective.eq_iff
  | notEqual => exact hf.injective.ne_iff
  | greater => exact hf.lt_iff_lt
  | greaterEqual => exact hf.le_iff_le

/-- Of two things one is less, or they are equal, or one is greater, and only one of these. -/
theorem existsUnique_holds (o : Ordering) :
    ∃! r, r ∈ [Relation.less, .equal, .greater] ∧ r.holds o = true := by
  cases o with
  | lt => exact ⟨.less, by decide, by rintro (_ | _) <;> simp [holds]⟩
  | eq => exact ⟨.equal, by decide, by rintro (_ | _) <;> simp [holds]⟩
  | gt => exact ⟨.greater, by decide, by rintro (_ | _) <;> simp [holds]⟩

end TargetedConfig.Relation
