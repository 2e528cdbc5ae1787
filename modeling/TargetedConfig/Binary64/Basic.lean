/-!
# Binary64 numbers

A finite number of the format is a whole number of *units* of size `2 ^ (-1074)`, the smallest
positive value, with at most 53 significant bits. The file holds the type, its order, its bit
pattern and the rounding of a quotient to the nearest number, ties to the even neighbour.
-/

namespace TargetedConfig

-- Powers of numbers are those of the core library, whatever else is imported.
attribute [local instance (1100)] instPowNat

namespace Binary64

/-- The finite numbers lie below this power of two, in units. -/
def overflowExponent : Nat := 2098

/-- The least power of two above every finite number, in units. -/
def overflowUnits : Nat := 2 ^ overflowExponent

/-- The distance between neighbouring numbers around `units`, in units. -/
def spacing (units : Nat) : Nat := 2 ^ (units.log2 - 52)

/-- A count of units is a number of the format when it is in range and needs at most 53 bits. -/
def Representable (units : Nat) : Prop := units < overflowUnits ∧ spacing units ∣ units

instance (units : Nat) : Decidable (Representable units) :=
  inferInstanceAs (Decidable (_ ∧ _))

end Binary64

/-- A binary64 number: not a number, an infinity, or a signed count of units `2 ^ (-1074)`. -/
inductive Binary64 where
  | nan
  | infinite (negative : Bool)
  | finite (negative : Bool) (units : Nat) (fits : Binary64.Representable units)
  deriving DecidableEq

namespace Binary64

theorem representable_of_lt {units : Nat} (h : units < 2 ^ (53 : Nat)) : Representable units := by
  have he : 53 < overflowExponent := by decide
  refine ⟨Nat.lt_trans h (Nat.pow_lt_pow_right Nat.one_lt_two he), ?_⟩
  have hs : units.log2 - 52 = 0 := by
    by_cases hz : units = 0
    · simp [hz]
    · have := (Nat.log2_lt hz).2 h
      omega
  simp [spacing, hs]

/-- Zero, with a sign of its own. -/
def zero (negative : Bool) : Binary64 := .finite negative 0 (representable_of_lt (by decide))

instance : Inhabited Binary64 := ⟨zero false⟩

/-- The number of that many units; an infinity when there is none. -/
def ofUnits (negative : Bool) (units : Nat) : Binary64 :=
  if h : Representable units then .finite negative units h else .infinite negative

theorem ofUnits_of_representable {negative : Bool} {units : Nat} (h : Representable units) :
    ofUnits negative units = .finite negative units h := by
  simp [ofUnits, h]

/-- The whole number nearest to a quotient; a quotient halfway between two goes to the even one. -/
def roundDiv (num den : Nat) : Nat :=
  let quotient := num / den
  let rest := 2 * (num % den)
  if rest < den then quotient
  else if den < rest then quotient + 1
  else if quotient % 2 = 0 then quotient
  else quotient + 1

/-- The count of units nearest to `num / den` units among those with at most 53 significant bits. -/
def roundUnits (num den : Nat) : Nat :=
  let step := spacing (num / den)
  roundDiv num (den * step) * step

/-- The place of a number in the order; a number that is not a number has none, and both zeros
have the same. An infinity lies just beyond the finite numbers. -/
def rank : Binary64 → Option Int
  | .nan => none
  | .infinite negative => some (if negative then -(overflowUnits : Int) else overflowUnits)
  | .finite negative units _ => some (if negative then -(units : Int) else units)

@[simp] theorem rank_eq_none_iff {x : Binary64} : x.rank = none ↔ x = .nan := by
  cases x with
  | nan => exact ⟨fun _ => rfl, fun _ => rfl⟩
  | infinite negative => constructor <;> intro h <;> cases h
  | finite negative units fits => constructor <;> intro h <;> cases h

/-- The sixty-four bits: sign, eleven bits of exponent, fifty-two bits of fraction. -/
def bits : Binary64 → Nat
  | .nan => 0x7ff8000000000000
  | .infinite negative => signBit negative + 0x7ff0000000000000
  | .finite negative units _ =>
    let shift := units.log2 - 52
    signBit negative +
      if units < 0x10000000000000 then units
      else (shift + 1) * 0x10000000000000 + (units / 2 ^ shift - 0x10000000000000)
where
  signBit (negative : Bool) : Nat := if negative then 0x8000000000000000 else 0

/-- Equality as a comparison sees it: a number that is not a number equals nothing, and the two
zeros are equal. -/
def same (x y : Binary64) : Bool :=
  match x.rank, y.rank with
  | some a, some b => a == b
  | _, _ => false

/-- A finite number without a fractional part, as an integer. -/
def toInt? : Binary64 → Option Int
  | .finite negative units _ =>
    if units % 2 ^ (1074 : Nat) = 0 then
      let whole := units / 2 ^ (1074 : Nat)
      some (if negative then -(whole : Int) else whole)
    else none
  | _ => none

end Binary64

end TargetedConfig
