import TargetedConfig.Binary64.Basic

/-!
# Decimal numbers and the binary64 numbers next to them

`Decimal` is a sign, a coefficient and a power of ten. `Binary64.ofDecimal` is the nearest number of
the format, `Binary64.shortest` the decimal with the fewest digits that reads back.
-/

namespace TargetedConfig

-- Powers of numbers are those of the core library, whatever else is imported.
attribute [local instance (1100)] instPowNat

/-- The decimal number `± coefficient * 10 ^ exponent`. -/
structure Decimal where
  negative : Bool
  coefficient : Nat
  exponent : Int
  deriving DecidableEq, Repr

namespace Decimal

def digits (d : Decimal) : List Char := Nat.toDigits 10 d.coefficient

/-- The power of ten of the first digit. -/
def magnitude (d : Decimal) : Int := d.exponent + d.digits.length - 1

/-- Moves factors ten of the coefficient into the exponent. -/
def stripZeros (negative : Bool) (coefficient : Nat) (exponent : Int) : Decimal :=
  if h : coefficient ≠ 0 ∧ coefficient % 10 = 0 then
    stripZeros negative (coefficient / 10) (exponent + 1)
  else ⟨negative, coefficient, exponent⟩
termination_by coefficient
decreasing_by omega

end Decimal

namespace Binary64

/-- The count of units nearest to `coefficient * 10 ^ exponent`. -/
def decimalUnits (coefficient : Nat) (exponent : Int) : Nat :=
  match exponent with
  | .ofNat e => roundUnits (coefficient * 10 ^ e * 2 ^ (1074 : Nat)) 1
  | .negSucc e => roundUnits (coefficient * 2 ^ (1074 : Nat)) (10 ^ (e + 1))

/-- The number nearest to a decimal, ties to even. Decimals of magnitude above 309 overflow and
those below -330 vanish whatever their digits, so their powers of ten are never formed. -/
def ofDecimal (d : Decimal) : Binary64 :=
  if d.coefficient = 0 then zero d.negative
  else if 309 < d.magnitude then .infinite d.negative
  else if d.magnitude < -330 then zero d.negative
  else ofUnits d.negative (decimalUnits d.coefficient d.exponent)

/-- The number of digits before the point of a positive count of units; zero or negative when the
first digit stands after it. -/
def pointPosition (units : Nat) : Int :=
  (Nat.toDigits 10 (units * 10 ^ (400 : Nat) / 2 ^ (1074 : Nat))).length - 400

/-- `units` as a quotient in steps of `10 ^ exponent`. -/
def inSteps (units : Nat) (exponent : Int) : Nat × Nat :=
  match exponent with
  | .ofNat e => (units, 2 ^ (1074 : Nat) * 10 ^ e)
  | .negSucc e => (units * 10 ^ (e + 1), 2 ^ (1074 : Nat))

/-- Of the two neighbours of a number on the grid of multiples of `10 ^ exponent` the one that
reads back; of two that do the nearer, and the even one of two equally near. -/
def nearestOnGrid (units : Nat) (exponent : Int) : Option Nat :=
  let (num, den) := inSteps units exponent
  let low := num / den
  let lowReads := decimalUnits low exponent = units
  let highReads := decimalUnits (low + 1) exponent = units
  if lowReads ∧ highReads then some (roundDiv num den)
  else if lowReads then some low
  else if highReads then some (low + 1)
  else none

/-- The first hit on the grids of `count` digits and more, at most seventeen. -/
def firstHit (units : Nat) (point : Int) (count : Nat) : Option (Nat × Int) :=
  if count ≤ 17 then
    match nearestOnGrid units (point - count) with
    | some c => some (c, point - count)
    | none => firstHit units point (count + 1)
  else none
termination_by 18 - count

/-- The decimal with the fewest digits that reads back as the number, the nearest of them to it.
Were there none of at most seventeen digits, the exact decimal is the answer. -/
def shortest (negative : Bool) (units : Nat) : Decimal :=
  if units = 0 then ⟨negative, 0, 0⟩
  else
    match firstHit units (pointPosition units) 1 with
    | some (c, e) => Decimal.stripZeros negative c e
    | none => Decimal.stripZeros negative (units * 5 ^ (1074 : Nat)) (-1074)

end Binary64

end TargetedConfig
