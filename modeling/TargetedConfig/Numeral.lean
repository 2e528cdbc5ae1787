import TargetedConfig.Binary64.Decimal

/-!
# How numbers are written

All three texts of a binary64 number show its shortest digits and differ only in layout: where
positional notation ends and how an exponent looks. A `Numeral` is such a layout; the three values
of the library are `Numeral.signal`, `Numeral.version` and `Numeral.json`.
-/

namespace TargetedConfig

structure Numeral where
  /-- The least power of ten of the first digit that is written positionally. -/
  positionalFrom : Int
  /-- From this power of ten on numbers are written with an exponent. -/
  positionalBelow : Int
  exponentMark : Char
  /-- Positive exponents carry a plus sign. -/
  exponentPlus : Bool
  /-- The least number of exponent digits. -/
  exponentWidth : Nat
  /-- A single digit before an exponent is followed by `.0`. -/
  mantissaPoint : Bool
  nan : String
  infinity : String

namespace Numeral

/-- Signals write magnitudes in [1e-3, 1e7) positionally, others such as `1.0E10`. -/
def signal : Numeral := ⟨-3, 7, 'E', false, 1, true, "NaN", "Infinity"⟩

/-- Version numbers write magnitudes in [1e-4, 1e16) positionally, others such as `1e-07`. -/
def version : Numeral := ⟨-4, 16, 'e', true, 2, false, "nan", "inf"⟩

/-- Serialised numbers write magnitudes in [1e-5, 1e16) positionally, others such as `1e-7`;
the format has no text for other numbers than finite ones and writes them as null. -/
def json : Numeral := ⟨-5, 16, 'e', true, 1, false, "null", "null"⟩

/-- Digits around a decimal point, with at least one on either side. -/
def positional (digits : List Char) (magnitude : Int) : List Char :=
  match magnitude with
  | .ofNat m =>
    if digits.length ≤ m + 1 then
      digits ++ List.replicate (m + 1 - digits.length) '0' ++ ['.', '0']
    else digits.take (m + 1) ++ '.' :: digits.drop (m + 1)
  | .negSucc m => '0' :: '.' :: (List.replicate m '0' ++ digits)

/-- One digit, the others after a point, and the exponent. -/
def scientific (layout : Numeral) (digits : List Char) (magnitude : Int) : List Char :=
  let fraction := digits.drop 1
  let mantissa :=
    digits.take 1 ++
      if fraction.isEmpty then (if layout.mantissaPoint then ['.', '0'] else [])
      else '.' :: fraction
  let exponent := Nat.toDigits 10 magnitude.natAbs
  let sign := if magnitude < 0 then ['-'] else if layout.exponentPlus then ['+'] else []
  mantissa ++ layout.exponentMark :: sign ++
    List.replicate (layout.exponentWidth - exponent.length) '0' ++ exponent

/-- A decimal number, in positional notation when its first digit lies in the layout's range. -/
def writeDecimal (layout : Numeral) (d : Decimal) : List Char :=
  let m := d.magnitude
  (if d.negative then ['-'] else []) ++
    if layout.positionalFrom ≤ m ∧ m < layout.positionalBelow then positional d.digits m
    else scientific layout d.digits m

/-- A binary64 number by its shortest digits. -/
def write (layout : Numeral) : Binary64 → List Char
  | .nan => layout.nan.toList
  | .infinite negative => (if negative then ['-'] else []) ++ layout.infinity.toList
  | .finite negative units _ => writeDecimal layout (Binary64.shortest negative units)

def render (layout : Numeral) (x : Binary64) : String := String.ofList (layout.write x)

end Numeral

end TargetedConfig
