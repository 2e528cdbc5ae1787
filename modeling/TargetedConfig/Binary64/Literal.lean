import TargetedConfig.Binary64.Decimal
import TargetedConfig.Text.Blank

/-!
# Number literals

The grammar of number texts: an optional sign followed by `NaN`, `Infinity` or a decimal literal
with an optional point, exponent and type suffix. Only ASCII digits count, and characters up to
the space are ignored at both ends. `Binary64.parse?` reads a text, `Literal.read?` gives what it
denotes.
-/

namespace TargetedConfig

/-- What a number literal denotes, before rounding. -/
inductive Literal where
  | nan
  | infinity (negative : Bool)
  | decimal (value : Decimal)
  deriving DecidableEq

namespace Literal

/-- Control characters and the space, which may surround a literal. -/
def isBlank (c : Char) : Bool := c.toNat ≤ 0x20

def sign : List Char → Bool × List Char
  | '-' :: rest => (true, rest)
  | '+' :: rest => (false, rest)
  | text => (false, text)

/-- An exponent, absent or complete, and what follows it. -/
def exponent? : List Char → Option (Int × List Char)
  | c :: rest =>
    if c = 'e' ∨ c = 'E' then
      let (negative, rest) := sign rest
      let digits := rest.takeWhile Char.isDigit
      let value := Nat.ofDigitChars 10 digits 0
      if digits.isEmpty then none
      else some (if negative then -(value : Int) else value, rest.dropWhile Char.isDigit)
    else some (0, c :: rest)
  | [] => some (0, [])

/-- At most one type suffix and nothing else. -/
def isSuffix : List Char → Bool
  | [] => true
  | [c] => c = 'f' ∨ c = 'F' ∨ c = 'd' ∨ c = 'D'
  | _ => false

/-- The digits after a decimal point, if there is one, and what follows them. -/
def fraction : List Char → List Char × List Char
  | '.' :: rest => (rest.takeWhile Char.isDigit, rest.dropWhile Char.isDigit)
  | rest => ([], rest)

/-- An unsigned decimal literal with digits before or after its point. -/
def decimal? (negative : Bool) (text : List Char) : Option Decimal :=
  let whole := text.takeWhile Char.isDigit
  let (digits, rest) := fraction (text.dropWhile Char.isDigit)
  if whole.isEmpty && digits.isEmpty then none
  else
    match exponent? rest with
    | none => none
    | some (exponent, rest) =>
      if isSuffix rest then
        some ⟨negative, Nat.ofDigitChars 10 (whole ++ digits) 0, exponent - digits.length⟩
      else none

/-- A literal without surrounding blanks. -/
def read? (text : List Char) : Option Literal :=
  let (negative, rest) := sign text
  if rest = "NaN".toList then some .nan
  else if rest = "Infinity".toList then some (.infinity negative)
  else (decimal? negative rest).map .decimal

/-- The number nearest to what a literal denotes. -/
def toBinary64 : Literal → Binary64
  | .nan => .nan
  | .infinity negative => .infinite negative
  | .decimal value => .ofDecimal value

end Literal

/-- Reads a number literal between blanks. -/
def Binary64.parse? (text : String) : Option Binary64 :=
  (Literal.read? (Text.trim Literal.isBlank text.toList)).map Literal.toBinary64

end TargetedConfig
