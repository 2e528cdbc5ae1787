import TargetedConfig.Template.Violation
import TargetedConfig.Text.Integer

/-!
# Integers as texts

A text in the place of an integer is first read as a plain numeral. Only if it is none it is tidied:
blanks, a plus sign, leading zeros with underscores among them, a fraction of zeros and single
underscores are dropped, and what is left must be a plain numeral. That a plain numeral is too long
is told of the text as it stands alone.
-/

namespace TargetedConfig.IntegerText

/-- What a text is as a plain numeral: an optional minus sign and digits, of which the first is a
zero only if it is the only one. -/
inductive Plain where
  | integer (n : Int)
  /-- The text starts with more digits than a numeral may have, its sign counted. -/
  | tooLong
  | malformed

def signed : List Char → Bool × List Char
  | '-' :: rest => (true, rest)
  | rest => (false, rest)

def plain (text : List Char) : Plain :=
  let (negative, rest) := signed text
  let digits := rest.takeWhile Char.isDigit
  if rest = ['0'] then .integer 0
  else if digits.isEmpty || digits.head? = some '0' then .malformed
  else if Text.maxDigits < text.length - rest.length + digits.length then .tooLong
  else if digits.length < rest.length then .malformed
  else
    let n : Int := Nat.ofDigitChars 10 digits 0
    .integer (if negative then -n else n)

/-- The text after a zero and the zeros and underscores behind it. A digit or a minus sign ends
them; a point keeps the character before it, and so does the end of the text. -/
def afterZeros (last : Char) : List Char → Option (List Char)
  | [] => some [last]
  | c :: rest =>
    if c = '0' ∨ c = '_' then afterZeros c rest
    else if c = '.' then some (last :: c :: rest)
    else if c.isDigit ∨ c = '-' then some (c :: rest)
    else none

/-- Drops leading zeros; a text must start with a digit. -/
def dropZeros : List Char → Option (List Char)
  | [] => none
  | c :: rest =>
    if c = '0' then afterZeros '0' rest else if c.isDigit then some (c :: rest) else none

/-- Drops a point and one or more zeros behind it if they end the text. -/
def dropFraction (text : List Char) : List Char :=
  match text.dropWhile (· ≠ '.') with
  | '.' :: zeros =>
    if !zeros.isEmpty && zeros.all (· = '0') then text.takeWhile (· ≠ '.') else text
  | _ => text

/-- Drops what may surround and part the digits of a numeral. -/
def tidied (text : List Char) : Option (List Char) := do
  let bare := Text.trim (fun c => Text.isWhitespace c.toNat) text
  let (negative, rest) :=
    match bare with
    | '+' :: rest => (false, rest)
    | _ => signed bare
  let digits ← dropZeros rest
  Text.dropSeparators (dropFraction ((if negative then ['-'] else []) ++ digits))

def read (text : List Char) : Checked Int :=
  match plain text with
  | .integer n => .valid n
  | .tooLong => .fail .integerSize
  | .malformed =>
    match (tidied text).map plain with
    | some (.integer n) => .valid n
    | _ => .fail .unreadableInteger

end TargetedConfig.IntegerText
