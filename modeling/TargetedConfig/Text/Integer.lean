import TargetedConfig.Text.Blank
import TargetedConfig.Text.Digit

/-!
# Integers in text

An integer is an optional sign and decimal digits of any script, at most 4300 of them. `digits?`
reads bare digits, and `looseInteger?` an integer with blanks at its ends and single underscores
between its digits. `ofInteger?` writes an integer within the same limit.
-/

namespace TargetedConfig.Text

def maxDigits : Nat := 4300

/-- Folds digits into a number, most significant first. -/
def ofDigits (digits : List Nat) : Nat := digits.foldl (fun n d => 10 * n + d) 0

/-- The number that one or more digits denote. -/
def digits? (text : List Char) : Option Nat :=
  if text.isEmpty || maxDigits < text.length then none
  else (text.mapM fun c => digitValue? c.toNat).map ofDigits

/-- Drops underscores that stand between two other characters; `none` if one stands elsewhere. -/
def dropSeparators : List Char → Option (List Char)
  | [] => some []
  | ['_'] => none
  | '_' :: '_' :: _ => none
  | c :: '_' :: d :: rest =>
    if c = '_' ∨ d = '_' then none else (dropSeparators (d :: rest)).map (c :: ·)
  | c :: rest => if c = '_' then none else (dropSeparators rest).map (c :: ·)

/-- An integer with blanks at its ends and underscores between its digits. The information
separators are no such blanks. -/
def looseInteger? (text : List Char) : Option Int :=
  match trim (fun c => isWhitespace c.toNat) text with
  | '-' :: rest => ((dropSeparators rest).bind digits?).map fun n : Nat => -(n : Int)
  | '+' :: rest => ((dropSeparators rest).bind digits?).map fun n : Nat => (n : Int)
  | rest => ((dropSeparators rest).bind digits?).map fun n : Nat => (n : Int)

/-- The decimal text of an integer, unless it has too many digits. -/
def ofInteger? (n : Int) : Option String :=
  if maxDigits < (Nat.toDigits 10 n.natAbs).length then none else some (toString n)

end TargetedConfig.Text
