import TargetedConfig.Text.Printable

/-!
# Quoted text

Strings inside the text of a value stand in single quotes, or in double quotes if they have single
quotes and no double ones. Backslashes, the enclosing quote and what is not printable are escaped.
-/

namespace TargetedConfig.Text

def quoteFor (text : List Char) : Char :=
  if text.contains '\'' && !text.contains '"' then '"' else '\''

/-- Hexadecimal digits, at least as many as given. -/
def hexText (width n : Nat) : List Char :=
  let digits := Nat.toDigits 16 n
  List.replicate (width - digits.length) '0' ++ digits

/-- The escape of a code in two, four or eight hexadecimal digits. -/
def escapedCode (code : Nat) : List Char :=
  if code ≤ 0xff then '\\' :: 'x' :: hexText 2 code
  else if code ≤ 0xffff then '\\' :: 'u' :: hexText 4 code
  else '\\' :: 'U' :: hexText 8 code

def quotedChar (quote c : Char) : List Char :=
  if c = quote ∨ c = '\\' then ['\\', c]
  else if c = '\n' then ['\\', 'n']
  else if c = '\r' then ['\\', 'r']
  else if c = '\t' then ['\\', 't']
  else if isPrintable c.toNat then [c]
  else escapedCode c.toNat

def quoted (text : String) : String :=
  let quote := quoteFor text.toList
  String.ofList (quote :: (text.toList.flatMap (quotedChar quote) ++ [quote]))

end TargetedConfig.Text
