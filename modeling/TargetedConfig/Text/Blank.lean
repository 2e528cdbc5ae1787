import TargetedConfig.Text.Range

/-!
# Blank characters

`isSpace` holds of the characters that separate words, `isWhitespace` of the smaller class that
leaves out the four information separators. `trim` takes a class of blanks off a text.
-/

namespace TargetedConfig.Text

def whitespaceRanges : List (Nat × Nat) :=
  [(0x9, 0xd), (0x20, 0x20), (0x85, 0x85), (0xa0, 0xa0), (0x1680, 0x1680), (0x2000, 0x200a),
   (0x2028, 0x2029), (0x202f, 0x202f), (0x205f, 0x205f), (0x3000, 0x3000)]

def isWhitespace (code : Nat) : Bool := inRanges whitespaceRanges code

/-- A blank or one of the information separators. -/
def isSpace (code : Nat) : Bool := (0x1c ≤ code && code ≤ 0x1f) || isWhitespace code

/-- Space, tab, line feed, vertical tab, form feed and carriage return. -/
def isAsciiSpace (code : Nat) : Bool := (0x9 ≤ code && code ≤ 0xd) || code == 0x20

/-- Removes the characters of a class from both ends. -/
def trim (p : Char → Bool) (text : List Char) : List Char :=
  ((text.dropWhile p).reverse.dropWhile p).reverse

end TargetedConfig.Text
