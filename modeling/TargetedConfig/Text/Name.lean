import TargetedConfig.Text.Name.Alias
import TargetedConfig.Text.Name.Ancient
import TargetedConfig.Text.Name.Asian
import TargetedConfig.Text.Name.European
import TargetedConfig.Text.Name.Forms
import TargetedConfig.Text.Name.Pictographs
import TargetedConfig.Text.Name.Scripts
import TargetedConfig.Text.Name.Signs
import TargetedConfig.Text.Name.Symbols
import TargetedConfig.Text.Name.Table
import TargetedConfig.Text.Range

/-!
# Characters by name

`ofName?` finds the code point that a name stands for. Syllables of Hangul and ideographs have names
that follow a rule, all others stand in tables. Letter case does not count in the tables, but it
does in the names of syllables and unified ideographs.
-/

namespace TargetedConfig.Text

namespace Name

def after? (start : String) (name : List Char) : Option (List Char) :=
  if start.toList.isPrefixOf name then some (name.drop start.length) else none

/-- Initial, medial and final letters of syllables. -/
def initials : List String :=
  ["G", "GG", "N", "D", "DD", "R", "M", "B", "BB", "S", "SS", "", "J", "JJ", "C", "K", "T", "P",
   "H"]

def medials : List String :=
  ["A", "AE", "YA", "YAE", "EO", "E", "YEO", "YE", "O", "WA", "WAE", "OE", "YO", "U", "WEO", "WE",
   "WI", "YU", "EU", "YI", "I"]

def finals : List String :=
  ["", "G", "GG", "GS", "N", "NJ", "NH", "D", "L", "LG", "LM", "LB", "LS", "LT", "LP", "LH", "M",
   "B", "BS", "S", "SS", "NG", "J", "C", "K", "T", "P", "H"]

/-- The number of the longest letter that a name starts with, and what follows it. -/
def longest? (letters : List String) (name : List Char) : Option (Nat × List Char) :=
  let fitting := letters.filter fun l => l.toList.isPrefixOf name
  match fitting with
  | [] => none
  | l :: rest =>
    let best := rest.foldl (fun best l => if best.length < l.length then l else best) l
    some (letters.idxOf best, name.drop best.length)

/-- The syllable of three letters. -/
def syllable? (name : List Char) : Option Nat := do
  let (initial, name) ← longest? initials name
  let (medial, name) ← longest? medials name
  let (final, name) ← longest? finals name
  if name.isEmpty then
    some (0xac00 + (initial * medials.length + medial) * finals.length + final)
  else none

def unified : List (Nat × Nat) :=
  [(0x3400, 0x4dbf), (0x4e00, 0x9fff), (0x20000, 0x2a6df), (0x2a700, 0x2b738), (0x2b740, 0x2b81d),
   (0x2b820, 0x2cea1), (0x2ceb0, 0x2ebe0), (0x30000, 0x3134a)]

/-- The code points of ideographs that stand for a unified one. -/
def compatible : List (Nat × Nat) := [(0xf900, 0xfa6d), (0xfa70, 0xfad9), (0x2f800, 0x2fa1d)]

/-- The code point in some ranges that is written with four or five hexadecimal digits. -/
def ideograph? (ranges : List (Nat × Nat)) (digits : List Char) : Option Nat :=
  let code := digits.foldl (fun n c => 16 * n + Scan.hexDigit c) 0
  if (digits.length = 4 ∨ digits.length = 5) ∧
      digits.all (fun c => c.isDigit || ('A' ≤ c && c ≤ 'F')) ∧
      inRanges ranges code then some code
  else none

def tables : List String :=
  [european, symbols, scripts, asian, forms, pictographs, signs, ancient, aliases]

end Name

open Name in
def ofName? (name : List Char) : Option Nat :=
  match after? "HANGUL SYLLABLE " name with
  | some letters => syllable? letters
  | none =>
    match after? "CJK UNIFIED IDEOGRAPH-" name with
    | some digits => ideograph? unified digits
    | none =>
      let name := name.map Char.toUpper
      match after? "CJK COMPATIBILITY IDEOGRAPH-" name with
      | some digits => if digits.head? = some '0' then none else ideograph? compatible digits
      | none => tables.findSome? (find? name)

end TargetedConfig.Text
