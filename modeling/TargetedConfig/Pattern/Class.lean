import TargetedConfig.Text.Blank
import TargetedConfig.Text.Case
import TargetedConfig.Text.Digit
import TargetedConfig.Text.Word

/-!
# Tests of one character

The parts of a pattern that consume exactly one character: literals, the dot and bracketed sets.
What they accept depends on the `Mode` in force. Without regard to case a character stands for its
lower case letter and for the other lower case letters with the same capital.
-/

namespace TargetedConfig.Pattern

/-- The settings under which a part of a pattern is matched. -/
structure Mode where
  ignoreCase : Bool
  /-- `^` and `$` also match at line feeds. -/
  multiLine : Bool
  /-- The dot also matches a line feed. -/
  dotAll : Bool
  /-- Categories and letter case look at ASCII characters only. -/
  ascii : Bool
  deriving DecidableEq

inductive Category where
  | digit
  | space
  | word
  deriving DecidableEq

def Category.contains (ascii : Bool) : Category → Nat → Bool
  | .digit, code => if ascii then 0x30 ≤ code && code ≤ 0x39 else Text.isDecimalDigit code
  | .space, code => if ascii then Text.isAsciiSpace code else Text.isSpace code
  | .word, code => if ascii then Text.isAsciiWord code else Text.isWord code

namespace Mode

def lower (m : Mode) (code : Nat) : Nat :=
  if m.ascii then Text.asciiLower code else Text.lower code

def isCased (m : Mode) (code : Nat) : Bool :=
  if m.ascii then Text.isAsciiCased code else Text.isCased code

def casedWithin (m : Mode) (low high : Nat) : Bool :=
  if m.ascii then Text.asciiCasedWithin low high else Text.casedWithin low high

/-- The code points with a given lower case letter. -/
def sources (m : Mode) (code : Nat) : List Nat :=
  if m.ascii then Text.asciiLowerSources code else Text.lowerSources code

/-- The other lower case letters with the capital of the given one. -/
def variants (m : Mode) (code : Nat) : List Nat :=
  if m.ascii then [] else Text.lowerVariants code

end Mode

inductive Member where
  | single (code : Nat)
  | range (low high : Nat)
  | category (c : Category) (negated : Bool)
  deriving DecidableEq

namespace Member

def lastBasic : Nat := 0xffff

/-- Membership of a code point as it stands. -/
def holds (m : Mode) : Member → Nat → Bool
  | .single c, code => code == c
  | .range low high, code => low ≤ code && code ≤ high
  | .category c negated, code => (c.contains m.ascii code) != negated

/-- Whether letter case can matter to the member. Beyond the basic plane it always does. -/
def isCased (m : Mode) : Member → Bool
  | .single c => lastBasic < c || m.isCased c
  | .range low high => lastBasic < high || m.casedWithin low high
  | .category _ _ => false

/-- Membership of a lower case letter without regard to case. Beyond the basic plane a single
character stands for itself alone, and a range is tried with the letter and with its capital. -/
def holdsFolded (m : Mode) : Member → Nat → Bool
  | .single c, code =>
    if lastBasic < c then code == c
    else code == m.lower c || (m.variants (m.lower c)).contains code
  | .range low high, code =>
    ((code :: m.variants code).any fun letter =>
      (m.sources letter).any fun c => low ≤ c && c ≤ high && c ≤ lastBasic) ||
    (lastBasic < high &&
      ((low ≤ code && code ≤ high) || (low ≤ Text.upper code && Text.upper code ≤ high)))
  | .category c negated, code => (c.contains m.ascii code) != negated

end Member

inductive CharTest where
  | literal (code : Nat) (negated : Bool)
  | any
  | set (members : List Member) (negated : Bool)
  deriving DecidableEq

namespace CharTest

/-- Whether a character is the given one, up to case where the mode says so. -/
def sameLetter (m : Mode) (c code : Nat) : Bool :=
  if m.ignoreCase && m.isCased c then
    m.lower code == m.lower c || (m.variants (m.lower c)).contains (m.lower code)
  else code == c

/-- Whether a set has a character, up to case where the mode says so. -/
def inSet (m : Mode) (members : List Member) (code : Nat) : Bool :=
  if m.ignoreCase && members.any (·.isCased m) then
    members.any (·.holdsFolded m (m.lower code))
  else members.any (·.holds m code)

/-- Whether letter case can matter to the test. -/
def isCased (m : Mode) : CharTest → Bool
  | .literal c _ => m.ignoreCase && m.isCased c
  | .any => false
  | .set members _ => m.ignoreCase && members.any (·.isCased m)

/-- Whether the test stands for a set of letters on account of their case. -/
def isFolded (m : Mode) : CharTest → Bool
  | .literal c _ => m.ignoreCase && m.isCased c && !(m.variants (m.lower c)).isEmpty
  | .any => false
  | .set members _ => m.ignoreCase && members.any (·.isCased m)

def accepts (m : Mode) : CharTest → Char → Bool
  | .literal c negated, x => sameLetter m c x.toNat != negated
  | .any, x => m.dotAll || x != '\n'
  | .set members negated, x => inSet m members x.toNat != negated

end CharTest

end TargetedConfig.Pattern
