import TargetedConfig.Text.Integer

/-!
# Versions

A version is up to five numbers with dots between them. `Version.order` compares two lists of
segments, whatever their lengths: missing segments count as zero.
-/

namespace TargetedConfig.Version

def maxSegments : Nat := 5

/-- A segment: ASCII digits, at most as many as an integer may have. -/
def segment? (text : List Char) : Option Nat :=
  if text.isEmpty || !text.all Char.isDigit || Text.maxDigits < text.length then none
  else some (Nat.ofDigitChars 10 text 0)

def splitDots : List Char → List (List Char)
  | [] => [[]]
  | c :: rest =>
    if c = '.' then [] :: splitDots rest
    else
      match splitDots rest with
      | piece :: pieces => (c :: piece) :: pieces
      | [] => [[c]]

def parse? (text : String) : Option (List Nat) :=
  let pieces := splitDots text.toList
  if maxSegments < pieces.length then none else pieces.mapM segment?

def order : List Int → List Int → Ordering
  | [], [] => .eq
  | a :: as, [] => (compare a 0).then (order as [])
  | [], b :: bs => (compare 0 b).then (order [] bs)
  | a :: as, b :: bs => (compare a b).then (order as bs)

def compareSegments (v w : List Nat) : Ordering :=
  order (v.map Int.ofNat) (w.map Int.ofNat)

end TargetedConfig.Version
