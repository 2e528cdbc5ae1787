/-!
# Tables of character names

A table lists the names of characters in the order of their code points. An entry begins with a
letter for the number of characters that its name has in common with the one before, and goes on
with the others. Entries count up; an at sign, a code point in hexadecimal and a semicolon say that
the next entry belongs to this code point. Line feeds do not count.
-/

namespace TargetedConfig.Text.Name

/-- The letters that begin an entry, in the order of the numbers they stand for. -/
def shares : List Char := "abcdefghijklmnopqrstuvwxyz!$%&+,.<>?^_|~".toList

/-- A reader of a table that looks for one name. -/
structure Scan where
  /-- The code point of the name being read. -/
  code : Nat := 0
  /-- What has been read of the name, latest first. -/
  name : List Char := []
  /-- The code point of the next entry. -/
  next : Nat := 0
  /-- A code point is being read. -/
  jumping : Bool := false
  found : Option Nat := none

namespace Scan

/-- Finishes a name and compares it with the one that is looked for, which is given latest first. -/
def finish (s : Scan) (target : List Char) : Scan :=
  if s.found.isNone && s.name == target then { s with found := some s.code } else s

/-- The value of a hexadecimal digit in upper case. -/
def hexDigit (c : Char) : Nat :=
  if c.isDigit then c.toNat - '0'.toNat else c.toNat - 'A'.toNat + 10

def step (target : List Char) (s : Scan) (c : Char) : Scan :=
  if c = '\n' then s
  else if s.jumping then
    if c = ';' then { s with jumping := false } else { s with next := 16 * s.next + hexDigit c }
  else if c.isUpper || c.isDigit || c = ' ' || c = '-' then { s with name := c :: s.name }
  else
    let s := s.finish target
    if c = '@' then { s with jumping := true, next := 0 }
    else
      { s with
        code := s.next
        next := s.next + 1
        name := s.name.drop (s.name.length - shares.idxOf c) }

end Scan

def find? (name : List Char) (table : String) : Option Nat :=
  let target := name.reverse
  ((table.foldl (Scan.step target) {}).finish target).found

end TargetedConfig.Text.Name
