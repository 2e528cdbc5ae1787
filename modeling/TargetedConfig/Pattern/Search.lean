import TargetedConfig.Pattern.Basic

/-!
# Places and marks of a search

A search walks over a text with a `Cursor` and notes in `Marks` where groups begin and end. A
`Search` is what it carries along: the marks, and the place it last set out from. That place
outlives a failure; a possessive repetition goes on from it when its last round fails.
-/

namespace TargetedConfig.Pattern

/-- A place in a text: the characters before it, nearest first, and those after it. -/
structure Cursor where
  past : List Char
  ahead : List Char

namespace Cursor

def remaining (c : Cursor) : Nat := c.ahead.length

/-- The cursor some characters back; `none` before the start of the text. -/
def back? : Nat → Cursor → Option Cursor
  | 0, c => some c
  | n + 1, c =>
    match c.past with
    | [] => none
    | x :: past => back? n ⟨past, x :: c.ahead⟩

/-- The cursor one character back; the start of the text stays where it is. -/
def previous (c : Cursor) : Cursor := (c.back? 1).getD c

/-- The number of characters of a class ahead, at most `most`, and the cursor after them. -/
def advance (accepts : Char → Bool) (most : Nat) (count : Nat) (past : List Char) :
    List Char → Nat × Cursor
  | [] => (count, ⟨past, []⟩)
  | x :: rest =>
    if count < most && accepts x then advance accepts most (count + 1) (x :: past) rest
    else (count, ⟨past, x :: rest⟩)

end Cursor

/-- Where groups begin and end, as the text ahead of these places: two entries for each group, in
the order of groups. Places beyond the last entry are not known. -/
abbrev Marks := List (Option (List Char))

namespace Marks

/-- Notes a place at an index; places before it that are not known stay unknown. -/
def put (m : Marks) (index : Nat) (c : Cursor) : Marks :=
  if index < m.length then m.set index (some c.ahead)
  else m ++ List.replicate (index - m.length) none ++ [some c.ahead]

def enter (m : Marks) (group : Nat) (c : Cursor) : Marks := m.put (2 * (group - 1)) c

def leave (m : Marks) (group : Nat) (c : Cursor) : Marks := m.put (2 * (group - 1) + 1) c

/-- Both places of a group, if both are known. -/
def places? (m : Marks) (group : Nat) : Option (List Char × List Char) :=
  match m[2 * (group - 1)]?.join, m[2 * (group - 1) + 1]?.join with
  | some start, some finish => some (start, finish)
  | _, _ => none

/-- Whether the end of a group lies before its beginning, as it may in a group that has been entered
anew. -/
def crossed (m : Marks) (group : Nat) : Bool :=
  (m.places? group).any fun (start, finish) => start.length < finish.length

/-- The text of a group, unless its end lies before its beginning. -/
def text? (m : Marks) (group : Nat) : Option (List Char) :=
  match m.places? group with
  | some (start, finish) =>
    if start.length < finish.length then none
    else some (start.take (start.length - finish.length))
  | none => none

end Marks

structure Search where
  marks : Marks
  /-- The place the search last set out from. -/
  outset : Cursor

namespace Search

def setOut (s : Search) (c : Cursor) : Search := { s with outset := c }

/-- A search that returns from a way which failed. Marks that were not known before are forgotten;
those that were known get their places back if `whole`, and otherwise stay where the way has put
them. -/
def restore (after : Search) (whole : Bool) (before : Search) : Search :=
  { after with marks := if whole then before.marks else after.marks.take before.marks.length }

end Search

/-- Whether a search has succeeded, and what it carries. -/
abbrev Verdict := Bool × Search

namespace Verdict

/-- After a failure sets out from a given place. -/
@[inline] def resettled (v : Verdict) (c : Cursor) : Verdict :=
  match v with
  | (true, s) => (true, s)
  | (false, s) => (false, s.setOut c)

@[inline] def orElse (v : Verdict) (other : Search → Verdict) : Verdict :=
  match v with
  | (true, s) => (true, s)
  | (false, s) => other s

end Verdict

/-- What is left to match from a place on. -/
abbrev Rest := Cursor → Search → Verdict

/-- Ways to match: tried in order from a place, until the rest matches after one of them. -/
abbrev Matcher := Cursor → Search → Rest → Verdict

/-- The first way of a matcher, with nothing left to match. -/
def Matcher.first (f : Matcher) (c : Cursor) (s : Search) : Verdict :=
  f c s fun c' s' => (true, s'.setOut c')

end TargetedConfig.Pattern
