import TargetedConfig.Pattern.Class

/-!
# Patterns

The tree of a pattern. `Pattern.width` bounds the number of characters that a match takes, which a
look-behind needs to be fixed.
-/

namespace TargetedConfig

namespace Pattern

inductive Anchor where
  /-- `^`: the start of the text, or of a line. -/
  | start
  /-- `$`: the end of the text, before a line feed there, or the end of a line. -/
  | finish
  | textStart
  | textFinish
  | boundary (negated : Bool)
  deriving DecidableEq

inductive Greed where
  | greedy
  | lazy
  /-- As many as possible, and never reconsidered. -/
  | possessive
  deriving DecidableEq

structure Flags where
  ignoreCase : Bool := false
  multiLine : Bool := false
  dotAll : Bool := false
  verbose : Bool := false
  ascii : Bool := false
  unicode : Bool := false
  template : Bool := false
  deriving DecidableEq

namespace Flags

def union (f g : Flags) : Flags :=
  ⟨f.ignoreCase || g.ignoreCase, f.multiLine || g.multiLine, f.dotAll || g.dotAll,
    f.verbose || g.verbose, f.ascii || g.ascii, f.unicode || g.unicode, f.template || g.template⟩

def meets (f g : Flags) : Bool :=
  (f.ignoreCase && g.ignoreCase) || (f.multiLine && g.multiLine) || (f.dotAll && g.dotAll) ||
    (f.verbose && g.verbose) || (f.ascii && g.ascii) || (f.unicode && g.unicode) ||
    (f.template && g.template)

def toMode (f : Flags) : Mode := ⟨f.ignoreCase, f.multiLine, f.dotAll, f.ascii⟩

end Flags

/-- The mode inside a group that switches settings on and off. -/
def Mode.switch (m : Mode) (on off : Flags) : Mode :=
  ⟨(m.ignoreCase || on.ignoreCase) && !off.ignoreCase,
    (m.multiLine || on.multiLine) && !off.multiLine,
    (m.dotAll || on.dotAll) && !off.dotAll,
    if on.unicode then false else m.ascii || on.ascii⟩

end Pattern

open Pattern in
/-- A pattern. Groups are numbered from one. -/
inductive Pattern where
  | empty
  /-- What matches nowhere. -/
  | never
  | char (test : CharTest)
  | anchor (place : Anchor)
  /-- The text that a group has captured. -/
  | backref (group : Nat)
  | capture (group : Nat) (body : Pattern)
  | switch (on off : Flags) (body : Pattern)
  | sequence (first rest : Pattern)
  | choice (first rest : Pattern)
  | repeated (greed : Greed) (least : Nat) (most : Option Nat) (body : Pattern)
  /-- Looks at what follows, or at what lies `width` characters behind, without consuming it. -/
  | look (behind : Option Nat) (negated : Bool) (body : Pattern)
  | atomic (body : Pattern)
  /-- Chooses by whether a group has captured a text. -/
  | conditional (group : Nat) (yes no : Pattern)

namespace Pattern

def ofParts (parts : List Pattern) : Pattern := parts.foldr .sequence .empty

/-- Alternatives, the first that fits first. -/
def ofAlternatives : List (List Pattern) → Pattern
  | [] => .empty
  | [parts] => ofParts parts
  | parts :: rest => .choice (ofParts parts) (ofAlternatives rest)

def sameLeaf : Pattern → Pattern → Bool
  | .char s, .char t => s == t
  | .anchor a, .anchor b => a == b
  | .backref g, .backref h => g == h
  | .never, .never => true
  | _, _ => false

/-- The least and the greatest number of characters of a match; no greatest number if unbounded. -/
abbrev Width := Nat × Option Nat

namespace Width

def zero : Width := (0, some 0)

def add (v w : Width) : Width := (v.1 + w.1, v.2.bind fun a => w.2.map (a + ·))

def either (v w : Width) : Width := (min v.1 w.1, v.2.bind fun a => w.2.map (max a ·))

def times (w : Width) (least : Nat) (most : Option Nat) : Width :=
  (w.1 * least,
    match w.2, most with
    | some 0, _ => some 0
    | _, some 0 => some 0
    | some a, some n => some (a * n)
    | _, _ => none)

/-- The greatest width that can be told from a greater one. -/
def greatest : Nat := 0xfffffffe

/-- The number of characters if there is only one possibility. -/
def fixed? (w : Width) : Option Nat :=
  if w.1 ≤ greatest ∧ w.2 = some w.1 then some w.1 else none

end Width

/-- The width of a pattern, given those of the groups that it refers to. -/
def width (groups : List (Option Width)) : Pattern → Width
  | .empty => .zero
  | .never => .zero
  | .char _ => (1, some 1)
  | .anchor _ => .zero
  | .backref g => ((groups[g - 1]?).join).getD .zero
  | .capture _ body => body.width groups
  | .switch _ _ body => body.width groups
  | .sequence first rest => (first.width groups).add (rest.width groups)
  | .choice first rest => (first.width groups).either (rest.width groups)
  | .repeated _ least most body => (body.width groups).times least most
  | .look _ _ _ => .zero
  | .atomic body => body.width groups
  | .conditional _ yes no => (yes.width groups).either (no.width groups)

inductive Lead where
  /-- Nothing: what follows the pattern is asked for first. -/
  | nothing
  | char (mode : Mode) (test : CharTest)
  | other

def lead (mode : Mode) : Pattern → Lead
  | .empty => .nothing
  | .char test => .char mode test
  | .switch on off body => body.lead (mode.switch on off)
  | .sequence first rest =>
    match first.lead mode with
    | .nothing => rest.lead mode
    | lead => lead
  | _ => .other

def isChoice : Pattern → Bool
  | .choice _ _ => true
  | _ => false

/-- The test and its mode if a pattern is a test of one character. -/
def single? (mode : Mode) : Pattern → Option (Mode × CharTest)
  | .char test => some (mode, test)
  | .switch on off body => body.single? (mode.switch on off)
  | .sequence first .empty => first.single? mode
  | _ => none

end Pattern

end TargetedConfig
