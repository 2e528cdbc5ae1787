import TargetedConfig.Pattern.Basic
import TargetedConfig.Pattern.Token
import TargetedConfig.Text.Identifier
import TargetedConfig.Text.Integer
import TargetedConfig.Text.Name

/-!
# Reading patterns

`Compiled.read` takes the tokens of a pattern one by one. The groups that are open at a token are
kept on a stack, each with what had been read around it, so a pattern of any nesting is read in
one pass.
-/

namespace TargetedConfig.Pattern

inductive Fault where
  /-- The pattern is not well formed. -/
  | malformed
  /-- A repetition count is `2 ^ 32 - 1` or more. -/
  | countTooLarge
  /-- A repetition count has more digits than an integer may have. -/
  | countUnreadable
  /-- The settings for ASCII and for all scripts are both switched on for the whole pattern. -/
  | clashingFlags
  /-- A look-behind goes `2 ^ 31` characters back or more. -/
  | behindTooFar
  /-- The end of a group lies before its beginning. -/
  | crossedGroup
  deriving DecidableEq

/-- Repetition counts lie below this bound. -/
def countBound : Nat := 0xffffffff

/-- References to groups lie below this bound. -/
def groupBound : Nat := 0x3fffffff

/-- Look-behinds go back less far than this bound. -/
def behindBound : Nat := 0x80000000

def isOctal (c : Char) : Bool := '0' ≤ c && c ≤ '7'

def hexValue (c : Char) : Nat :=
  if c.isDigit then c.toNat - '0'.toNat
  else if 'a' ≤ c && c ≤ 'f' then c.toNat - 'a'.toNat + 10
  else c.toNat - 'A'.toNat + 10

def isHex (c : Char) : Bool := c.isDigit || ('a' ≤ c && c ≤ 'f') || ('A' ≤ c && c ≤ 'F')

def ofBase (base : Nat) (digits : List Char) : Nat :=
  digits.foldl (fun n c => base * n + hexValue c) 0

/-! ### Escapes -/

/-- The control character of an escape with a letter; outside sets `\b` is not one. -/
def controlEscape? : Char → Option Nat
  | 'a' => some 7
  | 'b' => some 8
  | 'f' => some 12
  | 'n' => some 10
  | 'r' => some 13
  | 't' => some 9
  | 'v' => some 11
  | '\\' => some 92
  | _ => none

def categoryEscape? : Char → Option Member
  | 'd' => some (.category .digit false)
  | 'D' => some (.category .digit true)
  | 's' => some (.category .space false)
  | 'S' => some (.category .space true)
  | 'w' => some (.category .word false)
  | 'W' => some (.category .word true)
  | _ => none

def anchorEscape? : Char → Option Anchor
  | 'A' => some .textStart
  | 'b' => some (.boundary false)
  | 'B' => some (.boundary true)
  | 'Z' => some .textFinish
  | _ => none

/-- The number of hexadecimal digits that an escape with a letter takes. -/
def hexLength? : Char → Option Nat
  | 'x' => some 2
  | 'u' => some 4
  | 'U' => some 8
  | _ => none

def hexEscape (length : Nat) (rest : List Token) : Except Fault (Nat × Nat) :=
  let digits := Token.leading isHex length rest
  let code := ofBase 16 digits
  if digits.length = length ∧ code ≤ 0x10ffff then .ok (code, length) else .error .malformed

def nameEscape (rest : List Token) : Except Fault (Nat × Nat) :=
  match rest with
  | .plain '{' :: rest =>
    match Token.until? '}' rest with
    | some (name, used) =>
      match Text.ofName? name with
      | some code => .ok (code, 1 + used)
      | none => .error .malformed
    | none => .error .malformed
  | _ => .error .malformed

/-- The member of a set that an escape stands for, with the number of further tokens it takes. -/
def memberEscape (c : Char) (rest : List Token) : Except Fault (Member × Nat) :=
  match controlEscape? c, categoryEscape? c, hexLength? c with
  | some code, _, _ => .ok (.single code, 0)
  | _, some member, _ => .ok (member, 0)
  | _, _, some length => (hexEscape length rest).map fun (code, used) => (.single code, used)
  | _, _, _ =>
    if c = 'N' then (nameEscape rest).map fun (code, used) => (.single code, used)
    else if isOctal c then
      let digits := Token.leading isOctal 2 rest
      let code := ofBase 8 (c :: digits)
      if code ≤ 0xff then .ok (.single code, digits.length) else .error .malformed
    else if c.isAlphanum then .error .malformed
    else .ok (.single c.toNat, 0)

/-! ### Sets -/

/-- One member of a set as it is written, with the number of further tokens it takes. -/
def setMember (t : Token) (rest : List Token) : Except Fault (Member × Nat) :=
  match t with
  | .plain c => .ok (.single c.toNat, 0)
  | .escaped c => memberEscape c rest
  | .dangling => .error .malformed

/-- The range between two members, which must be single characters in order. -/
def rangeOf : Member → Member → Except Fault Member
  | .single low, .single high => if high < low then .error .malformed else .ok (.range low high)
  | _, _ => .error .malformed

/-- The remaining members of a set, with the number of tokens through its closing bracket. A closing
bracket that stands first is a member, and so is a hyphen that stands last. -/
def setMembers (read : List Member) (used : Nat) :
    List Token → Except Fault (List Member × Nat)
  | [] => .error .malformed
  | t :: rest =>
    if t = .plain ']' ∧ read ≠ [] then .ok (read.reverse, used + 1)
    else
      match setMember t rest with
      | .error fault => .error fault
      | .ok (low, n) =>
        match rest.drop n with
        | .plain '-' :: .plain ']' :: _ =>
          .ok ((.single '-'.toNat :: low :: read).reverse, used + 1 + n + 2)
        | .plain '-' :: t' :: rest' =>
          match setMember t' rest' with
          | .error fault => .error fault
          | .ok (high, n') =>
            match rangeOf low high with
            | .error fault => .error fault
            | .ok range =>
              setMembers (range :: read) (used + 1 + n + 2 + n') (rest.drop (n + 2 + n'))
        | _ => setMembers (low :: read) (used + 1 + n) (rest.drop n)
termination_by tokens => tokens.length
decreasing_by all_goals simp only [List.length_drop, List.length_cons]; omega

/-- A set after its opening bracket; one with a single character is that character. -/
def charSet (tokens : List Token) : Except Fault (CharTest × Nat) := do
  let negated := tokens.head? = some (.plain '^')
  let skipped := if negated then 1 else 0
  let (members, used) ← setMembers [] skipped (tokens.drop skipped)
  match members.eraseDups with
  | [.single code] => return (.literal code negated, used)
  | members => return (.set members negated, used)

/-! ### Sequences and alternatives -/

/-- The part of a sequence that a quantifier would apply to. -/
inductive Piece where
  | single (part : Pattern)
  /-- A group without a name, number or settings, whose parts join the sequence around it. -/
  | group (parts : List Pattern)

/-- A sequence being read: its earlier parts, latest first, and its last piece. -/
structure Sequence where
  earlier : List Pattern := []
  last : Option Piece := none

namespace Sequence

def reversed (s : Sequence) : List Pattern :=
  match s.last with
  | none => s.earlier
  | some (.single part) => part :: s.earlier
  | some (.group parts) => parts.reverse ++ s.earlier

def parts (s : Sequence) : List Pattern := s.reversed.reverse

def isEmpty (s : Sequence) : Bool := s.last.isNone

def push (s : Sequence) (piece : Piece) : Sequence := ⟨s.reversed, some piece⟩

end Sequence

/-- Splits off the leaves that all alternatives start with: the leaves, what remains of the first
alternative, and what remains of the others. -/
def commonStart : List Pattern → List (List Pattern) →
    List Pattern × List Pattern × List (List Pattern)
  | [], others => ([], [], others)
  | part :: first, others =>
    if others.all fun other => other.head?.any part.sameLeaf then
      let (common, first', others') := commonStart first (others.map (·.drop 1))
      (part :: common, first', others')
    else ([], part :: first, others)

/-- The members of an alternative that is one character or one set. -/
def asMembers? : List Pattern → Option (List Member)
  | [.char (.literal code false)] => some [.single code]
  | [.char (.set members false)] => some members
  | _ => none

/-- The parts that alternatives amount to. What all of them start with stands before the choice, and
a choice between single characters is a set. -/
def alternation : List (List Pattern) → List Pattern
  | [] => []
  | [parts] => parts
  | first :: others =>
    let (common, first', others') := commonStart first others
    let choice :=
      match (first' :: others').mapM asMembers? with
      | some members => Pattern.char (.set members.flatten.eraseDups false)
      | none => ofAlternatives (first' :: others')
    common ++ [choice]

/-! ### The reader -/

inductive Opening where
  | plain
  | capture (group : Nat)
  | switch (on off : Flags)
  | atomic
  | ahead (negated : Bool)
  /-- A look-behind; `outermost` unless it stands inside another one. -/
  | behind (negated outermost : Bool)
  /-- A choice by a group, with its first branch once that is complete. -/
  | conditional (group : Nat) (yes : Option (List Pattern))

/-- An open group and what had been read around it. -/
structure Frame where
  opening : Opening
  outer : Sequence
  alternatives : List (List Pattern)
  verbose : Bool

structure Reader where
  /-- The sequence being read. -/
  current : Sequence := {}
  /-- The finished alternatives of the innermost open group, latest first. -/
  alternatives : List (List Pattern) := []
  /-- Blanks and comments are skipped. -/
  verbose : Bool := false
  /-- The open groups, innermost first. -/
  stack : List Frame := []
  /-- The widths of the groups so far; an open group has none yet. -/
  groups : List (Option Width) := []
  names : List (String × Nat) := []
  /-- The settings for the whole pattern. -/
  flags : Flags := {}
  /-- Inside a look-behind the number of groups before it. -/
  groupsBefore : Option Nat := none
  /-- The numbers by which groups are tested. -/
  tested : List Nat := []
  hasRepetition : Bool := false
  /-- A look-behind of variable width has been read. -/
  hasVariableBehind : Bool := false
  /-- A look-behind that goes back too far has been read. -/
  hasFarBehind : Bool := false

namespace Reader

def push (r : Reader) (part : Pattern) : Reader :=
  { r with current := r.current.push (.single part) }

def pushChar (r : Reader) (code : Nat) : Reader := r.push (.char (.literal code false))

/-- Whether nothing but settings and skipped text has been read. -/
def atStart (r : Reader) : Bool :=
  r.stack.isEmpty && r.alternatives.isEmpty && r.current.isEmpty

/-- Whether a group is closed and, inside a look-behind, precedes it. -/
def mayRefer (r : Reader) (group : Nat) : Bool :=
  (0 < group && (r.groups[group - 1]?).join.isSome) &&
    r.groupsBefore.all fun n => group ≤ n

/-- Whether a group may be tested: inside a look-behind as for references, elsewhere always. -/
def mayTest (r : Reader) (group : Nat) : Bool :=
  r.groupsBefore.isNone || r.mayRefer group

def openGroup (r : Reader) (opening : Opening) (verbose : Bool) : Reader :=
  { r with
    current := {}
    alternatives := []
    verbose := verbose
    stack := ⟨opening, r.current, r.alternatives, r.verbose⟩ :: r.stack }

def openCapture (r : Reader) : Reader :=
  let r' := r.openGroup (.capture (r.groups.length + 1)) r.verbose
  { r' with groups := r.groups ++ [none] }

def openNamed (r : Reader) (name : List Char) : Except Fault Reader :=
  let name' := String.ofList name
  if !Text.isIdentifier name || (r.names.lookup name').isSome then .error .malformed
  else .ok { r.openCapture with names := (name', r.groups.length + 1) :: r.names }

def namedReference (r : Reader) (name : List Char) : Except Fault Reader :=
  match r.names.lookup (String.ofList name) with
  | some group =>
    if Text.isIdentifier name && r.mayRefer group then .ok (r.push (.backref group))
    else .error .malformed
  | none => .error .malformed

/-- The group that a condition names by its name or number, and whether by number. -/
def testedGroup (r : Reader) (name : List Char) : Except Fault (Nat × Bool) :=
  if Text.isIdentifier name then
    match r.names.lookup (String.ofList name) with
    | some group => .ok (group, false)
    | none => .error .malformed
  else
    match Text.looseInteger? name with
    | some n =>
      if 0 < n ∧ n.toNat < groupBound then .ok (n.toNat, true) else .error .malformed
    | none => .error .malformed

def openConditional (r : Reader) (name : List Char) : Except Fault Reader := do
  let (group, byNumber) ← r.testedGroup name
  if r.mayTest group then
    let r := if byNumber then { r with tested := group :: r.tested } else r
    return r.openGroup (.conditional group none) r.verbose
  else throw .malformed

def openBehind (r : Reader) (negated : Bool) : Reader :=
  let r' := r.openGroup (.behind negated r.groupsBefore.isNone) r.verbose
  { r' with groupsBefore := r.groupsBefore.or (some r.groups.length) }

/-! #### Settings -/

def isFlag (c : Char) : Bool := "iLmsxatu".contains c

def flagsOf (letters : List Char) : Flags :=
  letters.foldl (fun f c => f.union (flag c)) {}
where
  flag : Char → Flags
    | 'i' => { ignoreCase := true }
    | 'm' => { multiLine := true }
    | 's' => { dotAll := true }
    | 'x' => { verbose := true }
    | 'a' => { ascii := true }
    | 't' => { template := true }
    | 'u' => { unicode := true }
    | _ => {}

/-- Settings for a group, from the letters to switch on and off. -/
def switched (r : Reader) (on off : Flags) : Except Fault Reader :=
  if on.template || off.template || off.ascii || off.unicode || on.meets off then .error .malformed
  else .ok (r.openGroup (.switch on off) ((r.verbose || on.verbose) && !off.verbose))

/-- Settings after an opening bracket and question mark: for the whole pattern, which only its start
may have, or for a group. -/
def settings (r : Reader) (tokens : List Token) : Except Fault (Reader × Nat) := do
  let letters := Token.leading isFlag tokens.length tokens
  let on := flagsOf letters
  if letters.contains 'L' || (on.ascii && on.unicode) then throw .malformed
  match tokens.drop letters.length with
  | .plain ')' :: _ =>
    if letters.isEmpty || !r.atStart then throw .malformed
    else
      let flags := r.flags.union on
      return ({ r with flags := flags, verbose := flags.verbose }, letters.length + 1)
  | .plain ':' :: _ =>
    if letters.isEmpty then throw .malformed
    else return (← r.switched on {}, letters.length + 1)
  | .plain '-' :: rest =>
    let offLetters := Token.leading isFlag rest.length rest
    if offLetters.isEmpty || offLetters.contains 'L' then throw .malformed
    else
      match rest.drop offLetters.length with
      | .plain ':' :: _ =>
        return (← r.switched on (flagsOf offLetters), letters.length + 1 + offLetters.length + 1)
      | _ => throw .malformed
  | _ => throw .malformed

/-! #### Groups -/

/-- A comment up to a terminator: the number of tokens through it. -/
def commentLength (terminator : Char) (tokens : List Token) : Nat :=
  (tokens.takeWhile (· ≠ .plain terminator)).length + 1

def openBracket (r : Reader) : List Token → Except Fault (Reader × Nat)
  | .plain '?' :: .plain 'P' :: .plain '<' :: rest =>
    match Token.until? '>' rest with
    | some (name, used) => (r.openNamed name).map (·, 3 + used)
    | none => .error .malformed
  | .plain '?' :: .plain 'P' :: .plain '=' :: rest =>
    match Token.until? ')' rest with
    | some (name, used) => (r.namedReference name).map (·, 3 + used)
    | none => .error .malformed
  | .plain '?' :: .plain ':' :: _ => .ok (r.openGroup .plain r.verbose, 2)
  | .plain '?' :: .plain '#' :: rest =>
    if rest.contains (.plain ')') then .ok (r, 2 + commentLength ')' rest) else .error .malformed
  | .plain '?' :: .plain '=' :: _ => .ok (r.openGroup (.ahead false) r.verbose, 2)
  | .plain '?' :: .plain '!' :: _ => .ok (r.openGroup (.ahead true) r.verbose, 2)
  | .plain '?' :: .plain '<' :: .plain '=' :: _ => .ok (r.openBehind false, 3)
  | .plain '?' :: .plain '<' :: .plain '!' :: _ => .ok (r.openBehind true, 3)
  | .plain '?' :: .plain '>' :: _ => .ok (r.openGroup .atomic r.verbose, 2)
  | .plain '?' :: .plain '(' :: rest =>
    match Token.until? ')' rest with
    | some (name, used) => (r.openConditional name).map (·, 2 + used)
    | none => .error .malformed
  | .plain '?' :: rest => (r.settings rest).map fun (r', used) => (r', 1 + used)
  | _ => .ok (r.openCapture, 0)

/-- The fault of the settings for the whole pattern, if any. -/
def flagsFault? (r : Reader) : Option Fault :=
  if r.flags.ascii && r.flags.unicode then some .clashingFlags else none

/-- The end of an alternative. -/
def bar (r : Reader) : Except Fault Reader :=
  match r.stack with
  | ⟨.conditional group yes, outer, alternatives, verbose⟩ :: stack =>
    if yes.isSome then .error .malformed
    else
      let frame := ⟨.conditional group (some r.current.parts), outer, alternatives, verbose⟩
      .ok { r with current := {}, stack := frame :: stack }
  | _ =>
    .ok { r with current := {}, alternatives := r.current.parts :: r.alternatives }

/-- Adds a look in a direction. An empty body holds everywhere, so its negation matches nowhere. -/
def pushLook (r : Reader) (behind : Option Nat) (negated : Bool) (parts : List Pattern) : Reader :=
  if negated && parts.isEmpty then r.push .never
  else r.push (.look behind negated (ofParts parts))

def complete (r : Reader) (parts : List Pattern) : Opening → Reader
  | .plain => { r with current := r.current.push (.group parts) }
  | .capture group =>
    let body := ofParts parts
    { r.push (.capture group body) with
      groups := r.groups.set (group - 1) (some (body.width r.groups)) }
  | .switch on off => r.push (.switch on off (ofParts parts))
  | .atomic => r.push (.atomic (ofParts parts))
  | .ahead negated => r.pushLook none negated parts
  | .behind negated outermost =>
    let r := if outermost then { r with groupsBefore := none } else r
    match ((ofParts parts).width r.groups).fixed? with
    | some width =>
      { r.pushLook (some width) negated parts with
        hasFarBehind := r.hasFarBehind || behindBound ≤ width }
    | none => { r.pushLook (some 0) negated parts with hasVariableBehind := true }
  | .conditional group yes =>
    match yes with
    | some yes => r.push (.conditional group (ofParts yes) (ofParts parts))
    | none => r.push (.conditional group (ofParts parts) .empty)

def closeBracket (r : Reader) : Except Fault Reader :=
  match r.stack with
  | [] => .error (r.flagsFault?.getD .malformed)
  | frame :: stack =>
    let parts := alternation (r.current.parts :: r.alternatives).reverse
    let outer :=
      { r with
        current := frame.outer
        alternatives := frame.alternatives
        verbose := frame.verbose
        stack := stack }
    .ok (outer.complete parts frame.opening)

/-! #### Quantifiers -/

def quantify (r : Reader) (least : Nat) (most : Option Nat) (rest : List Token) :
    Except Fault (Reader × Nat) :=
  let body? : Option Pattern :=
    match r.current.last with
    | none => none
    | some (.single (.anchor _)) => none
    | some (.single (.repeated _ _ _ _)) => none
    | some (.single part) => some part
    | some (.group parts) => some (ofParts parts)
  match body? with
  | none => .error .malformed
  | some body =>
    let (greed, used) : Greed × Nat :=
      match rest with
      | .plain '?' :: _ => (.lazy, 1)
      | .plain '+' :: _ => (.possessive, 1)
      | _ => (.greedy, 0)
    let last := Piece.single (.repeated greed least most body)
    .ok ({ r with current := ⟨r.current.earlier, some last⟩, hasRepetition := true }, used)

def count (digits : List Char) : Except Fault Nat :=
  if Text.maxDigits < digits.length then .error .countUnreadable
  else
    let n := ofBase 10 digits
    if countBound ≤ n then .error .countTooLarge else .ok n

/-- A brace: a quantifier with counts, or itself when no counts follow. -/
def brace (r : Reader) (rest : List Token) : Except Fault (Reader × Nat) := do
  let low := Token.leading Char.isDigit rest.length rest
  let afterLow := rest.drop low.length
  let comma := afterLow.head? = some (.plain ',')
  let tail := if comma then afterLow.drop 1 else afterLow
  let high := if comma then Token.leading Char.isDigit tail.length tail else low
  let tail := if comma then tail.drop high.length else tail
  let used := rest.length - tail.length + 1
  match tail with
  | .plain '}' :: tail =>
    if used = 1 then return (r.pushChar '{'.toNat, 0)
    else if tail = [.dangling] then throw .malformed
    else
      let least ← if low.isEmpty then pure 0 else count low
      let most ← if high.isEmpty then pure none else (count high).map some
      if most.any (· < least) then throw .malformed
      else
        let (r', more) ← r.quantify least most tail
        return (r', used + more)
  | _ => return (r.pushChar '{'.toNat, 0)

/-! #### Escapes outside sets -/

/-- A digit after a backslash: a zero starts an octal code, and so do three octal digits; other
digits, at most two, refer to a group. -/
def digitEscape (r : Reader) (c : Char) (rest : List Token) : Except Fault (Reader × Nat) :=
  if c = '0' then
    let digits := Token.leading isOctal 2 rest
    .ok (r.pushChar (ofBase 8 (c :: digits)), digits.length)
  else
    let octal := Token.leading isOctal 2 rest
    if isOctal c ∧ octal.length = 2 then
      let code := ofBase 8 (c :: octal)
      if code ≤ 0xff then .ok (r.pushChar code, 2) else .error .malformed
    else
      let digits := Token.leading Char.isDigit 1 rest
      let group := ofBase 10 (c :: digits)
      if r.mayRefer group then .ok (r.push (.backref group), digits.length) else .error .malformed

def escape (r : Reader) (c : Char) (rest : List Token) : Except Fault (Reader × Nat) :=
  match anchorEscape? c, categoryEscape? c, controlEscape? c, hexLength? c with
  | some place, _, _, _ => .ok (r.push (.anchor place), 0)
  | _, some member, _, _ => .ok (r.push (.char (.set [member] false)), 0)
  | _, _, some code, _ => .ok (r.pushChar code, 0)
  | _, _, _, some length => (hexEscape length rest).map fun (code, used) => (r.pushChar code, used)
  | _, _, _, _ =>
    if c.isDigit then r.digitEscape c rest
    else if c = 'N' then (nameEscape rest).map fun (code, used) => (r.pushChar code, used)
    else if c.isAlpha then .error .malformed
    else .ok (r.pushChar c.toNat, 0)

/-! #### Tokens -/

def isVerboseBlank (c : Char) : Bool := Text.isAsciiSpace c.toNat

/-- An unescaped character that is not skipped, with the number of further tokens it takes. -/
def plain (r : Reader) (c : Char) (rest : List Token) : Except Fault (Reader × Nat) :=
  match c with
  | '.' => .ok (r.push (.char .any), 0)
  | '^' => .ok (r.push (.anchor .start), 0)
  | '$' => .ok (r.push (.anchor .finish), 0)
  | '[' => (charSet rest).map fun (test, used) => (r.push (.char test), used)
  | '(' => r.openBracket rest
  | '*' => r.quantify 0 none rest
  | '+' => r.quantify 1 none rest
  | '?' => r.quantify 0 (some 1) rest
  | '{' => r.brace rest
  | _ => .ok (r.pushChar c.toNat, 0)

/-- Takes one token, with the number of further tokens it takes. -/
def step (r : Reader) (t : Token) (rest : List Token) : Except Fault (Reader × Nat) :=
  match t with
  | .dangling => .error .malformed
  | .escaped c => r.escape c rest
  | .plain '|' => r.bar.map (·, 0)
  | .plain ')' => r.closeBracket.map (·, 0)
  | .plain c =>
    if r.verbose && isVerboseBlank c then .ok (r, 0)
    else if r.verbose && c = '#' then
      let used := commentLength '\n' rest
      if (rest.take used).contains .dangling then .error .malformed else .ok (r, used)
    else r.plain c rest

def steps (r : Reader) : List Token → Except Fault Reader
  | [] => .ok r
  | t :: rest =>
    match r.step t rest with
    | .error fault => .error fault
    | .ok (r', used) => r'.steps (rest.drop used)
termination_by tokens => tokens.length
decreasing_by simp only [List.length_drop, List.length_cons]; omega

theorem steps_of_step {r r' : Reader} {token : Token} {rest : List Token} {used : Nat}
    (h : r.step token rest = .ok (r', used)) :
    r.steps (token :: rest) = r'.steps (rest.drop used) := by
  rw [steps, h]

theorem steps_of_fault {r : Reader} {token : Token} {rest : List Token} {fault : Fault}
    (h : r.step token rest = .error fault) : r.steps (token :: rest) = .error fault := by
  rw [steps, h]

end Reader

/-- A pattern that has been read: its tree, its number of groups, the mode it starts in and the
least number of characters of a match. -/
structure Compiled where
  pattern : Pattern
  groups : Nat
  mode : Mode
  least : Nat

namespace Compiled

def ofReader (r : Reader) : Except Fault Compiled :=
  if !r.stack.isEmpty then .error .malformed
  else
    match r.flagsFault? with
    | some fault => .error fault
    | none =>
      if r.tested.any (r.groups.length < ·) || (r.flags.template && r.hasRepetition) ||
          r.hasVariableBehind then
        .error .malformed
      else if r.hasFarBehind then .error .behindTooFar
      else
        let pattern := ofParts (alternation (r.current.parts :: r.alternatives).reverse)
        .ok ⟨pattern, r.groups.length, r.flags.toMode, (pattern.width r.groups).1⟩

def read (text : String) : Except Fault Compiled :=
  (Reader.steps {} (Token.split text.toList)).bind ofReader

end Compiled

end TargetedConfig.Pattern
