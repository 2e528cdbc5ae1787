import TargetedConfig.Pattern.Search

/-!
# Matching

`Pattern.run` matches a pattern from a cursor and hands the rest of the work to a continuation. It
tries ways in order of preference until the continuation agrees. Repetitions of one character take
a stretch of the text at once; all others go round by round. Inside such rounds a way that failed
gives all marks their places back, elsewhere only those that it added are taken away.
-/

namespace TargetedConfig.Pattern

namespace Anchor

def wordBehind (mode : Mode) (c : Cursor) : Bool :=
  c.past.head?.any fun x => Category.word.contains mode.ascii x.toNat

def wordAhead (mode : Mode) (c : Cursor) : Bool :=
  c.ahead.head?.any fun x => Category.word.contains mode.ascii x.toNat

/-- Whether the cursor stands at such a place. An empty text has no boundary and no other place. -/
def holds (mode : Mode) (c : Cursor) : Anchor → Bool
  | .start => c.past.isEmpty || (mode.multiLine && c.past.head? == some '\n')
  | .finish =>
    c.ahead.isEmpty || c.ahead == ['\n'] || (mode.multiLine && c.ahead.head? == some '\n')
  | .textStart => c.past.isEmpty
  | .textFinish => c.ahead.isEmpty
  | .boundary negated =>
    !(c.past.isEmpty && c.ahead.isEmpty) &&
      (wordBehind mode c != wordAhead mode c) != negated

end Anchor

/-- Takes a given text, up to case where the mode says so. -/
def takeText (mode : Mode) : List Char → Cursor → Option Cursor
  | [], c => some c
  | x :: text, c =>
    match c.ahead with
    | [] => none
    | y :: rest =>
      if x = y ∨ (mode.ignoreCase ∧ mode.lower x.toNat = mode.lower y.toNat) then
        takeText mode text ⟨y :: c.past, rest⟩
      else none

namespace Lead

/-- The code of the exact character that is asked for. -/
def literal? : Lead → Option Nat
  | .char mode (.literal code false) =>
    if (CharTest.literal code false).isCased mode then none else some code
  | _ => none

/-- Whether the next character alone rules out a match. This is asked of exact characters and of
sets; where letter case matters nothing is ruled out. -/
def rulesOut (c : Cursor) : Lead → Bool
  | .char mode test =>
    match test with
    | .literal _ true => false
    | .any => false
    | _ => !test.isCased mode && !c.ahead.head?.any (test.accepts mode)
  | _ => false

end Lead

/-- Where a part stands in a pattern. -/
structure Scope where
  mode : Mode
  /-- Inside a repetition that goes round by round and may reconsider its rounds. -/
  looping : Bool := false
  /-- The code of the character that must follow the part, if it is known. -/
  next : Option Nat := none

namespace Scope

/-- A part that something else than a character follows. -/
def inner (scope : Scope) : Scope := { scope with next := none }

/-- A part that another one follows. -/
def before (scope : Scope) (rest : Pattern) : Scope :=
  match rest.lead scope.mode with
  | .nothing => scope
  | lead => { scope with next := lead.literal? }

/-- Whether the character that must follow does not. -/
def isMissed (scope : Scope) (c : Cursor) : Bool :=
  scope.next.any fun code => c.ahead.head?.map Char.toNat != some code

end Scope

/-! ### Repetitions of one character -/

/-- The rest after a stretch of characters, and after ever shorter ones down to `spare` characters
less. Places that the character which must follow rules out are passed over. -/
def backOff (scope : Scope) (k : Rest) (spare : Nat) (c : Cursor) (s : Search) : Verdict :=
  let here : Verdict :=
    if scope.isMissed c then (false, s)
    else (k c (s.setOut c)).orElse fun s' => (false, s'.restore scope.looping s)
  match spare with
  | 0 => here
  | spare + 1 => here.orElse fun s' => backOff scope k spare c.previous s'

/-- The rest after a stretch of characters, and after ever longer ones up to `spare` characters
more. -/
def goOn (scope : Scope) (test : Mode × CharTest) (k : Rest) (spare : Nat) (c : Cursor)
    (s : Search) : Verdict :=
  (k c (s.setOut c)).orElse fun s' =>
    let s' := (s'.restore scope.looping s).setOut c
    match c.ahead with
    | [] => (false, s')
    | x :: rest =>
      if test.2.accepts test.1 x then
        let c' : Cursor := ⟨x :: c.past, rest⟩
        let s' := if test.2.isFolded test.1 then s'.setOut c' else s'
        match spare with
        | 0 => (false, s')
        | spare + 1 => goOn scope test k spare c' s'
      else (false, s')

/-- A repetition of a test of one character. A test that stands for a set of letters on account of
their case sets out from the end of the stretch, all others from its start. -/
def stretches (scope : Scope) (greed : Greed) (least : Nat) (most : Option Nat)
    (test : Mode × CharTest) : Matcher :=
  fun c s k =>
    let most := most.getD c.remaining
    if c.remaining < least then (false, s)
    else
      let (count, c') :=
        c.ahead |> Cursor.advance (test.2.accepts test.1)
          (if greed = .lazy then least else most) 0 c.past
      let s := s.setOut (if test.2.isFolded test.1 then c' else c)
      if count < least then (false, s)
      else
        match greed with
        | .greedy => backOff scope k (count - least) c' s
        | .lazy => goOn scope test k (most - least) c' s
        | .possessive => k c' s

/-! ### Rounds -/

/-- Rounds that are owed, and then what follows them. -/
def owedRounds (round : Matcher) (k : Rest) : Nat → Rest
  | 0, c, s => k c s
  | owed + 1, c, s => (round c (s.setOut c) (owedRounds round k owed)).resettled c

/-- A loop has no further round once its last one started where it ended. -/
def stalled (last : Option Nat) (c : Cursor) : Bool := last == some c.remaining

/-- Up to `spare` further rounds first, the rest when there is no way with one. The last round
started with `last` characters remaining. -/
def greedyRounds (round : Matcher) (k : Rest) (spare : Nat) (last : Option Nat) (c : Cursor)
    (s : Search) : Verdict :=
  let s := s.setOut c
  match spare with
  | 0 => (k c s).resettled c
  | spare + 1 =>
    if stalled last c then (k c s).resettled c
    else
      (round c s (greedyRounds round k spare (some c.remaining))).orElse fun s' =>
        (k c ((s'.restore true s).setOut c)).resettled c

/-- The rest first, up to `spare` further rounds when it refuses. -/
def lazyRounds (looping : Bool) (round : Matcher) (k : Rest) (spare : Nat) (last : Option Nat)
    (c : Cursor) (s : Search) : Verdict :=
  let s := s.setOut c
  (k c s).orElse fun s' =>
    let s' := (s'.restore looping s).setOut c
    match spare with
    | 0 => (false, s')
    | spare + 1 =>
      if stalled last c then (false, s')
      else (round c s' (lazyRounds looping round k spare (some c.remaining))).resettled c

/-- Rounds that are owed, each in its first way, from the place the search set out from. -/
def possessiveOwed (round : Matcher) : Nat → Search → Verdict
  | 0, s => (true, s)
  | owed + 1, s =>
    match round.first s.outset s with
    | (true, s') => possessiveOwed round owed s'
    | (false, s') => (false, s')

/-- Up to `spare` further rounds, each in its first way. The last one may fail. Engines differ in
where they go on then: some from the end of the round before it, this one from the place that the
failed round last set out from, so that `(?!a)?+` takes all of `a`. -/
def possessiveSpare (round : Matcher) (spare : Nat) (last : Option Nat) (s : Search) : Search :=
  match spare with
  | 0 => s
  | spare + 1 =>
    if stalled last s.outset then s
    else
      match round.first s.outset s with
      | (true, s') => possessiveSpare round spare (some s.outset.remaining) s'
      | (false, s') => s'.restore true s

/-- How often the rounds of a repetition without a bound may go back in the text. -/
def mostReturns : Nat := 0xffffffff

/-- The number of rounds from a place on that are not owed. Without a bound to them every round takes
a character, unless it is the last one or goes back in the text. -/
def spareRounds (least : Nat) (most : Option Nat) (c : Cursor) : Nat :=
  match most with
  | some most => most - least
  | none => c.remaining + mostReturns

def rounds (scope : Scope) (greed : Greed) (least : Nat) (most : Option Nat) (round : Matcher) :
    Matcher :=
  fun c s k =>
    match greed with
    | .greedy =>
      let more : Rest := fun c => greedyRounds round k (spareRounds least most c) none c
      owedRounds round more least c (s.setOut c)
    | .lazy =>
      let more : Rest := fun c => lazyRounds scope.looping round k (spareRounds least most c) none c
      owedRounds round more least c (s.setOut c)
    | .possessive =>
      match possessiveOwed round least (s.setOut c) with
      | (false, s') => (false, s'.setOut c)
      | (true, s') =>
        let s' := possessiveSpare round (spareRounds least most s'.outset) none s'
        k s'.outset s'

/-! ### Patterns -/

/-- Looks from a place whether a matcher has a way; a place before the text has none. -/
def lookFrom (f : Matcher) (start : Option Cursor) (s : Search) : Verdict :=
  match start with
  | none => (false, s)
  | some c => f.first c (s.setOut c)

/-- One of several alternatives, passed over when the next character rules it out. -/
def alternative (scope : Scope) (p : Pattern) (f : Matcher) : Matcher := fun c s k =>
  if (p.lead scope.mode).rulesOut c then (false, s)
  else (f c (s.setOut c) k).orElse fun s' => (false, s'.restore scope.looping s)

def run (scope : Scope) : Pattern → Matcher
  | .empty => fun c s k => k c s
  | .never => fun _ s _ => (false, s)
  | .char test => fun c s k =>
    match c.ahead with
    | [] => (false, s)
    | x :: rest => if test.accepts scope.mode x then k ⟨x :: c.past, rest⟩ s else (false, s)
  | .anchor place => fun c s k => if place.holds scope.mode c then k c s else (false, s)
  | .backref group => fun c s k =>
    match (s.marks.text? group).bind (takeText scope.mode · c) with
    | none => (false, s)
    | some c' => k c' s
  | .capture group body => fun c s k =>
    run scope.inner body c { s with marks := s.marks.enter group c } fun c' s' =>
      k c' { s' with marks := s'.marks.leave group c' }
  | .switch on off body => run { scope with mode := scope.mode.switch on off } body
  | .sequence first rest => fun c s k =>
    run (scope.before rest) first c s fun c' s' => run scope rest c' s' k
  | .choice first rest => fun c s k =>
    (alternative scope first (run scope.inner first) c s k).orElse fun s' =>
      if rest.isChoice then run scope rest c s' k
      else alternative scope rest (run scope.inner rest) c s' k
  | .repeated greed least most body =>
    match body.single? scope.mode with
    | some test => stretches scope greed least most test
    | none =>
      rounds scope greed least most
        (run { scope.inner with looping := scope.looping || greed != .possessive } body)
  | .look behind false body => fun c s k =>
    match lookFrom (run scope.inner body) (c.back? (behind.getD 0)) s with
    | (true, s') => k c s'
    | (false, s') => (false, s')
  | .look behind true body => fun c s k =>
    match lookFrom (run scope.inner body) (c.back? (behind.getD 0)) s with
    | (true, s') => (false, s')
    | (false, s') => k c (s'.restore scope.looping s)
  | .atomic body => fun c s k =>
    match (run scope.inner body).first c (s.setOut c) with
    | (true, s') => k s'.outset s'
    | (false, s') => (false, s'.setOut c)
  | .conditional group yes no => fun c s k =>
    if (s.marks.text? group).isSome then
      run (if no matches .empty then scope else scope.inner) yes c s k
    else run scope no c s k

/-- Searches for a way that takes a whole text. -/
def search (mode : Mode) (p : Pattern) (text : List Char) : Verdict :=
  run { mode } p ⟨[], text⟩ ⟨[], ⟨[], text⟩⟩ fun c s =>
    if c.ahead.isEmpty then (true, s.setOut c) else (false, s)

end TargetedConfig.Pattern
