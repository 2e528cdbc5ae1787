import TargetedConfig.Text.Blank
import TargetedConfig.Text.Integer

/-!
# Files of assignments

A file assigns texts to names, in statements such as `NAME = text` and `export 'NAME' = "text"`.
A text between quotes may go over several lines; a bare one ends with its line or with a comment.
A name without an equals sign is assigned nothing. A statement ends with its line. One that does not
is dropped, together with what is left of the line that its last part ends in.

`assignments` reads a file. That it ends follows from `length_afterLine_lt`: every statement takes
something away from the text.
-/

namespace TargetedConfig

/-- A name and the text that it is assigned, if any. -/
structure Assignment where
  name : String
  text : Option String
  deriving DecidableEq

namespace Assignment

/-- White space, line ends included. -/
def isSpace (c : Char) : Bool := Text.isSpace c.toNat

/-- White space inside a line. -/
def isBlank (c : Char) : Bool := isSpace c && c != '\n'

/-- A text in which a line feed is the only line end. -/
def unified : List Char → List Char
  | '\r' :: '\n' :: rest => '\n' :: unified rest
  | c :: rest => (if c = '\r' then '\n' else c) :: unified rest
  | [] => []

/-- A text without the mark that may stand at the start of a file. -/
def withoutMark : List Char → List Char
  | '\ufeff' :: rest => rest
  | text => text

/-- What is left of the line. -/
def line (text : List Char) : List Char := text.takeWhile (· ≠ '\n')

/-- What follows the line and its end. -/
def afterLine (text : List Char) : List Char := (text.dropWhile (· ≠ '\n')).drop 1

/-- Whether nothing but blanks and a comment is left of the line. -/
def endsLine (text : List Char) : Bool :=
  match (line text).dropWhile isBlank with
  | [] => true
  | c :: _ => c = '#'

/-- What follows the word that may stand before a name. -/
def afterExport (text : List Char) : List Char :=
  match text with
  | 'e' :: 'x' :: 'p' :: 'o' :: 'r' :: 't' :: rest =>
    if rest.head?.any isBlank then rest.dropWhile isBlank else text
  | _ => text

/-- A name, bare or between single quotes, and what follows it. -/
def name? : List Char → Option (List Char × List Char)
  | '\'' :: rest =>
    let name := rest.takeWhile (· ≠ '\'')
    match rest.drop name.length with
    | '\'' :: behind => if name.isEmpty then none else some (name, behind)
    | _ => none
  | text =>
    let name := text.takeWhile fun c => !(c = '=' || c = '#' || isSpace c)
    if name.isEmpty then none else some (name, text.drop name.length)

/-- The character that a backslash and another character stand for between quotes of a kind. -/
def escaped? (quote : Char) (c : Char) : Option Char :=
  if c = '\\' ∨ c = '\'' then some c
  else if quote = '\'' then none
  else
    match c with
    | '"' => some '"'
    | 'a' => some '\x07'
    | 'b' => some '\x08'
    | 'f' => some '\x0c'
    | 'n' => some '\n'
    | 'r' => some '\r'
    | 't' => some '\t'
    | 'v' => some '\x0b'
    | _ => none

/-- A text up to its closing quote, and what follows the quote. A quote behind a backslash does not
close the text. -/
def upToQuote? (quote : Char) : List Char → Option (List Char × List Char)
  | [] => none
  | '\\' :: c :: rest =>
    (upToQuote? quote rest).map fun (text, behind) =>
      match escaped? quote c with
      | some x => (x :: text, behind)
      | none => ('\\' :: c :: text, behind)
  | c :: rest =>
    if c = quote then some ([], rest)
    else (upToQuote? quote rest).map fun (text, behind) => (c :: text, behind)

/-- A text up to a comment, which follows a blank. -/
def upToComment : List Char → List Char
  | [] => []
  | c :: '#' :: rest => if isBlank c then [] else c :: upToComment ('#' :: rest)
  | c :: rest => c :: upToComment rest

/-- The text after an equals sign, and what follows it. -/
def value? (text : List Char) : Option (List Char × List Char) :=
  match text.dropWhile isBlank with
  | '"' :: rest => upToQuote? '"' rest
  | '\'' :: rest => upToQuote? '\'' rest
  | _ => some (Text.trim isBlank (upToComment (line text)), text.drop (line text).length)

/-- The parts of a statement, and what follows the last part that can be read. -/
def parts (text : List Char) : Option Assignment × List Char :=
  match name? (afterExport text) with
  | none => (none, text)
  | some (name, behind) =>
    match behind.dropWhile isBlank with
    | '=' :: rest =>
      match value? rest with
      | none => (none, rest)
      | some (value, behind) => (some ⟨String.ofList name, some (String.ofList value)⟩, behind)
    | rest => (some ⟨String.ofList name, none⟩, rest)

/-- A statement, if it ends with a line. -/
def statement? (text : List Char) : Option Assignment :=
  let (read, behind) := parts text
  if endsLine behind then read else none

theorem length_afterExport_le (text : List Char) :
    (afterExport text).length ≤ text.length := by
  unfold afterExport
  split
  · rename_i rest
    split
    · have : (rest.dropWhile isBlank).length ≤ rest.length := (List.dropWhile_sublist _).length_le
      simp only [List.length_cons]
      omega
    · exact Nat.le_refl _
  · exact Nat.le_refl _

theorem length_of_name {text name behind : List Char} (h : name? text = some (name, behind)) :
    behind.length ≤ text.length := by
  unfold name? at h
  split at h
  · rename_i rest
    simp only at h
    split at h
    · rename_i rest' hd
      have hl := congrArg List.length hd
      simp only [List.length_drop, List.length_cons] at hl
      split at h
      · simp at h
      · simp only [Option.some.injEq, Prod.mk.injEq] at h
        simp only [← h.2, List.length_cons]
        omega
    · simp at h
  · simp only at h
    split at h
    · simp at h
    · simp only [Option.some.injEq, Prod.mk.injEq] at h
      simp only [← h.2, List.length_drop]
      omega

theorem length_of_upToQuote {quote : Char} {text inside behind : List Char}
    (h : upToQuote? quote text = some (inside, behind)) : behind.length ≤ text.length := by
  fun_induction upToQuote? quote text generalizing inside behind with
  | case1 => simp at h
  | case2 c rest ih =>
    obtain ⟨⟨t, b⟩, hb, he⟩ := Option.map_eq_some_iff.1 h
    have := ih hb
    have hbb : b = behind := by
      simp only at he
      split at he <;> exact (Prod.mk.inj he).2
    simp only [List.length_cons, ← hbb]
    omega
  | case3 rest =>
    simp only [Option.some.injEq, Prod.mk.injEq] at h
    simp [← h.2]
  | case4 c rest _ _ ih =>
    obtain ⟨⟨t, b⟩, hb, he⟩ := Option.map_eq_some_iff.1 h
    have := ih hb
    simp only [Prod.mk.injEq] at he
    simp only [List.length_cons, ← he.2]
    omega

theorem length_of_value {text value behind : List Char} (h : value? text = some (value, behind)) :
    behind.length ≤ text.length := by
  have hd : (text.dropWhile isBlank).length ≤ text.length := (List.dropWhile_sublist _).length_le
  unfold value? at h
  split at h
  · rename_i rest heq
    rw [heq] at hd
    have := length_of_upToQuote h
    simp only [List.length_cons] at hd
    omega
  · rename_i rest heq
    rw [heq] at hd
    have := length_of_upToQuote h
    simp only [List.length_cons] at hd
    omega
  · simp only [Option.some.injEq, Prod.mk.injEq] at h
    simp only [← h.2, List.length_drop]
    omega

theorem length_parts_le (text : List Char) : (parts text).2.length ≤ text.length := by
  have hx := length_afterExport_le text
  unfold parts
  split
  · exact Nat.le_refl _
  · rename_i name behind hn
    have hn := length_of_name hn
    have hd : (behind.dropWhile isBlank).length ≤ behind.length :=
      (List.dropWhile_sublist _).length_le
    split
    · rename_i rest heq
      rw [heq, List.length_cons] at hd
      split
      · simp only
        omega
      · rename_i value behind' hv
        have := length_of_value hv
        simp only
        omega
    · simp only
      omega

/-- Taking a line away makes a text shorter. -/
theorem length_afterLine_lt {text : List Char} (h : text ≠ []) :
    (afterLine text).length < text.length := by
  have hd : (text.dropWhile (· ≠ '\n')).length ≤ text.length :=
    (List.dropWhile_sublist _).length_le
  have := List.length_pos_iff.2 h
  simp only [afterLine, List.length_drop]
  omega

theorem length_afterParts_lt {text : List Char} (h : text ≠ []) :
    (afterLine (parts text).2).length < text.length := by
  have hp := length_parts_le text
  have := List.length_pos_iff.2 h
  by_cases he : (parts text).2 = []
  · simpa [he, afterLine] using this
  · exact Nat.lt_of_lt_of_le (length_afterLine_lt he) hp

def statements (text : List Char) : List Assignment :=
  if _h : text.dropWhile isSpace = [] then []
  else
    (statement? (text.dropWhile isSpace)).toList ++
      statements (afterLine (parts (text.dropWhile isSpace)).2)
termination_by text.length
decreasing_by
  exact Nat.lt_of_lt_of_le (length_afterParts_lt _h) (List.dropWhile_sublist _).length_le

end Assignment

def assignments (file : String) : List Assignment :=
  Assignment.statements (Assignment.unified (Assignment.withoutMark file.toList))

end TargetedConfig
