import TargetedConfig.Numeral
import TargetedConfig.Binary64.Literal

/-!
# JSON tokens

The words of a JSON text: `scan` reads the first word of a text, `tokens?` all of them, and
`Token.write` writes one.
-/

namespace TargetedConfig.Json

inductive Token where
  | openArray
  | closeArray
  | openObject
  | closeObject
  | comma
  | colon
  | null
  | bool (b : Bool)
  | integer (n : Int)
  | float (x : Binary64)
  | string (s : String)

namespace Token

/-- Space, tab, line feed and carriage return. -/
def isBlank (c : Char) : Bool := c = ' ' ∨ c = '\t' ∨ c = '\n' ∨ c = '\r'

def hexDigit? (c : Char) : Option Nat :=
  if c.isDigit then some (c.toNat - '0'.toNat)
  else if 'a' ≤ c ∧ c ≤ 'f' then some (c.toNat - 'a'.toNat + 10)
  else if 'A' ≤ c ∧ c ≤ 'F' then some (c.toNat - 'A'.toNat + 10)
  else none

def codeUnit? (a b c d : Char) : Option Nat := do
  return (((← hexDigit? a) * 16 + (← hexDigit? b)) * 16 + (← hexDigit? c)) * 16 + (← hexDigit? d)

/-- The character a backslash and a letter stand for. -/
def shortEscape? : Char → Option Char
  | '"' => some '"'
  | '\\' => some '\\'
  | '/' => some '/'
  | 'b' => some '\x08'
  | 'f' => some '\x0c'
  | 'n' => some '\n'
  | 'r' => some '\r'
  | 't' => some '\t'
  | _ => none

/-- The character of two code units, a high surrogate before a low one. -/
def paired? (high low : Nat) : Option Char :=
  if 0xd800 ≤ high ∧ high < 0xdc00 ∧ 0xdc00 ≤ low ∧ low < 0xe000 then
    some (Char.ofNat (0x10000 + (high - 0xd800) * 0x400 + (low - 0xdc00)))
  else none

/-- The character of a lone code unit. -/
def single? (unit : Nat) : Option Char :=
  if 0xd800 ≤ unit ∧ unit < 0xe000 then none else some (Char.ofNat unit)

/-- The rest of a string after its opening quote, and what follows the closing quote. -/
def scanString : List Char → Option (List Char × List Char)
  | '"' :: rest => some ([], rest)
  | '\\' :: 'u' :: a :: b :: c :: d :: rest =>
    match codeUnit? a b c d with
    | none => none
    | some unit =>
      match single? unit with
      | some x => (scanString rest).map fun (s, r) => (x :: s, r)
      | none =>
        match rest with
        | '\\' :: 'u' :: a' :: b' :: c' :: d' :: rest' =>
          match (codeUnit? a' b' c' d').bind (paired? unit) with
          | some x => (scanString rest').map fun (s, r) => (x :: s, r)
          | none => none
        | _ => none
  | '\\' :: c :: rest =>
    match shortEscape? c with
    | some x => (scanString rest).map fun (s, r) => (x :: s, r)
    | none => none
  | c :: rest =>
    if c.toNat < 0x20 ∨ c = '\\' then none else (scanString rest).map fun (s, r) => (c :: s, r)
  | [] => none

theorem length_of_map_cons {x : Char} {scanned : Option (List Char × List Char)}
    {s rest : List Char} {n : Nat} (h : scanned.map (fun (s, r) => (x :: s, r)) = some (s, rest))
    (ih : ∀ {s r : List Char}, scanned = some (s, r) → r.length < n) : rest.length < n := by
  obtain ⟨⟨s', r'⟩, hs, he⟩ := Option.map_eq_some_iff.1 h
  simp only [Prod.mk.injEq] at he
  exact he.2 ▸ ih hs

theorem length_of_scanString {cs s rest : List Char} (h : scanString cs = some (s, rest)) :
    rest.length < cs.length := by
  fun_induction scanString cs generalizing s rest <;>
    first
    | (simp only [Option.some.injEq, Prod.mk.injEq] at h; simp [← h.2])
    | (rename_i ih; have := length_of_map_cons h ih; simp only [List.length_cons] at *; omega)
    | simp at h

/-- The most characters of the integer part of a number, its sign counted. -/
def maxWholeLength : Nat := 4300

/-- Whether the integer part of a number has a length that can be read. -/
def wholeFits (negative : Bool) (whole : List Char) : Bool :=
  (if negative then whole.length + 1 else whole.length) ≤ maxWholeLength

/-- The integer part of a number: a zero or digits that do not start with one. -/
def scanWhole : List Char → Option (List Char × List Char)
  | '0' :: rest => some (['0'], rest)
  | cs =>
    let digits := cs.takeWhile Char.isDigit
    if digits.isEmpty then none else some (digits, cs.dropWhile Char.isDigit)

/-- The fractional part of a number, absent or with at least one digit. -/
def scanFraction : List Char → Option (List Char × List Char)
  | '.' :: rest =>
    let digits := rest.takeWhile Char.isDigit
    if digits.isEmpty then none else some (digits, rest.dropWhile Char.isDigit)
  | cs => some ([], cs)

/-- A number without its sign: an integer, or a binary64 number if it has a fraction or exponent. -/
def scanNumber (negative : Bool) (cs : List Char) : Option (Token × List Char) := do
  let (whole, afterWhole) ← scanWhole cs
  let (fraction, afterFraction) ← scanFraction afterWhole
  let (exponent, rest) ← Literal.exponent? afterFraction
  if !wholeFits negative whole then none
  else if rest.length = afterWhole.length then
    let n : Int := Nat.ofDigitChars 10 whole 0
    return (.integer (if negative then -n else n), rest)
  else
    let coefficient := Nat.ofDigitChars 10 (whole ++ fraction) 0
    return (.float (.ofDecimal ⟨negative, coefficient, exponent - fraction.length⟩), rest)

def after? (word : List Char) (cs : List Char) : Option (List Char) :=
  if word.isPrefixOf cs then some (cs.drop word.length) else none

/-- A text that starts with a given word gives its token. -/
def scanWord (word : String) (token : Token) (cs : List Char) : Option (Token × List Char) :=
  (after? word.toList cs).map (token, ·)

/-- The first token of a text and what follows it. -/
def scan : List Char → Option (Token × List Char)
  | '[' :: rest => some (.openArray, rest)
  | ']' :: rest => some (.closeArray, rest)
  | '{' :: rest => some (.openObject, rest)
  | '}' :: rest => some (.closeObject, rest)
  | ',' :: rest => some (.comma, rest)
  | ':' :: rest => some (.colon, rest)
  | '"' :: rest => (scanString rest).map fun (s, r) => (.string (String.ofList s), r)
  | 'n' :: rest => scanWord "ull" .null rest
  | 't' :: rest => scanWord "rue" (.bool true) rest
  | 'f' :: rest => scanWord "alse" (.bool false) rest
  | 'N' :: rest => scanWord "aN" (.float .nan) rest
  | 'I' :: rest => scanWord "nfinity" (.float (.infinite false)) rest
  | '-' :: 'I' :: rest => scanWord "nfinity" (.float (.infinite true)) rest
  | '-' :: rest => scanNumber true rest
  | rest => scanNumber false rest

theorem length_dropWhile_le (p : Char → Bool) (cs : List Char) :
    (cs.dropWhile p).length ≤ cs.length :=
  (List.dropWhile_sublist p).length_le

theorem length_of_scanWhole {cs whole rest : List Char} (h : scanWhole cs = some (whole, rest)) :
    rest.length < cs.length := by
  unfold scanWhole at h
  split at h
  · simp only [Option.some.injEq, Prod.mk.injEq] at h
    simp [← h.2]
  · simp only at h
    split at h
    · simp at h
    · rename_i hd
      simp only [Option.some.injEq, Prod.mk.injEq] at h
      have hl := congrArg List.length
        (List.takeWhile_append_dropWhile (p := Char.isDigit) (l := cs))
      rw [List.length_append] at hl
      have hp : 0 < (cs.takeWhile Char.isDigit).length :=
        List.length_pos_iff.2 (by simpa using hd)
      rw [← h.2]
      omega

theorem length_of_scanFraction {cs digits rest : List Char}
    (h : scanFraction cs = some (digits, rest)) : rest.length ≤ cs.length := by
  unfold scanFraction at h
  split at h
  · rename_i cs
    simp only at h
    split at h
    · simp at h
    · simp only [Option.some.injEq, Prod.mk.injEq] at h
      have := length_dropWhile_le Char.isDigit cs
      simp only [← h.2, List.length_cons]
      omega
  · simp only [Option.some.injEq, Prod.mk.injEq] at h
    simp [← h.2]

theorem length_of_exponent {cs rest : List Char} {e : Int}
    (h : Literal.exponent? cs = some (e, rest)) : rest.length ≤ cs.length := by
  unfold Literal.exponent? at h
  split at h
  · rename_i c cs
    split at h
    · simp only at h
      split at h
      · simp at h
      · simp only [Option.some.injEq, Prod.mk.injEq] at h
        have hs : (Literal.sign cs).2.length ≤ cs.length := by
          unfold Literal.sign
          split <;> simp
        have := length_dropWhile_le Char.isDigit (Literal.sign cs).2
        simp only [← h.2, List.length_cons]
        omega
    · simp only [Option.some.injEq, Prod.mk.injEq] at h
      simp [← h.2]
  · simp only [Option.some.injEq, Prod.mk.injEq] at h
    simp [← h.2]

theorem length_of_scanNumber {negative : Bool} {cs rest : List Char} {t : Token}
    (h : scanNumber negative cs = some (t, rest)) : rest.length < cs.length := by
  simp only [scanNumber, Option.bind_eq_bind, Option.bind_eq_some_iff, Prod.exists] at h
  obtain ⟨whole, afterWhole, hw, fraction, afterFraction, hf, exponent, afterExponent, he, h⟩ := h
  have hw := length_of_scanWhole hw
  have hf := length_of_scanFraction hf
  have he := length_of_exponent he
  have hr : afterExponent = rest := by
    revert h
    split
    · simp
    · split <;>
        · simp only [Option.pure_def, Option.some.injEq, Prod.mk.injEq]
          exact And.right
  rw [hr] at he
  omega

theorem length_of_scanWord {word : String} {token t : Token} {cs rest : List Char}
    (h : scanWord word token cs = some (t, rest)) : rest.length ≤ cs.length := by
  unfold scanWord after? at h
  split at h
  · simp only [Option.map_some, Option.some.injEq, Prod.mk.injEq] at h
    simp [← h.2]
  · simp at h

/-- Scanning a token consumes at least one character. -/
theorem length_of_scan {cs rest : List Char} {t : Token} (h : scan cs = some (t, rest)) :
    rest.length < cs.length := by
  unfold scan at h
  split at h
  case h_7 rest' =>
    obtain ⟨⟨s, r⟩, hs, he⟩ := Option.map_eq_some_iff.1 h
    simp only [Prod.mk.injEq] at he
    have := length_of_scanString hs
    simp only [← he.2, List.length_cons]
    omega
  case h_14 => have := length_of_scanNumber h; simp only [List.length_cons]; omega
  case h_15 => exact length_of_scanNumber h
  all_goals
    first
    | (simp only [Option.some.injEq, Prod.mk.injEq] at h; simp [← h.2])
    | (have hw := length_of_scanWord h; simp only [List.length_cons]; omega)

/-- All tokens of a text; blanks between them do not count. -/
def tokens? (cs : List Char) : Option (List Token) :=
  if (cs.dropWhile isBlank).isEmpty then some []
  else
    match _h : scan (cs.dropWhile isBlank) with
    | none => none
    | some (t, rest) => (tokens? rest).map (t :: ·)
termination_by cs.length
decreasing_by
  have := length_of_scan _h
  have := length_dropWhile_le isBlank cs
  omega

def escape (c : Char) : List Char :=
  if c = '"' then ['\\', '"']
  else if c = '\\' then ['\\', '\\']
  else if c.toNat < 0x20 then
    if c = '\x08' then ['\\', 'b']
    else if c = '\t' then ['\\', 't']
    else if c = '\n' then ['\\', 'n']
    else if c = '\x0c' then ['\\', 'f']
    else if c = '\r' then ['\\', 'r']
    else '\\' :: 'u' :: '0' :: '0' :: [Nat.digitChar (c.toNat / 16), Nat.digitChar (c.toNat % 16)]
  else [c]

def writeInteger (n : Int) : List Char :=
  (if n < 0 then ['-'] else []) ++ Nat.toDigits 10 n.natAbs

/-- The text of a token. Only finite numbers have a text of their own, others are null. -/
def write : Token → List Char
  | .openArray => ['[']
  | .closeArray => [']']
  | .openObject => ['{']
  | .closeObject => ['}']
  | .comma => [',']
  | .colon => [':']
  | .null => "null".toList
  | .bool true => "true".toList
  | .bool false => "false".toList
  | .integer n => writeInteger n
  | .float (.finite negative units fits) => Numeral.json.write (.finite negative units fits)
  | .float _ => "null".toList
  | .string s => '"' :: (s.toList.flatMap escape ++ ['"'])

end Token

end TargetedConfig.Json
