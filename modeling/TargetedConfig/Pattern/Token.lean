/-!
# Tokens of a pattern

A backslash and the character after it form one token, wherever they stand: inside sets, names and
comments too. A backslash that ends a pattern is a token of its own, which no pattern may have.
-/

namespace TargetedConfig.Pattern

inductive Token where
  | plain (c : Char)
  | escaped (c : Char)
  | dangling
  deriving DecidableEq

namespace Token

def split : List Char → List Token
  | [] => []
  | ['\\'] => [.dangling]
  | '\\' :: c :: rest => .escaped c :: split rest
  | c :: rest => .plain c :: split rest

/-- Whether a token is an unescaped character of a class. -/
def isPlain (p : Char → Bool) : Token → Bool
  | .plain c => p c
  | _ => false

/-- The characters of the leading tokens that are unescaped and of a class, at most `most`. -/
def leading (p : Char → Bool) (most : Nat) (tokens : List Token) : List Char :=
  ((tokens.take most).takeWhile (isPlain p)).filterMap fun
    | .plain c => some c
    | _ => none

/-- The text up to a terminator, which is not empty, with the number of tokens through it. -/
def until? (terminator : Char) (tokens : List Token) : Option (List Char × Nat) :=
  let inner := tokens.takeWhile (· ≠ .plain terminator)
  if inner.isEmpty || inner.contains .dangling || inner.length = tokens.length then none
  else
    some (inner.flatMap fun
      | .plain c => [c]
      | .escaped c => ['\\', c]
      | .dangling => [], inner.length + 1)

end Token

end TargetedConfig.Pattern
