import TargetedConfig.Pattern.Matcher
import TargetedConfig.Pattern.Reader

/-!
# Matching a text against the text of a pattern

A text that is shorter than any match is not searched. A match in which the end of a group lies
before its beginning is no answer but a fault.
-/

namespace TargetedConfig.Pattern

/-- Whether a pattern that has been read matches a whole text. -/
def Compiled.matchesAll (c : Compiled) (text : String) : Except Fault Bool :=
  if text.length < c.least then .ok false
  else
    match search c.mode c.pattern text.toList with
    | (false, _) => .ok false
    | (true, s) =>
      if (List.range c.groups).any fun i => s.marks.crossed (i + 1) then .error .crossedGroup
      else .ok true

def fullMatch (pattern text : String) : Except Fault Bool :=
  (Compiled.read pattern).bind (·.matchesAll text)

end TargetedConfig.Pattern
