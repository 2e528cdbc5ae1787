import TargetedConfig.Failure
import TargetedConfig.Template.Decoding
import TargetedConfig.Template.Encoding

/-!
# Template texts

`Template.read` reads a text and gathers everything that is wrong with it. `Template.load` answers
as a caller sees it: a template or a failure, and the notes written on the way.
-/

namespace TargetedConfig.Template

/-- The greatest depth to which the arrays and objects of a text nest, empty ones aside. -/
def maxNesting : Nat := 200

def read (text : String) : Checked (Template × List Entry) :=
  match Json.read? maxNesting text with
  | none => .fail .notJson
  | some v => ofJson v

def unreadableNote (violations : List Violation) : Entry :=
  ⟨.error, logger, "Unable to parse server template", [("errors", .integer violations.length)]⟩

def load (text : String) : Except Failure Template × List Entry :=
  if text = "" then (.error .emptyTemplateText, [])
  else
    match read text with
    | .invalid violations => (.error (.unreadableTemplate violations), [unreadableNote violations])
    | .valid (template, notes) => (.ok template, notes)

end TargetedConfig.Template
