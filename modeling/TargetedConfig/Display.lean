import TargetedConfig.Journal

/-!
# How records are shown

`Record.fields` is a record as a list of fields: those of its entry and, over them, its stamps. For
a service a record is shown as one object, `Record.line`, or as a text for a console, of which
`Record.consoleLines` tells the number of lines.
-/

namespace TargetedConfig

namespace EvaluationId

/-- The text of an id. A fresh id has no text that could be told in advance. -/
def text : EvaluationId → String
  | .given text => text
  | .fresh _ => "<generated>"

end EvaluationId

namespace Record

/-- Fields that tell a time. They differ from run to run and are not shown. -/
def timeFields : List String := ["timestamp", "evaluation_time_ms"]

/-- Fields that say how an entry is to be written; they are used up when it is. -/
def directions : List String := ["exc_info", "stack_info"]

/-- The field with arguments for the text of the event. Unless it is null it is used up as well. -/
def argumentsField : String := "positional_args"

/-- Sets fields in order, over those that are there. -/
def putFields (fields others : Fields) : Fields :=
  others.foldl (fun fields (k, v) => putEntry fields k v) fields

def stamps (r : Record) : Fields :=
  (r.evaluationId.toList.map fun id => ("evaluation_id", .string id.text)) ++
    r.templateVersion.toList.map fun version => ("template_version", .string version)

/-- The event and the level over the fields of the entry, and the stamps over all of them. -/
def fields (r : Record) : Fields :=
  putFields
    (putFields (r.entry.fields.filter fun (k, _) => !timeFields.contains k)
      [("event", .string r.entry.event), ("log_level", .string r.entry.level.name)])
    r.stamps

/-- Whether a field of an entry is left when the entry is written. -/
def isLeft : String × Json.Value → Bool
  | (k, .null) => !directions.contains k
  | (k, _) => !directions.contains k && k != argumentsField

/-- All that is known of a record in a service; the entry may name a service of its own. -/
def told (service : String) (r : Record) : Fields :=
  let named := putFields (r.entry.fields.filter isLeft)
    [("event", .string r.entry.event), ("logger", .string r.entry.logger),
     ("level", .string r.entry.level.name)]
  let named := if (named.lookup "service").isSome then named
    else putEntry named "service" (.string service)
  putFields named r.stamps

def line (service : String) (r : Record) : Fields :=
  (r.told service).filter fun (k, _) => !timeFields.contains k

/-! ### Texts for a console -/

def isLineEnd (c : Char) : Bool :=
  ('\n' ≤ c && c ≤ '\r') || ('\x1c' ≤ c && c ≤ '\x1e') || c = '\u0085' || c = '\u2028' ||
    c = '\u2029'

/-- The number of line ends in a text; a carriage return and a line feed are one. -/
def lineEnds : List Char → Nat
  | [] => 0
  | '\r' :: '\n' :: rest => lineEnds rest + 1
  | c :: rest => lineEnds rest + if isLineEnd c then 1 else 0

/-- A character for which a text is put between quotes, where no line can end. -/
def needsQuotes (c : Char) : Bool := c ∈ [' ', '\t', '=', '\r', '\n', '"', '\'']

/-- A field with nothing but its line ends kept. -/
def lineText : String × Json.Value → List Char
  | (k, .string s) => k.toList ++ if s.toList.any needsQuotes then [] else s.toList
  | (k, _) => k.toList

/-- The texts behind the line of a record: a stack, an exception, and a rule between the two. -/
def attached (fields : Fields) : List Char :=
  let text (key : String) : Option (List Char) :=
    match fields.lookup key with
    | some (.string s) => some ('\n' :: s.toList)
    | _ => none
  match text "stack", text "exception" with
  | some stack, some exception => stack ++ ['\n', '\n', '=', '\n'] ++ exception
  | stack, exception => stack.getD [] ++ exception.getD []

/-- Fields that are not shown among the others: a time, and the texts behind the line. -/
def apart : List String := ["timestamp", "stack", "exception"]

def consoleLines (service : String) (r : Record) : Nat :=
  let told := r.told service
  let ahead := told.filter fun (k, _) => !(apart.contains k)
  let shown := ahead.flatMap fun field => lineText field ++ [' ']
  lineEnds (shown ++ attached told ++ ['\n'])

def reaches (weight : Nat) (r : Record) : Bool := weight ≤ r.entry.level.weight

end Record

end TargetedConfig
