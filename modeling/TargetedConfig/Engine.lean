import TargetedConfig.Journal
import TargetedConfig.Targeting.Evaluation
import TargetedConfig.Template.Text

/-!
# Engines

An engine holds the defaults of its caller and at most one template, together with its text.
`Engine.set` replaces both, or nothing if the template cannot be read or written; it may fail also
after that, when the version number has no text. `Engine.evaluate` changes nothing and answers with
the values of all keys. Entries of an evaluation carry a fresh id and the version of the template.
-/

namespace TargetedConfig

inductive Submission where
  | text (s : String)
  | template (t : Template)

/-- A template with its text, and the notes written on the way. -/
def Submission.load : Submission → Except Failure (Template × String) × List Entry
  | .text s =>
    let (loaded, notes) := Template.load s
    (loaded.map (·, s), notes)
  | .template t =>
    match t.render? with
    | some written => (.ok (t, written), [])
    | none => (.error .tooDeepToWrite, [])

/-- What a caller asks an evaluation for: signals, or a context made before. -/
inductive Request where
  | signals (s : OrderedMap Signal)
  | context (c : Context)

/-- The request of a caller who may give no signals at all; that counts as an empty map. -/
def Request.ofSignals? (s : Option (OrderedMap Signal)) : Request := .signals (s.getD .empty)

def Request.toContext : Request → Except Failure Context
  | .signals s => Context.ofSignals s
  | .context c => .ok c

structure Summary where
  conditionNames : List String
  versionNumber : Option String
  parameters : OrderedMap Parameter
  etag : Option String

def Template.summary (t : Template) : Except Failure (Summary × List Entry) :=
  let declarations := t.declarations
  t.versionNumber.map fun version =>
    (⟨t.conditionNames, version, declarations.parameters, t.etag⟩, declarations.notes)

structure Engine where
  defaults : OrderedMap String := .empty
  cached : Option (Template × String) := none

namespace Engine

def logger : String := "remote_config.server_template"

def orNull : Option String → Json.Value
  | none => .null
  | some s => .string s

def cachedNote (t : Template) : Except Failure Entry :=
  t.versionNumber.map fun version =>
    ⟨.info, logger, "Server template cached",
      [("conditions", .integer t.conditions.length), ("parameters", .integer t.parameters.size),
       ("version", orNull version), ("etag", orNull t.etag)]⟩

/-- The note that closes an evaluation. -/
def evaluatedNote (values : OrderedMap Value) (anomalies : List Anomaly) : Entry :=
  ⟨.debug, logger, "Server template evaluated",
    [("parameters", .integer values.size), ("anomalies", .integer anomalies.length)]⟩

/-- Caches a template and notes it. A template that cannot be loaded leaves the engine as it is; one
that cannot be noted is cached all the same. -/
def set (e : Engine) (s : Submission) (j : Journal) : Except Failure Unit × Engine × Journal :=
  match s.load with
  | (.error f, notes) => (.error f, e, j.writeAll notes)
  | (.ok (t, text), notes) =>
    let e := { e with cached := some (t, text) }
    let j := j.writeAll notes
    match cachedNote t with
    | .error f => (.error f, e, j)
    | .ok note => (.ok (), e, j.write note)

def create (defaults : OrderedMap String) (cached : Option Submission) (j : Journal) :
    Except Failure Engine × Journal :=
  match cached with
  | none => (.ok { defaults }, j)
  | some s =>
    let (ended, engine, j) := Engine.set { defaults } s j
    (ended.map fun _ => engine, j)

/-- The results of the conditions of a template; none are evaluated if there are none. -/
def evaluateConditions (t : Template) (c : Context) : Audited (OrderedMap Bool) :=
  if t.conditions.isEmpty then return .empty
  else Condition.evaluateConditions Condition.defaultMaxDepth c t.conditions

/-- The values of the parameters of a template in a context. -/
def evaluateTemplate (defaults : OrderedMap String) (t : Template) (c : Context) :
    Audited (OrderedMap Value) := do
  let evaluated ← evaluateConditions t c
  let declarations := t.declarations
  modify (·.writeAll declarations.notes)
  let values ← Resolution.resolve declarations.parameters evaluated defaults t.conditionNames
  modify fun l => l.write (evaluatedNote values l.anomalies)
  return values

/-- The config of a template in a context, and the entries written on the way. -/
def configure (defaults : OrderedMap String) (t : Template) (c : Context) :
    Except Failure Config × List Entry :=
  let (answer, ledger) := (evaluateTemplate defaults t c).runOn { collected := some [] }
  (answer.map (⟨·, ledger.anomalies⟩), ledger.entries)

/-- Evaluates the cached template for a request, in a scope of its own. -/
def evaluate (e : Engine) (r : Request) (j : Journal) : Except Failure Config × Journal :=
  match e.cached with
  | none => (.error .noTemplate, j)
  | some (t, _) =>
    match r.toContext with
    | .error f => (.error f, j)
    | .ok c =>
      match t.versionNumber with
      | .error f => (.error f, j)
      | .ok version =>
        j.within version none fun j =>
          let (config, entries) := configure e.defaults t c
          (config, j.writeAll entries)

/-- The text of the cached template written anew. -/
def toJson (e : Engine) : Option String := e.cached.map (·.1.render)

/-- The text under which the template was cached. -/
def cachedText (e : Engine) : Option String := e.cached.map (·.2)

end Engine

end TargetedConfig
