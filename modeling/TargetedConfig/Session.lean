import TargetedConfig.Engine

/-!
# Sessions

A session is an engine and its journal. `Call.run` makes one call: a use of the engine, a change of
what is bound, an entry of the caller, or a scope with calls inside. A scope restores what was bound
before it also when a call inside fails.
-/

namespace TargetedConfig

inductive Call where
  | setEvaluationId (id : Option String)
  | setTemplateVersion (version : Option String)
  | clear
  | bound
  | log (e : Entry)
  /-- Calls under a binding of their own; in the end the body may give up. -/
  | scope (version id : Option String) (body : List Call) (givesUp : Bool)
  | set (s : Submission)
  /-- An evaluation, and a look at the values of some keys. -/
  | evaluate (r : Request) (keys : List String)
  | toJson
  | cachedText
  | summary
  | defaults
  /-- A call whose arguments could not be made. -/
  | refused (f : Failure)
  deriving Inhabited

inductive Outcome where
  | done
  | bound (b : Binding)
  | identified (id : EvaluationId) (b : Binding)
  /-- The binding and the answers inside, whether the body gave up, and the binding after. -/
  | scope (inside : Binding) (inner : List Outcome) (gaveUp : Bool) (after : Binding)
  | config (c : Config) (views : List (String × Value.Views))
  | text (t : Option String)
  | summary (s : Option Summary)
  | defaults (d : OrderedMap String)
  deriving Inhabited

structure Session where
  engine : Engine := {}
  journal : Journal := {}

namespace Session

def answerBound (s : Session) : Except Failure Outcome × Session :=
  (.ok (.bound s.journal.binding), s)

def set (s : Session) (submission : Submission) : Except Failure Outcome × Session :=
  let (ended, engine, journal) := s.engine.set submission s.journal
  (ended.map fun _ => .done, ⟨engine, journal⟩)

/-- Evaluates, and looks at the values of some keys after the evaluation. -/
def evaluate (s : Session) (r : Request) (keys : List String) : Except Failure Outcome × Session :=
  match s.engine.evaluate r s.journal with
  | (.error f, journal) => (.error f, { s with journal })
  | (.ok config, journal) =>
    let (views, entries) := config.views keys
    (.ok (.config config views), { s with journal := journal.writeAll entries })

def summary (s : Session) : Except Failure Outcome × Session :=
  match s.engine.cached with
  | none => (.ok (.summary none), s)
  | some (t, _) =>
    match t.summary with
    | .error f => (.error f, s)
    | .ok (summary, notes) =>
      (.ok (.summary (some summary)), { s with journal := s.journal.writeAll notes })

end Session

open Session

mutual

def Call.run (s : Session) : Call → Except Failure Outcome × Session
  | .setEvaluationId id =>
    let (id, journal) := s.journal.setEvaluationId id
    (.ok (.identified id journal.binding), { s with journal })
  | .setTemplateVersion version =>
    answerBound { s with journal := s.journal.setTemplateVersion version }
  | .clear => answerBound { s with journal := s.journal.clear }
  | .bound => answerBound s
  | .log e => answerBound { s with journal := s.journal.write e }
  | .scope version id body givesUp =>
    let (aside, journal) := s.journal.enter version id
    let (inner, after) := Call.runAll { s with journal } body
    let left := { after with journal := after.journal.leave aside }
    (inner.map fun inner => .scope journal.binding inner givesUp left.journal.binding, left)
  | .set submission => s.set submission
  | .evaluate r keys => s.evaluate r keys
  | .toJson => (.ok (.text s.engine.toJson), s)
  | .cachedText => (.ok (.text s.engine.cachedText), s)
  | .summary => s.summary
  | .defaults => (.ok (.defaults s.engine.defaults), s)
  | .refused f => (.error f, s)

/-- Makes calls in order up to the first one that fails. -/
def Call.runAll (s : Session) : List Call → Except Failure (List Outcome) × Session
  | [] => (.ok [], s)
  | call :: rest =>
    match call.run s with
    | (.error f, after) => (.error f, after)
    | (.ok outcome, after) =>
      let (outcomes, last) := Call.runAll after rest
      (outcomes.map (outcome :: ·), last)

end

namespace Session

def recordsSince (before after : Session) : List Record :=
  after.journal.records.drop before.journal.records.length

/-- Makes calls one after the other, whether or not they fail, and keeps the records of each. -/
def play (s : Session) : List Call → List (Except Failure Outcome × List Record)
  | [] => []
  | call :: rest =>
    let (outcome, after) := call.run s
    (outcome, s.recordsSince after) :: after.play rest

def create (defaults : OrderedMap String) (cached : Option Submission) (j : Journal) :
    Except Failure Session × Journal :=
  let (engine, journal) := Engine.create defaults cached j
  (engine.map (⟨·, journal⟩), journal)

end Session

end TargetedConfig
