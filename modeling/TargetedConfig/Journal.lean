import TargetedConfig.Anomaly

/-!
# The journal and its correlation

A journal stamps every entry with what is bound when the entry is written: the id of an evaluation
and the version of a template. `Journal.within` binds both for the time of a computation and
restores what was bound before, however the computation ends.
-/

namespace TargetedConfig

/-- The id of an evaluation: a text that a caller gives, or a fresh one. -/
inductive EvaluationId where
  | given (text : String)
  | fresh (serial : Nat)
  deriving DecidableEq

/-- What entries are stamped with. -/
structure Binding where
  evaluationId : Option EvaluationId := none
  templateVersion : Option String := none
  deriving DecidableEq

namespace Binding

/-- The id that entries carry; an empty text is none. -/
def stampedId (b : Binding) : Option EvaluationId := b.evaluationId.filter (· ≠ .given "")

/-- The version that entries carry; an empty text is none. -/
def stampedVersion (b : Binding) : Option String := b.templateVersion.filter (· ≠ "")

end Binding

/-- An entry with the stamps it was written under. -/
structure Record where
  entry : Entry
  evaluationId : Option EvaluationId := none
  templateVersion : Option String := none

def Entry.stamped (e : Entry) (b : Binding) : Record := ⟨e, b.stampedId, b.stampedVersion⟩

/-- The records written so far, what is bound now, and the serial of the next fresh id. -/
structure Journal where
  records : List Record := []
  binding : Binding := {}
  next : Nat := 0

namespace Journal

def write (j : Journal) (e : Entry) : Journal :=
  { j with records := j.records ++ [e.stamped j.binding] }

def writeAll (j : Journal) (es : List Entry) : Journal :=
  { j with records := j.records ++ es.map (·.stamped j.binding) }

/-- The id that a caller gives, or a fresh one. -/
def idOr (j : Journal) : Option String → EvaluationId × Journal
  | some text => (.given text, j)
  | none => (.fresh j.next, { j with next := j.next + 1 })

/-- Binds an id or none, and gives the one that was bound. -/
def bindId (j : Journal) (id : Option EvaluationId) : Option EvaluationId × Journal :=
  (j.binding.evaluationId, { j with binding := { j.binding with evaluationId := id } })

/-- Binds a version or none, and gives the one that was bound. -/
def bindVersion (j : Journal) (version : Option String) : Option String × Journal :=
  (j.binding.templateVersion, { j with binding := { j.binding with templateVersion := version } })

def setEvaluationId (j : Journal) (id : Option String) : EvaluationId × Journal :=
  let (id, j) := j.idOr id
  (id, (j.bindId (some id)).2)

def setTemplateVersion (j : Journal) (version : Option String) : Journal := (j.bindVersion version).2

def clear (j : Journal) : Journal := ((j.bindId none).2.bindVersion none).2

/-- The journal in which a scope begins, and what the scope puts aside: what was bound before, each
as it was when another one took its place. -/
def enter (j : Journal) (version id : Option String) : Binding × Journal :=
  let (id, j) := j.idOr id
  let (oldId, j) := j.bindId (some id)
  let (oldVersion, j) := j.bindVersion version
  (⟨oldId, oldVersion⟩, j)

/-- Takes back what a scope has put aside, the version first. -/
def leave (j : Journal) (aside : Binding) : Journal :=
  ((j.bindVersion aside.templateVersion).2.bindId aside.evaluationId).2

/-- Runs a computation in a scope of its own. -/
def within {α : Type} (j : Journal) (version id : Option String) (body : Journal → α × Journal) :
    α × Journal :=
  let (aside, entered) := j.enter version id
  let (a, after) := body entered
  (a, after.leave aside)

@[simp] theorem binding_idOr (j : Journal) (id : Option String) :
    (j.idOr id).2.binding = j.binding := by
  cases id <;> rfl

/-- A scope puts aside what is bound. -/
@[simp] theorem enter_fst (j : Journal) (version id : Option String) :
    (j.enter version id).1 = j.binding := by
  rw [enter]
  exact binding_idOr j id

/-- What a scope takes back is bound again, whatever was bound in it. -/
@[simp] theorem binding_leave (j : Journal) (aside : Binding) : (j.leave aside).binding = aside :=
  rfl

/-- A scope leaves bound what was bound before it. -/
@[simp] theorem binding_within {α : Type} (j : Journal) (version id : Option String)
    (body : Journal → α × Journal) : (j.within version id body).2.binding = j.binding := by
  rw [within]
  exact (binding_leave _ _).trans (enter_fst j version id)

end Journal

end TargetedConfig
