import TargetedConfig.Proofs.Session.Freshness

/-!
# The correlation of a session

What a program does to the correlation is a list of events. Entering a scope puts aside what is
bound and leaving it takes this back, so that what is bound at any moment follows from the events
before. `Chronicle.events` collects the events of a run, and the journal of the session turns out to
be their replay: every entry is stamped with what is bound when it is written.
-/

namespace TargetedConfig

/-- What happens to the correlation, and what is written meanwhile. -/
inductive Event where
  | wrote (e : Entry)
  | boundId (id : EvaluationId)
  | boundVersion (version : Option String)
  | cleared
  | entered (b : Binding)
  | left

/-- Events between entering and leaving a scope. -/
def Event.inScope (b : Binding) (events : List Event) : List Event :=
  .entered b :: (events ++ [.left])

/-- What is bound, and what the open scopes have put aside, the innermost first. -/
structure Correlation where
  bound : Binding
  aside : List Binding

namespace Correlation

def step (c : Correlation) : Event → Correlation
  | .wrote _ => c
  | .boundId id => { c with bound.evaluationId := some id }
  | .boundVersion version => { c with bound.templateVersion := version }
  | .cleared => { c with bound := {} }
  | .entered b => ⟨b, c.bound :: c.aside⟩
  | .left =>
    match c.aside with
    | [] => c
    | b :: rest => ⟨b, rest⟩

def after (c : Correlation) (events : List Event) : Correlation := events.foldl step c

/-- The records of events: every entry under what is bound when it is written. -/
def records (c : Correlation) : List Event → List Record
  | [] => []
  | .wrote e :: rest => e.stamped c.bound :: c.records rest
  | event :: rest => (c.step event).records rest

theorem after_append (c : Correlation) (events more : List Event) :
    c.after (events ++ more) = (c.after events).after more := by
  simp [after, List.foldl_append]

theorem records_append (c : Correlation) (events more : List Event) :
    c.records (events ++ more) = c.records events ++ (c.after events).records more := by
  induction events generalizing c with
  | nil => rfl
  | cons event rest ih => cases event <;> simp [records, ih] <;> rfl

@[simp] theorem after_wrote (c : Correlation) (entries : List Entry) :
    c.after (entries.map .wrote) = c := by
  induction entries with
  | nil => rfl
  | cons e rest ih => exact ih

@[simp] theorem records_wrote (c : Correlation) (entries : List Entry) :
    c.records (entries.map .wrote) = entries.map (·.stamped c.bound) := by
  induction entries with
  | nil => rfl
  | cons e rest ih => simp [records, ih]

end Correlation

/-- Events lead from one journal to another, whatever is put aside around them: from what is bound
before to what is bound after, and by the records that are added. -/
structure Event.Lead (events : List Event) (before after : Journal) : Prop where
  correlation : ∀ aside,
    (⟨before.binding, aside⟩ : Correlation).after events = ⟨after.binding, aside⟩
  records : ∀ aside,
    after.records = before.records ++ (⟨before.binding, aside⟩ : Correlation).records events

namespace Event.Lead

variable {before middle after j : Journal} {events more : List Event}

theorem refl (j : Journal) : Event.Lead [] j j where
  correlation _ := rfl
  records _ := by simp [Correlation.records]

theorem append (h : Event.Lead events before middle) (k : Event.Lead more middle after) :
    Event.Lead (events ++ more) before after where
  correlation aside := by rw [Correlation.after_append, h.correlation, k.correlation]
  records aside := by
    rw [Correlation.records_append, h.correlation, k.records aside, h.records aside,
      List.append_assoc]

theorem writeAll (j : Journal) (entries : List Entry) :
    Event.Lead (entries.map .wrote) j (j.writeAll entries) where
  correlation aside := by rw [Correlation.after_wrote]; rfl
  records aside := by rw [Correlation.records_wrote]; rfl

/-- What leads through the inside of a scope leads, between entering and leaving, past the scope. -/
theorem inScope {version id : Option String} (h : Event.Lead events (j.enter version id).2 after) :
    Event.Lead (Event.inScope ⟨some (j.idOr id).1, version⟩ events) j (after.leave j.binding) where
  correlation aside := by
    have hi := h.correlation (j.binding :: aside)
    change Correlation.after ⟨(j.enter version id).2.binding, j.binding :: aside⟩ _ = _
    rw [Correlation.after_append, hi]
    rfl
  records aside := by
    have hr := h.records (j.binding :: aside)
    change after.records =
      _ ++ Correlation.records ⟨(j.enter version id).2.binding, j.binding :: aside⟩ _
    rw [Correlation.records_append, hr, Journal.records_enter]
    simp [Correlation.records]

end Event.Lead

def Submission.entries (s : Submission) : List Entry :=
  match s.load with
  | (.error _, notes) => notes
  | (.ok (t, _), notes) => notes ++ (Engine.cachedNote t).toOption.toList

def Engine.events (e : Engine) (r : Request) (j : Journal) : List Event :=
  match e.cached, r.toContext with
  | some (t, _), .ok c =>
    match t.versionNumber with
    | .ok version =>
      Event.inScope ⟨some (.fresh j.next), version⟩ ((configure e.defaults t c).2.map .wrote)
    | .error _ => []
  | _, _ => []

def Chronicle.events : Chronicle Event where
  flat s
    | .setEvaluationId id => [.boundId (s.journal.idOr id).1]
    | .setTemplateVersion version => [.boundVersion version]
    | .clear => [.cleared]
    | .log e => [.wrote e]
    | .set submission => submission.entries.map .wrote
    | .evaluate r keys =>
      s.engine.events r s.journal ++
        match (s.engine.evaluate r s.journal).1 with
        | .ok config => (config.views keys).2.map .wrote
        | .error _ => []
    | .summary =>
      match s.engine.cached with
      | some (t, _) =>
        match t.summary with
        | .ok (_, notes) => notes.map .wrote
        | .error _ => []
      | none => []
    | _ => []
  scope s version id inside := Event.inScope ⟨some (s.journal.idOr id).1, version⟩ inside

/-- The events of calls that are made one after the other, whether or not they fail. -/
def Session.events (s : Session) (calls : List Call) : List Event :=
  Chronicle.events.ofCalls s calls

/-! ## The journal is the replay of the events -/

theorem Engine.lead_evaluate (e : Engine) (r : Request) (j : Journal) :
    Event.Lead (e.events r j) j (e.evaluate r j).2 := by
  rw [events, evaluate]
  cases e.cached with
  | none => exact .refl j
  | some cached =>
    cases r.toContext with
    | error f => exact .refl j
    | ok c =>
      dsimp only
      cases cached.1.versionNumber with
      | error f => exact .refl j
      | ok version =>
        have h := Event.Lead.writeAll (j.enter version none).2 (configure e.defaults cached.1 c).2
        have hs := h.inScope
        rw [← Journal.enter_fst j version none] at hs
        exact hs

/-- An evaluation leaves bound what was bound before it. -/
theorem Engine.binding_evaluate (e : Engine) (r : Request) (j : Journal) :
    (e.evaluate r j).2.binding = j.binding := by
  rw [evaluate]
  split
  · rfl
  · split
    · rfl
    · split
      · rfl
      · exact Journal.binding_within j _ _ _

namespace Session

private theorem lead_set (s : Session) (submission : Submission) :
    Event.Lead (submission.entries.map .wrote) s.journal (s.set submission).2.journal := by
  rw [Submission.entries, set, Engine.set]
  rcases submission.load with ⟨f | ⟨t, text⟩, notes⟩
  · exact .writeAll _ _
  · dsimp only
    rw [List.map_append]
    cases Engine.cachedNote t with
    | error f => exact .append (.writeAll _ _) (.refl _)
    | ok note => exact .append (.writeAll _ _) (.writeAll _ [_])

private theorem lead_evaluate (s : Session) (r : Request) (keys : List String) :
    Event.Lead (Chronicle.events.flat s (.evaluate r keys)) s.journal
      (s.evaluate r keys).2.journal := by
  have h := s.engine.lead_evaluate r s.journal
  rw [evaluate, Chronicle.events]
  dsimp only
  rcases he : s.engine.evaluate r s.journal with ⟨f | config, journal⟩
  · rw [he] at h
    exact h.append (.refl _)
  · rw [he] at h
    exact h.append (.writeAll _ _)

private theorem lead_summary (s : Session) :
    Event.Lead (Chronicle.events.flat s .summary) s.journal s.summary.2.journal := by
  rw [summary, Chronicle.events]
  dsimp only
  cases s.engine.cached with
  | none => exact .refl _
  | some cached =>
    dsimp only
    cases cached.1.summary with
    | error f => exact .refl _
    | ok told => exact .writeAll _ _

private theorem lead_flat {call : Call} (hf : call.isScope = false) (s : Session) :
    Event.Lead (Chronicle.events.flat s call) s.journal (call.run s).2.journal := by
  cases call with
  | scope => cases hf
  | setEvaluationId id =>
    rw [Call.run]
    cases id <;> exact ⟨fun _ => rfl, fun _ => (List.append_nil _).symm⟩
  | setTemplateVersion version => exact ⟨fun _ => rfl, fun _ => (List.append_nil _).symm⟩
  | clear => exact ⟨fun _ => rfl, fun _ => (List.append_nil _).symm⟩
  | log e => exact .writeAll s.journal [e]
  | set submission => exact lead_set s submission
  | evaluate r keys => exact lead_evaluate s r keys
  | summary => exact lead_summary s
  | bound => exact .refl _
  | toJson => exact .refl _
  | cachedText => exact .refl _
  | defaults => exact .refl _
  | refused f => exact .refl _

/-- The events of calls lead from the journal before to the journal after. -/
theorem events_explain :
    Chronicle.events.Explains fun s events last => Event.Lead events s.journal last.journal where
  nil s := .refl s.journal
  append h k := h.append k
  flat s _ hf := lead_flat hf s
  scope h := h.inScope

/-- Whatever happens in a scope, what was bound before is bound after it. The journal of a program is
the replay of its events, which stamps every entry with what is bound when it is written, as far as
this is no empty text. An evaluation leaves bound what is bound, whether or not it fails, and writes
all its entries under one unspent id and the version of its template. -/
theorem correlation_scoped :
    (∀ (s : Session) (version id : Option String) (body : List Call) (givesUp : Bool),
      ((Call.scope version id body givesUp).run s).2.journal.binding = s.journal.binding) ∧
    (∀ (s : Session) (calls : List Call),
      Event.Lead (s.events calls) s.journal (s.after calls).journal) ∧
    (∀ (e : Entry) (b : Binding),
      (∀ id, (e.stamped b).evaluationId = some id ↔ b.evaluationId = some id ∧ id ≠ .given "") ∧
      ∀ version, (e.stamped b).templateVersion = some version ↔
        b.templateVersion = some version ∧ version ≠ "") ∧
    (∀ (e : Engine) (r : Request) (j : Journal), (e.evaluate r j).2.binding = j.binding) ∧
    ∀ (s : Session) (aside : List Binding), s.Reached aside → ∀ r : Request,
      ∃ serial written, s.journal.Unspent aside serial ∧
        (s.engine.evaluate r s.journal).2.records = s.journal.records ++ written ∧
        ∀ record ∈ written, record.evaluationId = some (.fresh serial) ∧
          ∃ t text version, s.engine.cached = some (t, text) ∧ t.versionNumber = .ok version ∧
            record.templateVersion = version.filter (· ≠ "") := by
  refine ⟨?_, ?_, ?_, ?_, ?_⟩
  · intro s version id body givesUp
    rw [run_scope]
    exact Journal.binding_leave _ _
  · intro s calls
    exact events_explain.calls calls s
  · intro e b
    constructor
    · intro id
      simp [Entry.stamped, Binding.stampedId, Option.filter_eq_some_iff]
    · intro version
      simp [Entry.stamped, Binding.stampedVersion, Option.filter_eq_some_iff]
  · exact Engine.binding_evaluate
  · intro s aside hs r
    exact hs.stamps_evaluate r

def versionless : Template where
  conditions := [⟨"on", .or [.always], by decide⟩]

/-- What is left of a caller's bindings in a scope, after another scope has cleared them and failed. -/
def inner : Session :=
  let caller : Session := { engine := { cached := some (versionless, "") } }
  let s := caller.after
    [.setEvaluationId none, .setTemplateVersion (some "outer"),
      .scope none none [.clear, .evaluate (.signals .empty) [], .refused .missingContext] false]
  s.enter (some "inner") (some "id")

theorem reached_inner : inner.Reached [⟨some (.fresh 0), some "outer"⟩] :=
  .enter (some "inner") (some "id") (.run _ (.run _ (.run _ (.start _))))

theorem correlation_scoped_inner :
    ∃ serial written, serial ≠ 0 ∧ written ≠ [] ∧
      (inner.engine.evaluate (.signals .empty) inner.journal).2.records =
        inner.journal.records ++ written ∧
      ∀ record ∈ written, record.evaluationId = some (.fresh serial) ∧
        record.templateVersion = none := by
  obtain ⟨serial, written, hu, hw, hs⟩ :=
    correlation_scoped.2.2.2.2 inner _ reached_inner (.signals .empty)
  refine ⟨serial, written, ?_, ?_, hw, ?_⟩
  · rintro rfl
    exact hu.bound _ (List.mem_cons_of_mem _ List.mem_cons_self) rfl
  · rintro rfl
    exact absurd (congrArg List.length hw) (by decide)
  · intro record hr
    obtain ⟨hi, t, text, version, hc, hn, hv⟩ := hs record hr
    cases hc
    cases hn
    exact ⟨hi, hv⟩

end Session

end TargetedConfig
