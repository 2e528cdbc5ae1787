import TargetedConfig.Targeting.Evaluation

/-!
# What audited computations leave in a ledger

A computation is *uniform* when its answer does not depend on the ledger it runs on and all it does
to the ledger is to warn of anomalies, the same ones on every ledger. Its `Verdict` is then the
whole of its behaviour, and the verdict of a sequence is made from the verdicts of its parts.
-/

namespace TargetedConfig

namespace Ledger

def reportAll (l : Ledger) (logger : String) (reports : List (Anomaly × Level)) : Ledger :=
  reports.foldl (fun l r => l.report r.1 r.2 logger) l

@[simp] theorem reportAll_nil (l : Ledger) (logger : String) : l.reportAll logger [] = l := rfl

@[simp] theorem reportAll_cons (l : Ledger) (logger : String) (r : Anomaly × Level)
    (reports : List (Anomaly × Level)) :
    l.reportAll logger (r :: reports) = (l.report r.1 r.2 logger).reportAll logger reports := rfl

theorem reportAll_append (l : Ledger) (logger : String) (reports more : List (Anomaly × Level)) :
    l.reportAll logger (reports ++ more) = (l.reportAll logger reports).reportAll logger more := by
  simp [reportAll, List.foldl_append]

@[simp] theorem collected_reportAll (l : Ledger) (logger : String)
    (reports : List (Anomaly × Level)) :
    (l.reportAll logger reports).collected = l.collected.map (· ++ reports.map Prod.fst) := by
  induction reports generalizing l with
  | nil => cases h : l.collected <;> simp [h]
  | cons r reports ih =>
    rw [reportAll_cons, ih]
    cases h : l.collected <;> simp [report, write, h]

@[simp] theorem entries_reportAll (l : Ledger) (logger : String)
    (reports : List (Anomaly × Level)) :
    (l.reportAll logger reports).entries =
      l.entries ++ reports.map fun r => r.1.entry r.2 logger := by
  induction reports generalizing l with
  | nil => simp
  | cons r reports ih =>
    rw [reportAll_cons, ih]
    simp [report, write]

end Ledger

/-- The answer of a computation and the anomalies it warns of. -/
structure Verdict (α : Type) where
  answer : Except Failure α
  anomalies : List Anomaly

namespace Verdict

variable {α β : Type}

/-- A verdict followed by another one, unless the first is a failure. -/
def andThen (v : Verdict α) (next : α → Verdict β) : Verdict β :=
  match v.answer with
  | .ok a => ⟨(next a).answer, v.anomalies ++ (next a).anomalies⟩
  | .error f => ⟨.error f, v.anomalies⟩

@[simp] theorem andThen_ok (a : α) (anomalies : List Anomaly) (next : α → Verdict β) :
    (⟨.ok a, anomalies⟩ : Verdict α).andThen next =
      ⟨(next a).answer, anomalies ++ (next a).anomalies⟩ := rfl

@[simp] theorem andThen_error (f : Failure) (anomalies : List Anomaly) (next : α → Verdict β) :
    (⟨.error f, anomalies⟩ : Verdict α).andThen next = ⟨.error f, anomalies⟩ := rfl

end Verdict

namespace Audited

variable {α β : Type}

@[simp] theorem runOn_pure (a : α) (l : Ledger) : (pure a : Audited α).runOn l = (.ok a, l) := rfl

@[simp] theorem runOn_throw (f : Failure) (l : Ledger) :
    (throw f : Audited α).runOn l = (.error f, l) := rfl

@[simp] theorem runOn_modify (f : Ledger → Ledger) (l : Ledger) :
    (modify f : Audited PUnit).runOn l = (.ok ⟨⟩, f l) := rfl

theorem runOn_bind (x : Audited α) (f : α → Audited β) (l : Ledger) :
    (x >>= f).runOn l =
      match x.runOn l with
      | (.ok a, after) => (f a).runOn after
      | (.error e, after) => (.error e, after) := by
  change (ExceptT.run (x >>= f)).run l = _
  rw [ExceptT.run_bind, StateT.run_bind]
  rcases h : (ExceptT.run x).run l with ⟨answer, after⟩
  have hx : x.runOn l = (answer, after) := h
  rw [hx]
  cases answer <;> rfl

theorem runOn_bind_of_ok {x : Audited α} {l after : Ledger} {a : α}
    (h : x.runOn l = (.ok a, after)) (f : α → Audited β) :
    (x >>= f).runOn l = (f a).runOn after := by
  rw [runOn_bind, h]

theorem runOn_bind_of_error {x : Audited α} {l after : Ledger} {e : Failure}
    (h : x.runOn l = (.error e, after)) (f : α → Audited β) :
    (x >>= f).runOn l = (.error e, after) := by
  rw [runOn_bind, h]

/-- The answer of a computation, and the anomalies collected by a ledger that starts empty. -/
def verdict (x : Audited α) : Verdict α :=
  let run := x.runOn { collected := some [] }
  ⟨run.1, run.2.anomalies⟩

def warn (l : Ledger) (anomalies : List Anomaly) : Ledger :=
  l.reportAll logger (anomalies.map (·, .warning))

@[simp] theorem warn_nil (l : Ledger) : warn l [] = l := rfl

theorem warn_append (l : Ledger) (anomalies more : List Anomaly) :
    warn l (anomalies ++ more) = warn (warn l anomalies) more := by
  simp [warn, Ledger.reportAll_append]

@[simp] theorem collected_warn (l : Ledger) (anomalies : List Anomaly) :
    (warn l anomalies).collected = l.collected.map (· ++ anomalies) := by
  have h : (anomalies.map fun a => (a, Level.warning)).map Prod.fst = anomalies := by
    rw [List.map_map]
    exact List.map_id _
  rw [warn, Ledger.collected_reportAll, h]

/-- A computation that answers alike on all ledgers and leaves its warnings there. -/
def Uniform (x : Audited α) : Prop :=
  ∀ l, x.runOn l = (x.verdict.answer, warn l x.verdict.anomalies)

theorem uniform_of_runOn {x : Audited α} {answer : Except Failure α} (anomalies : List Anomaly)
    (h : ∀ l, x.runOn l = (answer, warn l anomalies)) :
    x.Uniform ∧ x.verdict = ⟨answer, anomalies⟩ := by
  have hv : x.verdict = ⟨answer, anomalies⟩ := by
    simp [verdict, h, Ledger.anomalies]
  refine ⟨?_, hv⟩
  intro l
  rw [hv]
  exact h l

theorem uniform_pure (a : α) : (pure a : Audited α).Uniform :=
  (uniform_of_runOn [] fun _ => rfl).1

@[simp] theorem verdict_pure (a : α) : (pure a : Audited α).verdict = ⟨.ok a, []⟩ := rfl

theorem uniform_throw (f : Failure) : (throw f : Audited α).Uniform :=
  (uniform_of_runOn [] fun _ => rfl).1

@[simp] theorem verdict_throw (f : Failure) : (throw f : Audited α).verdict = ⟨.error f, []⟩ := rfl

theorem uniform_refuse (code : Anomaly.Code) (message : String) (details : Fields) :
    (refuse code message details).Uniform :=
  (uniform_of_runOn [⟨code, message, details⟩] fun _ => rfl).1

@[simp] theorem verdict_refuse (code : Anomaly.Code) (message : String) (details : Fields) :
    (refuse code message details).verdict = ⟨.ok false, [⟨code, message, details⟩]⟩ := rfl

private theorem runOn_bind_of_uniform {x : Audited α} {f : α → Audited β} (hx : x.Uniform)
    (hf : ∀ a, (f a).Uniform) (l : Ledger) :
    (x >>= f).runOn l =
      ((x.verdict.andThen fun a => (f a).verdict).answer,
        warn l (x.verdict.andThen fun a => (f a).verdict).anomalies) := by
  rw [runOn_bind, hx l]
  rcases x.verdict with ⟨answer, anomalies⟩
  cases answer with
  | error e => rfl
  | ok a => simpa [warn_append] using hf a (warn l anomalies)

theorem uniform_bind {x : Audited α} {f : α → Audited β} (hx : x.Uniform)
    (hf : ∀ a, (f a).Uniform) : (x >>= f).Uniform :=
  (uniform_of_runOn _ (runOn_bind_of_uniform hx hf)).1

theorem verdict_bind {x : Audited α} {f : α → Audited β} (hx : x.Uniform)
    (hf : ∀ a, (f a).Uniform) :
    (x >>= f).verdict = x.verdict.andThen fun a => (f a).verdict :=
  (uniform_of_runOn _ (runOn_bind_of_uniform hx hf)).2

end Audited

end TargetedConfig
