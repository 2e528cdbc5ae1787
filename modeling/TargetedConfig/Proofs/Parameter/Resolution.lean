import TargetedConfig.Parameter.Resolution
import TargetedConfig.Proofs.Ledger
import TargetedConfig.Proofs.OrderedMap

/-!
# Resolution as a list of decisions

Every parameter is decided on its own, whatever has been resolved before. A run of the resolver
writes the texts that are served into the map of the caller's defaults and reports the other
decisions, both in the order of the parameters.
-/

namespace TargetedConfig

namespace Decision

def served? : Decision → Option String
  | .serve text => some text
  | .keep _ _ => none

/-- What a decision that serves nothing reports. -/
def report? : Decision → Option (Anomaly × Level)
  | .serve _ => none
  | .keep anomaly level => some (anomaly, level)

end Decision

namespace Resolution

/-- The decisions about parameters when some conditions are true. -/
def decisions (names : List String) (parameters : List (String × Parameter)) :
    List (String × Decision) :=
  parameters.map fun p => (p.1, p.2.decide p.1 names)

def write (done : OrderedMap Value) (p : String × Decision) : OrderedMap Value :=
  match p.2.served? with
  | some text => done.insert p.1 ⟨.remote, text⟩
  | none => done

def serveAll (done : OrderedMap Value) (decided : List (String × Decision)) : OrderedMap Value :=
  decided.foldl write done

def reports (decided : List (String × Decision)) : List (Anomaly × Level) :=
  decided.flatMap fun p => p.2.report?.toList

private theorem run_apply (key : String) (decision : Decision) (done : OrderedMap Value)
    (l : Ledger) :
    (apply key decision done).run l =
      (write done (key, decision), l.reportAll logger decision.report?.toList) := by
  cases decision <;> rfl

theorem run_resolveAll (names : List String) (parameters : List (String × Parameter))
    (done : OrderedMap Value) (l : Ledger) :
    (resolveAll names parameters done).run l =
      (serveAll done (decisions names parameters),
        l.reportAll logger (reports (decisions names parameters))) := by
  induction parameters generalizing done l with
  | nil => rfl
  | cons p rest ih =>
    obtain ⟨key, parameter⟩ := p
    rw [resolveAll, StateT.run_bind, run_apply]
    change (resolveAll names rest (write done (key, parameter.decide key names))).run _ = _
    rw [ih, ← Ledger.reportAll_append]
    rfl

/-- A run of the resolver writes what is served and reports the rest. -/
theorem run_resolve (parameters : OrderedMap Parameter) (evaluated : OrderedMap Bool)
    (defaults : OrderedMap String) (order : Option (List String)) (l : Ledger) :
    (resolve parameters evaluated defaults order).run l =
      let decided := decisions (trueNames evaluated (order.getD evaluated.keys)) parameters.entries
      (serveAll (seed defaults) decided, l.reportAll logger (reports decided)) :=
  run_resolveAll _ _ _ _

/-- The entry of a key is the text that the decision about it serves, or else what it was. -/
theorem get?_serveAll (done : OrderedMap Value) {decided : List (String × Decision)}
    (h : (decided.map Prod.fst).Nodup) (key : String) :
    (serveAll done decided).get? key =
      match (decided.lookup key).bind Decision.served? with
      | some text => some ⟨.remote, text⟩
      | none => done.get? key := by
  induction decided generalizing done with
  | nil => rfl
  | cons p rest ih =>
    obtain ⟨k, decision⟩ := p
    rw [List.map_cons, List.nodup_cons] at h
    change (serveAll (write done (k, decision)) rest).get? key = _
    rw [ih _ h.2, lookup_cons_eq_ite]
    by_cases hk : key = k
    · subst hk
      rw [(lookup_eq_none_iff_not_mem rest key).2 h.1, if_pos rfl]
      cases hs : decision.served? <;> simp [write, hs]
    · rw [if_neg hk]
      cases hs : decision.served? <;> simp [write, hs, hk]

theorem keys_decisions (names : List String) (parameters : List (String × Parameter)) :
    (decisions names parameters).map Prod.fst = parameters.map Prod.fst := by
  simp [decisions]

theorem lookup_decisions (names : List String) (parameters : List (String × Parameter))
    (key : String) :
    (decisions names parameters).lookup key =
      (parameters.lookup key).map fun p => p.decide key names := by
  induction parameters with
  | nil => rfl
  | cons p rest ih =>
    obtain ⟨k, parameter⟩ := p
    have hd : decisions names ((k, parameter) :: rest) =
        (k, parameter.decide k names) :: decisions names rest := rfl
    rw [hd, lookup_cons_eq_ite, lookup_cons_eq_ite, ih]
    by_cases hk : key = k
    · rw [if_pos hk, if_pos hk, hk]
      rfl
    · rw [if_neg hk, if_neg hk]

theorem get?_seed (defaults : OrderedMap String) (key : String) :
    (seed defaults).get? key = (defaults.get? key).map fun raw => ⟨.default, raw⟩ :=
  OrderedMap.get?_map _ _ _

end Resolution

namespace Parameter

/-- The first true condition that has a value for a parameter decides about it. -/
theorem conditional?_eq (p : Parameter) (names : List String) :
    p.conditional? names =
      (names.find? p.conditional.contains).bind fun name =>
        (p.conditional.get? name).map fun value => (name, value) := by
  induction names with
  | nil => rfl
  | cons name rest ih =>
    rw [conditional?, List.find?_cons]
    cases h : p.conditional.get? name with
    | none => simpa [OrderedMap.contains, h] using ih
    | some value => simp [OrderedMap.contains, h]

/-- A decision depends on a list of names by the first one with a value. -/
theorem decide_congr {p : Parameter} {names others : List String}
    (h : names.find? p.conditional.contains = others.find? p.conditional.contains) (key : String) :
    p.decide key names = p.decide key others := by
  rw [decide, decide, conditional?_eq, conditional?_eq, h]

private theorem details_of_decideConditional {key name : String} {value : ParameterValue}
    {anomaly : Anomaly} {level : Level}
    (h : decideConditional key name value = .keep anomaly level) :
    ∃ more, anomaly.details = ("parameter", .string key) :: more ∧
      ∀ detail ∈ more, detail.1 ∈ ["condition", "value_kind"] := by
  rcases value with text | _ | ⟨id, _ | text, percent⟩ | id <;> cases h <;>
    exact ⟨_, rfl, by simp⟩

private theorem details_of_decideDefault {key : String} {value : Option ParameterValue}
    {anomaly : Anomaly} {level : Level} (h : decideDefault key value = .keep anomaly level) :
    ∃ more, anomaly.details = ("parameter", .string key) :: more ∧
      ∀ detail ∈ more, detail.1 ∈ ["condition", "value_kind"] := by
  unfold decideDefault at h
  split at h
  · cases h
    exact ⟨_, rfl, by simp⟩
  · cases h
    exact ⟨_, rfl, by simp⟩
  · split at h <;> cases h <;> exact ⟨_, rfl, by simp⟩

/-- A decision that keeps an entry names the parameter, and then at most a condition and a kind of
value. -/
theorem details_of_decide {p : Parameter} {key : String} {names : List String} {anomaly : Anomaly}
    {level : Level} (h : p.decide key names = .keep anomaly level) :
    ∃ more, anomaly.details = ("parameter", .string key) :: more ∧
      ∀ detail ∈ more, detail.1 ∈ ["condition", "value_kind"] := by
  rw [decide] at h
  split at h
  · exact details_of_decideConditional h
  · exact details_of_decideDefault h

end Parameter

/-- Names that agree on the first one of any kind lead to the same decisions. -/
theorem Resolution.decisions_congr {names others : List String}
    (h : ∀ p : String → Bool, names.find? p = others.find? p)
    (parameters : List (String × Parameter)) :
    decisions names parameters = decisions others parameters := by
  rw [decisions, decisions]
  refine List.map_congr_left fun entry _ => ?_
  rw [Parameter.decide_congr (h _)]

end TargetedConfig
