import TargetedConfig.Proofs.Context
import TargetedConfig.Proofs.Engine.Failures
import TargetedConfig.Proofs.Session.Basic

/-!
# What a session caches

A submission that can be loaded is cached, also when its version number has no text and setting it
fails for that reason. Whatever calls are made, the engine holds the caller's defaults and what the
last submission that could be loaded gives. Where this submission was set without a failure, the
engine is the one that would be created from it; so it is always when templates are set as texts.
-/

namespace TargetedConfig

namespace Submission

/-- Setting the submission fails after the template has been cached. -/
def Stuck (s : Submission) : Prop := ∃ t text, s.load.1 = .ok (t, text) ∧ t.Unnumbered

/-- Setting the submission ends without a failure. -/
def isAccepted (s : Submission) : Bool :=
  match s.load.1 with
  | .ok (t, _) => t.versionNumber.isOk
  | .error _ => false

/-- What is read from a text is never stuck. -/
theorem not_stuck_text (text : String) : ¬(Submission.text text).Stuck := by
  rintro ⟨t, _, hl, hu⟩
  rw [load] at hl
  dsimp only at hl
  cases ht : (Template.load text).1 with
  | error f =>
    rw [ht] at hl
    cases hl
  | ok u =>
    rw [ht] at hl
    cases hl
    exact Template.not_unnumbered_of_load (Prod.ext ht rfl) hu

theorem isAccepted_of_not_stuck {s : Submission} {given : Template × String}
    (hl : s.load.1 = .ok given) (h : ¬s.Stuck) : s.isAccepted = true := by
  have hu : ¬given.1.Unnumbered := fun hu => h ⟨_, _, hl, hu⟩
  obtain ⟨version, hv⟩ := Template.exists_versionNumber hu
  rw [isAccepted, hl]
  dsimp only
  rw [hv]
  rfl

end Submission

namespace Engine

variable {e : Engine} {defaults : OrderedMap String} {last? : Option Submission}

/-- How setting a submission ends, and the engine after it. -/
inductive Sets (e : Engine) (s : Submission) : Except Failure Unit → Engine → Prop where
  | unloaded {f : Failure} (load : s.load.1 = .error f) : Sets e s (.error f) e
  | stuck {t : Template} {text : String} (load : s.load.1 = .ok (t, text))
      (unnumbered : t.Unnumbered) :
      Sets e s (.error .integerTooLong) { e with cached := some (t, text) }
  | accepted {t : Template} {text : String} {version : Option String}
      (load : s.load.1 = .ok (t, text)) (numbered : t.versionNumber = .ok version) :
      Sets e s (.ok ()) { e with cached := some (t, text) }

theorem sets (e : Engine) (s : Submission) (j : Journal) :
    Sets e s (e.set s j).1 (e.set s j).2.1 := by
  rw [set]
  rcases hl : s.load with ⟨f | ⟨t, text⟩, notes⟩
  · exact .unloaded (congrArg Prod.fst hl)
  · have ht : s.load.1 = .ok (t, text) := congrArg Prod.fst hl
    dsimp only
    rw [cachedNote]
    cases hv : t.versionNumber with
    | error f =>
      obtain ⟨rfl, hu⟩ := Template.versionNumber_eq_error_iff.1 hv
      exact .stuck ht hu
    | ok version => exact .accepted ht hv

/-- An engine holds some defaults and what a submission gives, if there is one. -/
inductive Caches : Engine → OrderedMap String → Option Submission → Prop where
  | nothing (defaults : OrderedMap String) : Caches { defaults } defaults none
  | loaded {s : Submission} {given : Template × String} (defaults : OrderedMap String)
      (load : s.load.1 = .ok given) : Caches { defaults, cached := some given } defaults (some s)

theorem Caches.defaults_eq (h : e.Caches defaults last?) : e.defaults = defaults := by
  cases h <;> rfl

/-- An engine is the one that would be created from some defaults and a submission, if there is
one. -/
def MadeOf (e : Engine) (defaults : OrderedMap String) (last? : Option Submission) : Prop :=
  ∀ j, (create defaults last? j).1 = .ok e

theorem madeOf_some_iff {s : Submission} :
    e.MadeOf defaults (some s) ↔ ∃ t text version, s.load.1 = .ok (t, text) ∧
      t.versionNumber = .ok version ∧ e = { defaults, cached := some (t, text) } := by
  have hc (j : Journal) : ∃ ended engine, Sets { defaults } s ended engine ∧
      (create defaults (some s) j).1 = ended.map fun _ => engine :=
    ⟨_, _, sets { defaults } s j, rfl⟩
  constructor
  · intro h
    obtain ⟨_, _, hs, he⟩ := hc {}
    rw [h {}] at he
    cases hs with
    | unloaded => cases he
    | stuck => cases he
    | accepted hl hv =>
      cases he
      exact ⟨_, _, _, hl, hv, rfl⟩
  · rintro ⟨t, text, version, hl, hv, rfl⟩ j
    obtain ⟨_, _, hs, he⟩ := hc j
    rw [he]
    cases hs with
    | unloaded h =>
      rw [hl] at h
      cases h
    | stuck h hu =>
      rw [hl] at h
      cases h
      exact absurd hv (hu.versionNumber_ne version)
    | accepted h =>
      rw [hl] at h
      cases h
      rfl

/-- An engine that holds what a stuck submission gives is made of no submission. -/
theorem Caches.not_madeOf {s : Submission} (h : e.Caches defaults (some s)) (hs : s.Stuck)
    (last? : Option Submission) : ¬e.MadeOf defaults last? := by
  intro hm
  obtain ⟨u, _, hu, hn⟩ := hs
  cases h with
  | loaded _ hl =>
    rw [hu] at hl
    cases hl
    cases last? with
    | none => cases hm {}
    | some other =>
      obtain ⟨_, _, version, -, hv, he⟩ := madeOf_some_iff.1 hm
      cases he
      exact hn.versionNumber_ne version hv

/-- The engine is made of the last submission that was set without a failure exactly when no later
one was stuck. -/
theorem Caches.madeOf_accepted_iff {loaded : List Submission}
    (h : e.Caches defaults loaded.getLast?) :
    e.MadeOf defaults (loaded.filter Submission.isAccepted).getLast? ↔
      ∀ last, loaded.getLast? = some last → ¬last.Stuck := by
  cases hl : loaded.getLast? with
  | none =>
    rw [hl] at h
    cases h
    rw [List.getLast?_eq_none_iff.1 hl]
    exact ⟨nofun, fun _ _ => rfl⟩
  | some last =>
    rw [hl] at h
    constructor
    · rintro hm _ ⟨⟩ hs
      exact h.not_madeOf hs _ hm
    · intro hs
      have hn := hs last rfl
      cases h with
      | @loaded _ given _ hg =>
        obtain ⟨earlier, rfl⟩ := List.getLast?_eq_some_iff.1 hl
        have ha := Submission.isAccepted_of_not_stuck hg hn
        obtain ⟨version, hv⟩ := Template.exists_versionNumber fun hu => hn ⟨_, _, hg, hu⟩
        rw [List.filter_append, List.filter_singleton, ha, cond_true, List.getLast?_concat,
          madeOf_some_iff]
        exact ⟨_, _, version, hg, hv, rfl⟩

/-- An evaluation asks for a template exactly when there is none. -/
theorem evaluate_eq_noTemplate_iff (e : Engine) (r : Request) (j : Journal) :
    (e.evaluate r j).1 = .error .noTemplate ↔ e.cached = none := by
  constructor
  · intro h
    cases he : e.cached with
    | none => rfl
    | some cached =>
      exfalso
      have hc : e.cached = some (cached.1, cached.2) := he
      cases hr : r.toContext with
      | error f =>
        rw [evaluate_of_request hc hr] at h
        cases h
        cases r with
        | signals s =>
          obtain ⟨_, _, _, _, -, ⟨⟩, -⟩ := Context.ofSignals_eq_error_iff.1 hr
        | context c => cases hr
      | ok c =>
        rcases (evaluate_eq_error_iff hc hr j _).1 h with ⟨hf, -⟩ | ⟨-, _, hf, -⟩ <;> cases hf
  · intro he
    rw [evaluate, he]

/-- What an engine holds after some submissions have been cached, the last one last. -/
structure Holds (e : Engine) (defaults : OrderedMap String) (loaded : List Submission) : Prop where
  caches : e.Caches defaults loaded.getLast?
  cached_iff : e.cached.isSome = true ↔ loaded ≠ []
  cachedText_iff : e.cachedText.isSome = true ↔ loaded ≠ []
  toJson_iff : e.toJson.isSome = true ↔ loaded ≠ []
  noTemplate_iff : ∀ r j, (e.evaluate r j).1 = .error .noTemplate ↔ loaded = []

theorem holds_of_caches {loaded : List Submission} (h : e.Caches defaults loaded.getLast?) :
    e.Holds defaults loaded := by
  have hc : e.cached.isSome = true ↔ loaded ≠ [] := by
    rw [← List.getLast?_isSome]
    generalize loaded.getLast? = last? at h
    cases h <;> simp
  refine ⟨h, hc, ?_, ?_, ?_⟩
  · rw [cachedText, Option.isSome_map, hc]
  · rw [toJson, Option.isSome_map, hc]
  · intro r j
    rw [evaluate_eq_noTemplate_iff, ← Option.not_isSome_iff_eq_none, hc, not_not]

end Engine

/-- The submissions that pass a test when they are set. -/
def Chronicle.submissions (test : Session → Submission → Bool) : Chronicle Submission where
  flat s
    | .set submission => if test s submission then [submission] else []
    | _ => []
  scope _ _ _ inside := inside

namespace Chronicle

variable {test test' : Session → Submission → Bool} {p : Submission → Bool}

/-- A test that asks for more leaves out what fails it. -/
theorem ofCall_submissions_filter (h : ∀ s submission, test' s submission =
    (test s submission && p submission)) (call : Call) (s : Session) :
    (submissions test').ofCall s call = ((submissions test).ofCall s call).filter p := by
  induction call using Call.body_induction generalizing s with
  | flat call hf =>
    cases call with
    | scope => cases hf
    | set submission =>
      simp only [ofCall, submissions, h]
      cases test s submission <;> cases hp : p submission <;> simp [hp]
    | _ => rfl
  | scope version id body givesUp ih =>
    rw [ofCall, ofCall]
    change (submissions test').ofBody _ body = ((submissions test).ofBody _ body).filter p
    generalize s.enter version id = entered
    induction body generalizing entered with
    | nil => rfl
    | cons call rest ihr =>
      rw [ofBody, ofBody, List.filter_append, ih call List.mem_cons_self]
      rcases call.run entered with ⟨f | outcome, after⟩
      · rfl
      · dsimp only
        rw [ihr fun call hm => ih call (List.mem_cons_of_mem _ hm)]

theorem ofCalls_submissions_filter (h : ∀ s submission, test' s submission =
    (test s submission && p submission)) (calls : List Call) (s : Session) :
    (submissions test').ofCalls s calls = ((submissions test).ofCalls s calls).filter p := by
  induction calls generalizing s with
  | nil => rfl
  | cons call rest ih =>
    rw [ofCalls, ofCalls, List.filter_append, ofCall_submissions_filter h, ih]

end Chronicle

namespace Session

/-- The submissions that can be loaded, of calls that are made one after the other. -/
def loaded (s : Session) (calls : List Call) : List Submission :=
  (Chronicle.submissions fun _ submission => submission.load.1.isOk).ofCalls s calls

def accepted (s : Session) (calls : List Call) : List Submission :=
  (Chronicle.submissions fun s submission => (s.set submission).1.isOk).ofCalls s calls

theorem loaded_append (s : Session) (calls more : List Call) :
    s.loaded (calls ++ more) = s.loaded calls ++ (s.after calls).loaded more :=
  Chronicle.ofCalls_append _ s calls more

theorem loaded_set (s : Session) (submission : Submission) :
    s.loaded [.set submission] = if submission.load.1.isOk then [submission] else [] := by
  rw [loaded, Chronicle.ofCalls, Chronicle.ofCalls, List.append_nil]
  rfl

variable {s : Session} {call : Call}

/-- How the engine is set tells what the call answers and which engine it leaves. -/
theorem exists_sets (s : Session) (submission : Submission) :
    ∃ ended engine, Engine.Sets s.engine submission ended engine ∧
      (s.set submission).1 = ended.map (fun _ => .done) ∧ (s.set submission).2.engine = engine :=
  ⟨_, _, s.engine.sets submission s.journal, rfl, rfl⟩

theorem isOk_set (s : Session) (submission : Submission) :
    (s.set submission).1.isOk = (submission.load.1.isOk && submission.isAccepted) := by
  obtain ⟨_, _, hs, he, -⟩ := s.exists_sets submission
  rw [he, Submission.isAccepted]
  cases hs with
  | unloaded hl =>
    rw [hl]
    rfl
  | stuck hl hu =>
    rw [hl]
    dsimp only
    rw [hu.versionNumber_eq]
    rfl
  | accepted hl hv =>
    rw [hl]
    dsimp only
    rw [hv]
    rfl

theorem accepted_eq (s : Session) (calls : List Call) :
    s.accepted calls = (s.loaded calls).filter Submission.isAccepted :=
  Chronicle.ofCalls_submissions_filter isOk_set calls s

/-- A call that is not a submission leaves the engine as it was. -/
private theorem engine_run_of_ne_set (hf : call.isScope = false)
    (hn : ∀ submission, call ≠ .set submission) : (call.run s).2.engine = s.engine := by
  cases call with
  | scope => cases hf
  | set submission => exact absurd rfl (hn submission)
  | evaluate r keys =>
    rw [Call.run, evaluate]
    split <;> rfl
  | summary =>
    rw [Call.run, summary]
    split
    · rfl
    · split <;> rfl
  | _ => rfl

variable {defaults : OrderedMap String} {last? : Option Submission}

private theorem caches_set (h : s.engine.Caches defaults last?) (submission : Submission) :
    (s.set submission).2.engine.Caches defaults
      ((if submission.load.1.isOk then [submission] else []).getLast?.or last?) := by
  obtain ⟨_, _, hs, -, hg⟩ := s.exists_sets submission
  rw [hg]
  cases hs with
  | unloaded hl =>
    rw [hl]
    exact h
  | stuck hl =>
    rw [hl, h.defaults_eq]
    exact .loaded defaults hl
  | accepted hl =>
    rw [hl, h.defaults_eq]
    exact .loaded defaults hl

/-- Calls leave the engine with what the last submission that can be loaded gives. -/
private theorem loaded_explains (defaults : OrderedMap String) :
    (Chronicle.submissions fun _ submission => submission.load.1.isOk).Explains
      fun s loaded last => ∀ {last? : Option Submission}, s.engine.Caches defaults last? →
        last.engine.Caches defaults (loaded.getLast?.or last?) where
  nil s := fun h => h
  append hr hm := by
    intro last? h
    rw [List.getLast?_append, Option.or_assoc]
    exact hm (hr h)
  flat s call hf := by
    intro last? h
    by_cases hs : ∃ submission, call = .set submission
    · obtain ⟨submission, rfl⟩ := hs
      exact caches_set h submission
    · have hn : ∀ submission, call ≠ .set submission := fun submission hc => hs ⟨submission, hc⟩
      rw [engine_run_of_ne_set hf hn]
      cases call with
      | set submission => exact absurd rfl (hn submission)
      | _ => exact h
  -- entering and leaving concern the journal only
  scope hr := hr

/-- How a call that fails leaves the engine: as it was, unless it is a submission that is stuck. -/
theorem engine_of_error {f : Failure} (hf : call.isScope = false)
    (h : (call.run s).1 = .error f) :
    (call.run s).2.engine = s.engine ∨
      ∃ submission t text, call = .set submission ∧ f = .integerTooLong ∧
        submission.load.1 = .ok (t, text) ∧ t.Unnumbered ∧
        (call.run s).2.engine = { s.engine with cached := some (t, text) } := by
  by_cases hs : ∃ submission, call = .set submission
  · obtain ⟨submission, rfl⟩ := hs
    obtain ⟨_, _, hs, he, hg⟩ := s.exists_sets submission
    rw [Call.run, he] at h
    rw [Call.run, hg]
    cases hs with
    | unloaded => exact .inl rfl
    | stuck hl hu =>
      cases h
      exact .inr ⟨submission, _, _, rfl, rfl, hl, hu, rfl⟩
    | accepted => cases h
  · exact .inl (engine_run_of_ne_set hf fun submission hc => hs ⟨submission, hc⟩)

/-- After any calls on a new engine, scopes and failures included, the engine holds the caller's
defaults and what the last submission that can be loaded gives. It is the engine that would be
created from these defaults and the last submission that was set without a failure exactly when the
last one that can be loaded is not stuck, and no submission of a text is. No other call changes the
engine of a session; nor does a call that fails, unless it is a submission that is stuck. -/
theorem engine_holds_loaded (defaults : OrderedMap String) (j : Journal) (calls : List Call) :
    ((⟨{ defaults }, j⟩ : Session).after calls).engine.Holds defaults
      ((⟨{ defaults }, j⟩ : Session).loaded calls) ∧
    (((⟨{ defaults }, j⟩ : Session).after calls).engine.MadeOf defaults
        ((⟨{ defaults }, j⟩ : Session).accepted calls).getLast? ↔
      ∀ last, ((⟨{ defaults }, j⟩ : Session).loaded calls).getLast? = some last →
        ¬last.Stuck) ∧
    (∀ text, ¬(Submission.text text).Stuck) ∧
    (∀ (s : Session) (call : Call), call.isScope = false →
      (∀ submission, call ≠ .set submission) → (call.run s).2.engine = s.engine) ∧
    ∀ (s : Session) (call : Call) f, call.isScope = false → (call.run s).1 = .error f →
      (call.run s).2.engine = s.engine ∨
        ∃ submission t text, call = .set submission ∧ f = .integerTooLong ∧
          submission.load.1 = .ok (t, text) ∧ t.Unnumbered ∧
          (call.run s).2.engine = { s.engine with cached := some (t, text) } := by
  have h := (loaded_explains defaults).calls calls ⟨{ defaults }, j⟩ (.nothing defaults)
  rw [Option.or_none] at h
  refine ⟨Engine.holds_of_caches h, ?_, Submission.not_stuck_text, ?_, ?_⟩
  · rw [accepted_eq]
    exact h.madeOf_accepted_iff
  · intro s call
    exact engine_run_of_ne_set
  · intro s call f
    exact engine_of_error

/-- A template that is set, one that cannot be read, and a scope that sets another template before a
call in it fails. -/
def trials : List Call :=
  [.evaluate (.signals .empty) [], .set (.template { etag := some "tag" }), .set (.text ""),
    .scope none none [.set (.template {}), .refused .missingContext, .set (.text "")] false]

/-- A template whose version number has no text. -/
def overlong : Template where
  version := some (.ofList [("versionNumber", .integer Text.leastTooLong)])

theorem unnumbered_overlong : overlong.Unnumbered :=
  ⟨_, _, rfl, rfl, .integer Text.tooLong_leastTooLong⟩

theorem load_overlong :
    (Submission.template overlong).load.1 = .ok (overlong, overlong.render) := rfl

theorem stuck_overlong : (Submission.template overlong).Stuck :=
  ⟨overlong, overlong.render, load_overlong, unnumbered_overlong⟩

theorem loaded_trials :
    ({} : Session).loaded (trials ++ [.set (.template overlong)]) =
      [.template { etag := some "tag" }, .template {}, .template overlong] := by
  have ht : ({} : Session).loaded trials = [.template { etag := some "tag" }, .template {}] := rfl
  rw [loaded_append, ht, loaded_set, load_overlong]
  rfl

theorem engine_holds_loaded_trials :
    (({} : Session).after trials).engine.MadeOf .empty (some (.template {})) ∧
    (({} : Session).after (trials ++ [.set (.template overlong)])).engine.Holds .empty
      [.template { etag := some "tag" }, .template {}, .template overlong] ∧
    ¬(({} : Session).after (trials ++ [.set (.template overlong)])).engine.MadeOf .empty
      (({} : Session).accepted (trials ++ [.set (.template overlong)])).getLast? := by
  have hl : ({} : Session).loaded trials = [.template { etag := some "tag" }, .template {}] := rfl
  have ha : ({} : Session).accepted trials = [.template { etag := some "tag" }, .template {}] := rfl
  have made := (engine_holds_loaded .empty {} trials).2.1
  obtain ⟨holds, stuck, -⟩ := engine_holds_loaded .empty {} (trials ++ [.set (.template overlong)])
  rw [ha, hl] at made
  rw [loaded_trials] at holds stuck
  refine ⟨made.2 ?_, holds, fun hm => stuck.1 hm _ rfl stuck_overlong⟩
  rintro _ ⟨⟩ ⟨t, text, ht, details, v, hd, -⟩
  cases ht
  cases hd

/-- A call that fails does not always leave the engine as it was. -/
theorem engine_not_kept :
    ¬∀ (s : Session) (call : Call) f, (call.run s).1 = .error f →
      (call.run s).2.engine = s.engine := by
  intro h
  obtain ⟨_, _, hs, he, hg⟩ := Session.exists_sets {} (.template overlong)
  have hk := h {} (.set (.template overlong))
  rw [Call.run, he, hg] at hk
  cases hs with
  | unloaded hl => cases hl
  | stuck => cases hk .integerTooLong rfl
  | accepted hl hv =>
    cases hl
    exact unnumbered_overlong.versionNumber_ne _ hv

end Session

end TargetedConfig
