import TargetedConfig.Session

/-!
# Runs of sessions

`Session.after` is the session that a list of calls leads to, whether or not they fail. A `Chronicle`
collects something along a run: off each call that holds no others, and off a scope by what it makes
of the things collected inside. `Chronicle.Explains.call` proves once for all calls what a chronicle
has to do with the sessions before and after: it is enough to look at calls that hold no others, at
one stretch after another, and at entering and leaving a scope.
-/

namespace TargetedConfig

namespace Call

def isScope : Call → Bool
  | .scope _ _ _ _ => true
  | _ => false

/-- Scopes are built from the calls of their bodies. -/
theorem body_induction {P : Call → Prop} (flat : ∀ call, call.isScope = false → P call)
    (scope : ∀ version id body givesUp, (∀ call ∈ body, P call) →
      P (.scope version id body givesUp)) : ∀ call, P call := by
  intro call
  refine @Call.rec P (fun body => ∀ call ∈ body, P call) (fun _ => flat _ rfl) (fun _ => flat _ rfl)
    (flat _ rfl) (flat _ rfl) (fun _ => flat _ rfl) scope (fun _ => flat _ rfl)
    (fun _ _ => flat _ rfl) (flat _ rfl) (flat _ rfl) (flat _ rfl) (flat _ rfl)
    (fun _ => flat _ rfl) ?_ ?_ call
  · intro call hc
    cases hc
  · intro head tail hh ht call hc
    rcases List.mem_cons.1 hc with rfl | hc
    · exact hh
    · exact ht call hc

end Call

namespace Session

/-- The session after calls that are made one after the other, whether or not they fail. -/
def after (s : Session) (calls : List Call) : Session := calls.foldl (fun s call => (call.run s).2) s

/-- The session in which the body of a scope begins. -/
def enter (s : Session) (version id : Option String) : Session :=
  { s with journal := (s.journal.enter version id).2 }

/-- The session after a scope in which `after` was reached and which began in `before`. -/
def leave (before after : Session) : Session :=
  { after with journal := after.journal.leave before.journal.binding }

/-- A scope runs its body between entering and leaving. -/
theorem run_scope (s : Session) (version id : Option String) (body : List Call) (givesUp : Bool) :
    ((Call.scope version id body givesUp).run s).2 =
      s.leave (Call.runAll (s.enter version id) body).2 := by
  rw [Call.run, leave, ← Journal.enter_fst s.journal version id]
  rfl

end Session

/-- What is collected along a run. -/
structure Chronicle (α : Type) where
  /-- What is read off a call without calls inside. -/
  flat : Session → Call → List α
  /-- What is read off a scope, by its version and id, and by what is read off its body. -/
  scope : Session → Option String → Option String → List α → List α

namespace Chronicle

variable {α : Type}

mutual

def ofCall (r : Chronicle α) (s : Session) : Call → List α
  | .scope version id body _ => r.scope s version id (r.ofBody (s.enter version id) body)
  | call => r.flat s call

/-- What is read off calls up to the first one that fails. -/
def ofBody (r : Chronicle α) (s : Session) : List Call → List α
  | [] => []
  | call :: rest =>
    r.ofCall s call ++
      match call.run s with
      | (.error _, _) => []
      | (.ok _, after) => r.ofBody after rest

end

/-- What is read off calls that are made one after the other, whether or not they fail. -/
def ofCalls (r : Chronicle α) (s : Session) : List Call → List α
  | [] => []
  | call :: rest => r.ofCall s call ++ r.ofCalls (call.run s).2 rest

theorem ofCalls_append (r : Chronicle α) (s : Session) (calls more : List Call) :
    r.ofCalls s (calls ++ more) = r.ofCalls s calls ++ r.ofCalls (s.after calls) more := by
  induction calls generalizing s with
  | nil => rfl
  | cons call rest ih =>
    rw [List.cons_append, ofCalls, ofCalls, ih, List.append_assoc]
    rfl

/-- A chronicle explains a relation between the session before, what is read, and the session after. -/
structure Explains (r : Chronicle α) (R : Session → List α → Session → Prop) : Prop where
  nil : ∀ s, R s [] s
  append : ∀ {s middle last : Session} {read more : List α},
    R s read middle → R middle more last → R s (read ++ more) last
  flat : ∀ (s : Session) (call : Call), call.isScope = false → R s (r.flat s call) (call.run s).2
  scope : ∀ {s last : Session} {version id : Option String} {read : List α},
    R (s.enter version id) read last → R s (r.scope s version id read) (s.leave last)

namespace Explains

variable {r : Chronicle α} {R : Session → List α → Session → Prop}

private theorem body (h : r.Explains R) {calls : List Call}
    (ih : ∀ call ∈ calls, ∀ s, R s (r.ofCall s call) (call.run s).2) (s : Session) :
    R s (r.ofBody s calls) (Call.runAll s calls).2 := by
  induction calls generalizing s with
  | nil => exact h.nil s
  | cons call rest hr =>
    have hc := ih call List.mem_cons_self s
    rw [Call.runAll, ofBody]
    -- a call that fails is read too, and nothing after it
    rcases hs : call.run s with ⟨f | outcome, after⟩
    · rw [hs] at hc
      exact h.append hc (h.nil _)
    · rw [hs] at hc
      exact h.append hc (hr (fun call hm => ih call (List.mem_cons_of_mem _ hm)) after)

theorem call (h : r.Explains R) (call : Call) (s : Session) :
    R s (r.ofCall s call) (call.run s).2 := by
  induction call using Call.body_induction generalizing s with
  | flat call hf =>
    have hr : r.ofCall s call = r.flat s call := by
      cases call with
      | scope => cases hf
      | _ => rfl
    rw [hr]
    exact h.flat s call hf
  | scope version id calls givesUp ih =>
    rw [Session.run_scope]
    exact h.scope (h.body ih _)

theorem calls (h : r.Explains R) (calls : List Call) (s : Session) :
    R s (r.ofCalls s calls) (s.after calls) := by
  induction calls generalizing s with
  | nil => exact h.nil s
  | cons call rest ih => exact h.append (h.call call s) (ih _)

end Explains

end Chronicle

/-- Calls keep a relation between sessions that the calls without others inside keep, and that
entering and leaving a scope keeps. -/
theorem Call.run_induction {R : Session → Session → Prop} (refl : ∀ s, R s s)
    (trans : ∀ {s middle last : Session}, R s middle → R middle last → R s last)
    (flat : ∀ (s : Session) (call : Call), call.isScope = false → R s (call.run s).2)
    (scope : ∀ {s last : Session} {version id : Option String},
      R (s.enter version id) last → R s (s.leave last)) (call : Call) (s : Session) :
    R s (call.run s).2 :=
  Chronicle.Explains.call (r := ⟨fun _ _ => ([] : List Unit), fun _ _ _ _ => []⟩)
    (R := fun s _ last => R s last) ⟨refl, trans, flat, scope⟩ call s

end TargetedConfig
