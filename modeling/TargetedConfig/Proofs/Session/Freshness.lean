import TargetedConfig.Proofs.Engine.Configuration
import TargetedConfig.Proofs.Session.Basic

/-!
# Fresh evaluation ids

A serial is unspent while no id made of it is bound, put aside by an open scope or carried by a
record. In every session that a program comes through, at any depth of scopes, the next serial is
unspent; this is the one under which an evaluation writes its entries.
-/

namespace TargetedConfig

namespace Journal

/-- No id made of a serial is bound, put aside by open scopes or carried by a record. -/
structure Unspent (j : Journal) (aside : List Binding) (serial : Nat) : Prop where
  bound : ∀ b ∈ j.binding :: aside, b.evaluationId ≠ some (.fresh serial)
  recorded : ∀ r ∈ j.records, r.evaluationId ≠ some (.fresh serial)

/-- All serials from the next one on are unspent. -/
def Sound (j : Journal) (aside : List Binding) : Prop :=
  ∀ serial, j.next ≤ serial → j.Unspent aside serial

variable {j j' : Journal} {aside : List Binding}

theorem sound_new : ({} : Journal).Sound [] := fun _ _ => ⟨by simp, by simp⟩

theorem records_idOr (j : Journal) (id : Option String) : (j.idOr id).2.records = j.records := by
  cases id <;> rfl

theorem records_enter (j : Journal) (version id : Option String) :
    (j.enter version id).2.records = j.records := records_idOr j id

theorem next_le_idOr (j : Journal) (id : Option String) : j.next ≤ (j.idOr id).2.next := by
  cases id
  · exact Nat.le_succ _
  · exact Nat.le_refl _

/-- An id that a caller gives or that is made of the next serial is of no later serial. -/
theorem idOr_ne_fresh {id : Option String} {serial : Nat} (h : (j.idOr id).2.next ≤ serial) :
    (j.idOr id).1 ≠ .fresh serial := by
  cases id with
  | some text => exact nofun
  | none =>
    intro hs
    cases hs
    exact Nat.not_succ_le_self _ h

namespace Sound

/-- What is bound anew must not be of a later serial. -/
theorem bind (h : j.Sound aside) (hr : j'.records = j.records) (hn : j.next ≤ j'.next)
    (hb : ∀ serial, j'.next ≤ serial → j'.binding.evaluationId ≠ some (.fresh serial)) :
    j'.Sound aside := by
  intro serial hs
  have hu := h serial (Nat.le_trans hn hs)
  constructor
  · intro b hm
    rcases List.mem_cons.1 hm with rfl | hm
    · exact hb serial hs
    · exact hu.bound b (List.mem_cons_of_mem _ hm)
  · rw [hr]
    exact hu.recorded

theorem setEvaluationId (h : j.Sound aside) (id : Option String) :
    (j.setEvaluationId id).2.Sound aside :=
  h.bind (records_idOr j id) (next_le_idOr j id)
    fun _ hs he => idOr_ne_fresh hs (Option.some.inj he)

theorem setTemplateVersion (h : j.Sound aside) (version : Option String) :
    (j.setTemplateVersion version).Sound aside :=
  h.bind rfl (Nat.le_refl _) fun serial hs =>
    (h serial hs).bound j.binding List.mem_cons_self

theorem clear (h : j.Sound aside) : j.clear.Sound aside :=
  h.bind rfl (Nat.le_refl _) fun _ _ => nofun

/-- An entry carries no id but the one that is bound. -/
theorem writeAll (h : j.Sound aside) (entries : List Entry) : (j.writeAll entries).Sound aside := by
  intro serial hs
  have hu := h serial hs
  refine ⟨hu.bound, ?_⟩
  intro r hr he
  rcases List.mem_append.1 hr with hr | hr
  · exact hu.recorded r hr he
  · obtain ⟨e, -, rfl⟩ := List.mem_map.1 hr
    exact hu.bound _ List.mem_cons_self (Option.filter_eq_some_iff.1 he).1

/-- A scope puts aside what is bound. -/
theorem enter (h : j.Sound aside) (version id : Option String) :
    (j.enter version id).2.Sound (j.binding :: aside) := by
  intro serial hs
  have hu := h serial (Nat.le_trans (next_le_idOr j id) hs)
  constructor
  · intro b hm
    rcases List.mem_cons.1 hm with rfl | hm
    · exact fun he => idOr_ne_fresh hs (Option.some.inj he)
    · exact hu.bound b hm
  · rw [records_enter]
    exact hu.recorded

/-- It takes back what it has put aside. -/
theorem leave {b : Binding} (h : j.Sound (b :: aside)) : (j.leave b).Sound aside := by
  intro serial hs
  have hu := h serial hs
  exact ⟨fun b hm => hu.bound b (List.mem_cons_of_mem _ hm), hu.recorded⟩

end Sound

end Journal

open Journal

theorem Engine.sound_set {j : Journal} {aside : List Binding} (h : j.Sound aside) (e : Engine)
    (submission : Submission) : (e.set submission j).2.2.Sound aside := by
  rw [set]
  rcases submission.load with ⟨f | ⟨t, text⟩, notes⟩
  · exact h.writeAll notes
  · dsimp only
    cases cachedNote t with
    | error f => exact h.writeAll notes
    | ok note => exact (h.writeAll notes).writeAll [note]

theorem Engine.sound_evaluate {j : Journal} {aside : List Binding} (h : j.Sound aside) (e : Engine)
    (r : Request) : (e.evaluate r j).2.Sound aside := by
  rw [evaluate]
  split
  · exact h
  · split
    · exact h
    · split
      · exact h
      · rw [Journal.within]
        dsimp only
        rw [Journal.enter_fst]
        exact ((h.enter _ none).writeAll _).leave

namespace Session

/-- The sessions that a program comes through, with what the open scopes have put aside. -/
inductive Reached : Session → List Binding → Prop where
  | start (engine : Engine) : Reached ⟨engine, {}⟩ []
  | run {s : Session} {aside : List Binding} (call : Call) (h : Reached s aside) :
    Reached (call.run s).2 aside
  | enter {s : Session} {aside : List Binding} (version id : Option String) (h : Reached s aside) :
    Reached (s.enter version id) (s.journal.binding :: aside)

variable {s : Session} {aside : List Binding}

private theorem sound_flat {call : Call} (hf : call.isScope = false) (h : s.journal.Sound aside) :
    (call.run s).2.journal.Sound aside := by
  cases call with
  | scope => cases hf
  | setEvaluationId id => exact h.setEvaluationId id
  | setTemplateVersion version => exact h.setTemplateVersion version
  | clear => exact h.clear
  | log e => exact h.writeAll [e]
  | set submission => exact Engine.sound_set h s.engine submission
  | evaluate r keys =>
    have he := Engine.sound_evaluate h s.engine r
    rw [Call.run, evaluate]
    split
    · rwa [‹s.engine.evaluate _ _ = _›] at he
    · rw [‹s.engine.evaluate _ _ = _›] at he
      exact he.writeAll _
  | summary =>
    rw [Call.run, summary]
    split
    · exact h
    · split
      · exact h
      · exact h.writeAll _
  | bound => exact h
  | toJson => exact h
  | cachedText => exact h
  | defaults => exact h
  | refused f => exact h

theorem sound_run (call : Call) (h : s.journal.Sound aside) :
    (call.run s).2.journal.Sound aside := by
  refine Call.run_induction (R := fun s last => ∀ {aside : List Binding}, s.journal.Sound aside →
    last.journal.Sound aside) ?_ ?_ ?_ ?_ call s h
  · intro s aside h
    exact h
  · intro s middle last hs hm aside h
    exact hm (hs h)
  · intro s call hf aside h
    exact sound_flat hf h
  · -- inside, one binding more is put aside: the one that leaving takes back
    intro s last version id hb aside h
    exact (hb (h.enter version id)).leave

theorem Reached.sound (h : s.Reached aside) : s.journal.Sound aside := by
  induction h with
  | start engine => exact sound_new
  | run call _ ih => exact sound_run call ih
  | enter version id _ ih => exact ih.enter version id

/-- All entries of an evaluation carry an id of a serial that was unspent before, and the version of
the template if it has one. -/
theorem Reached.stamps_evaluate (h : s.Reached aside) (r : Request) :
    ∃ serial written, s.journal.Unspent aside serial ∧
      (s.engine.evaluate r s.journal).2.records = s.journal.records ++ written ∧
      ∀ record ∈ written, record.evaluationId = some (.fresh serial) ∧
        ∃ t text version, s.engine.cached = some (t, text) ∧ t.versionNumber = .ok version ∧
          record.templateVersion = version.filter (· ≠ "") := by
  have hu := h.sound s.journal.next (Nat.le_refl _)
  cases he : s.engine.cached with
  | none => exact ⟨_, [], hu, by simp [Engine.evaluate, he], by simp⟩
  | some cached =>
    cases hr : r.toContext with
    | error f => exact ⟨_, [], hu, by simp [Engine.evaluate, he, hr], by simp⟩
    | ok c =>
      cases hv : cached.1.versionNumber with
      | error f => exact ⟨_, [], hu, by simp [Engine.evaluate, he, hr, hv], by simp⟩
      | ok version =>
        have hc : s.engine.cached = some (cached.1, cached.2) := he
        refine ⟨_, _, hu, by rw [Engine.evaluate_eq hc hr hv], ?_⟩
        intro record hm
        obtain ⟨e, -, rfl⟩ := List.mem_map.1 hm
        exact ⟨rfl, _, _, version, rfl, hv, rfl⟩

end Session

end TargetedConfig
