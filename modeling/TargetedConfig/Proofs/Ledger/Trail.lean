import Mathlib.Data.List.Forall2
import TargetedConfig.Proofs.Ledger

/-!
# What a computation leaves behind

The trail of a computation is its answer, the entries it writes and the anomalies it adds to a
collector. `Audited.Leaves` says that a computation leaves one trail on every ledger, whether or not
anomalies are collected there and whatever has been collected before, and that the anomalies of this
trail are those that its entries tell of, one by one.
-/

namespace TargetedConfig

namespace Entry

def carriesAnomaly (e : Entry) : Bool := (e.fields.lookup "anomaly").isSome

/-- An entry tells of an anomaly: it carries the code, its event is the message, and its other
fields are the details. -/
structure TellsOf (e : Entry) (a : Anomaly) : Prop where
  code : e.fields.lookup "anomaly" = some (.string a.code.name)
  message : e.event = a.message
  details : e.fields.filter (·.1 ≠ "anomaly") = a.details

/-- The entries of a list that carry an anomaly tell of the given ones, one by one and in order. -/
def TellAll (entries : List Entry) (anomalies : List Anomaly) : Prop :=
  List.Forall₂ TellsOf (entries.filter carriesAnomaly) anomalies

theorem TellAll.append {es fs : List Entry} {as bs : List Anomaly} (h : TellAll es as)
    (k : TellAll fs bs) : TellAll (es ++ fs) (as ++ bs) := by
  rw [TellAll, List.filter_append]
  exact List.rel_append h k

/-- Entries that carry no anomaly tell of none. -/
theorem TellAll.of_none {es : List Entry} (h : ∀ e ∈ es, e.carriesAnomaly = false) :
    TellAll es [] := by
  have he : es.filter carriesAnomaly = [] := by simpa using h
  rw [TellAll, he]
  exact .nil

end Entry

/-- No detail of an anomaly could be taken for its code. -/
def Anomaly.Plain (a : Anomaly) : Prop := ∀ detail ∈ a.details, detail.1 ≠ "anomaly"

theorem Anomaly.Plain.tellsOf {a : Anomaly} (h : a.Plain) (level : Level) (logger : String) :
    (a.entry level logger).TellsOf a where
  code := rfl
  message := rfl
  details := by simpa [Anomaly.entry, List.filter_eq_self, Anomaly.Plain] using h

/-- The entries of reported anomalies tell of all of them. -/
theorem Entry.TellAll.of_reports {reports : List (Anomaly × Level)}
    (h : ∀ r ∈ reports, r.1.Plain) (logger : String) :
    TellAll (reports.map fun r => r.1.entry r.2 logger) (reports.map Prod.fst) := by
  induction reports with
  | nil => exact .nil
  | cons r rest ih =>
    have hr := (h r List.mem_cons_self).tellsOf r.2 logger
    exact .cons hr (ih fun s hs => h s (List.mem_cons_of_mem _ hs))

/-- The ledger with more entries and, if anomalies are collected, more of these. -/
def Ledger.extend (l : Ledger) (written : List Entry) (added : List Anomaly) : Ledger :=
  ⟨l.entries ++ written, l.collected.map (· ++ added)⟩

@[simp] theorem Ledger.extend_nil (l : Ledger) : l.extend [] [] = l := by
  obtain ⟨entries, collected⟩ := l
  cases collected <;> simp [extend]

@[simp] theorem Ledger.extend_extend (l : Ledger) (written more : List Entry)
    (added others : List Anomaly) :
    (l.extend written added).extend more others = l.extend (written ++ more) (added ++ others) := by
  obtain ⟨entries, collected⟩ := l
  cases collected <;> simp [extend]

theorem Ledger.reportAll_eq_extend (l : Ledger) (logger : String)
    (reports : List (Anomaly × Level)) :
    l.reportAll logger reports =
      l.extend (reports.map fun r => r.1.entry r.2 logger) (reports.map Prod.fst) := by
  rw [extend, ← entries_reportAll, ← collected_reportAll]

/-- An answer, the entries written for it and the anomalies added to a collector. -/
structure Trail (α : Type) where
  answer : Except Failure α
  written : List Entry
  added : List Anomaly

namespace Audited

variable {α β : Type}

/-- A computation leaves a trail: the same one on every ledger, and one whose entries tell of its
anomalies. -/
structure Leaves (x : Audited α) (t : Trail α) : Prop where
  runOn_eq : ∀ l, x.runOn l = (t.answer, l.extend t.written t.added)
  tellAll : Entry.TellAll t.written t.added

theorem leaves_pure (a : α) : (pure a : Audited α).Leaves ⟨.ok a, [], []⟩ where
  runOn_eq l := by simp
  tellAll := .nil

theorem leaves_throw (f : Failure) : (throw f : Audited α).Leaves ⟨.error f, [], []⟩ where
  runOn_eq l := by simp
  tellAll := .nil

/-- Entries without an anomaly are all that writing them leaves behind. -/
theorem leaves_writeAll {entries : List Entry} (h : ∀ e ∈ entries, e.carriesAnomaly = false) :
    (modify (·.writeAll entries) : Audited PUnit).Leaves ⟨.ok ⟨⟩, entries, []⟩ where
  runOn_eq l := by
    obtain ⟨before, collected⟩ := l
    cases collected <;> simp [Ledger.writeAll, Ledger.extend]
  tellAll := .of_none h

/-- A uniform computation leaves its warnings behind. -/
theorem Uniform.leaves {x : Audited α} (hx : x.Uniform)
    (h : ∀ a ∈ x.verdict.anomalies, a.Plain) :
    x.Leaves ⟨x.verdict.answer, x.verdict.anomalies.map (·.entry .warning logger),
      x.verdict.anomalies⟩ := by
  have hr : ∀ r ∈ x.verdict.anomalies.map (·, Level.warning), r.1.Plain := by
    simpa using h
  have ht := Entry.TellAll.of_reports hr logger
  have he (l : Ledger) := Ledger.reportAll_eq_extend l logger
    (x.verdict.anomalies.map (·, Level.warning))
  simp only [List.map_map, Function.comp_def, List.map_id'] at ht he
  exact ⟨fun l => (hx l).trans (congrArg _ (he l)), ht⟩

/-- A computation that answers is followed by what its answer asks for. -/
theorem Leaves.bind_ok {x : Audited α} {a : α} {written : List Entry} {added : List Anomaly}
    {f : α → Audited β} {t : Trail β} (hx : x.Leaves ⟨.ok a, written, added⟩)
    (hf : (f a).Leaves t) :
    (x >>= f).Leaves ⟨t.answer, written ++ t.written, added ++ t.added⟩ where
  runOn_eq l := by
    rw [runOn_bind_of_ok (hx.runOn_eq l), hf.runOn_eq]
    simp
  tellAll := hx.tellAll.append hf.tellAll

/-- A computation that fails is followed by nothing. -/
theorem Leaves.bind_error {x : Audited α} {e : Failure} {written : List Entry}
    {added : List Anomaly} (hx : x.Leaves ⟨.error e, written, added⟩) (f : α → Audited β) :
    (x >>= f).Leaves ⟨.error e, written, added⟩ where
  runOn_eq l := runOn_bind_of_error (hx.runOn_eq l) f
  tellAll := hx.tellAll

/-- A sequence leaves a trail if its parts do. -/
theorem exists_leaves_bind {x : Audited α} {f : α → Audited β} (hx : ∃ t, x.Leaves t)
    (hf : ∀ a, ∃ t, (f a).Leaves t) : ∃ t, (x >>= f).Leaves t := by
  obtain ⟨⟨answer, written, added⟩, hx⟩ := hx
  cases answer with
  | error e => exact ⟨_, hx.bind_error f⟩
  | ok a =>
    obtain ⟨t, ht⟩ := hf a
    exact ⟨_, hx.bind_ok ht⟩

end Audited

end TargetedConfig
