import Mathlib.Data.List.Count
import TargetedConfig.Proofs.Context
import TargetedConfig.Proofs.Parameter.Resolution

/-!
# Accounting for parameters

Every parameter either gets a text from the template or is reported, once and under its key. So the
values of a run are those of the caller's defaults with the served texts written over them or added
behind them, and `resolve_accounts` says that nothing is lost and nothing is told twice.
-/

namespace TargetedConfig

namespace OrderedMap

variable {α : Type}

/-- Counting entries is counting keys by what is found under them. -/
theorem countP_entries (m : OrderedMap α) (p : α → Bool) :
    m.entries.countP (fun entry => p entry.2) = m.keys.countP fun key => (m.get? key).any p := by
  rw [keys, List.countP_map]
  refine List.countP_congr fun entry he => ?_
  have hg : m.get? entry.1 = some entry.2 := mem_entries_iff.1 he
  simp [hg]

end OrderedMap

def Anomaly.parameter? (a : Anomaly) : Option String :=
  match a.details.lookup "parameter" with
  | some (.string key) => some key
  | _ => none

namespace Anomaly

variable {anomalies : List Anomaly} {keys : List String}

private theorem length_filter_parameter? (h : anomalies.map parameter? = keys.map some)
    (key : String) :
    (anomalies.filter (·.parameter? = some key)).length = keys.count key := by
  rw [← List.count_map_of_injective keys some (Option.some_injective _), ← h,
    List.count_eq_countP, List.countP_map, List.countP_eq_length_filter]
  exact congrArg List.length (List.filter_congr fun a _ => by simp [beq_eq_decide])

/-- Where each anomaly is about another parameter, one is about each of these. -/
theorem exists_filter_parameter? (h : anomalies.map parameter? = keys.map some) (hn : keys.Nodup)
    {key : String} (hk : key ∈ keys) :
    ∃ anomaly, anomalies.filter (·.parameter? = some key) = [anomaly] := by
  rw [← List.length_eq_one_iff, length_filter_parameter? h]
  exact List.count_eq_one_of_mem hn hk

theorem filter_parameter?_of_not_mem (h : anomalies.map parameter? = keys.map some) {key : String}
    (hk : key ∉ keys) : anomalies.filter (·.parameter? = some key) = [] := by
  rw [← List.length_eq_zero_iff, length_filter_parameter? h]
  exact List.count_eq_zero.2 hk

end Anomaly

namespace Resolution

/-- Whether the value under a key comes from the template. -/
def isRemote (values : OrderedMap Value) (key : String) : Bool :=
  (values.get? key).any (·.source = .remote)

/-- What values and anomalies have to say about each parameter, given the caller's defaults. -/
structure Accounts (parameters : OrderedMap Parameter) (defaults : OrderedMap String)
    (values : OrderedMap Value) (anomalies : List Anomaly) : Prop where
  /-- The keys of the defaults come first, and then those that only the template has a text for. -/
  keys : values.keys =
    defaults.keys ++ parameters.keys.filter fun key => isRemote values key && !defaults.contains key
  not_static : ∀ entry ∈ values.entries, entry.2.source ≠ .static
  of_default : ∀ entry ∈ values.entries, entry.2.source = .default →
    defaults.get? entry.1 = some entry.2.raw
  of_remote : ∀ entry ∈ values.entries, entry.2.source = .remote → entry.1 ∈ parameters.keys
  /-- A parameter is served and not reported, or its entry is left alone and it is reported once. -/
  either : ∀ key ∈ parameters.keys,
    (isRemote values key = true ∧ anomalies.filter (·.parameter? = some key) = []) ∨
    (isRemote values key = false ∧ values.get? key = (defaults.get? key).map (⟨.default, ·⟩) ∧
      ∃ anomaly, anomalies.filter (·.parameter? = some key) = [anomaly])
  total : values.entries.countP (·.2.source = .remote) + anomalies.length = parameters.size
  order : anomalies.map Anomaly.parameter? =
    (parameters.keys.filter fun key => !isRemote values key).map some

variable {decided : List (String × Decision)}

theorem keys_serveAll (done : OrderedMap Value) (h : (decided.map Prod.fst).Nodup) :
    (serveAll done decided).keys =
      done.keys ++
        (decided.filter fun p => p.2.served?.isSome && !done.contains p.1).map Prod.fst := by
  induction decided generalizing done with
  | nil => simp [serveAll]
  | cons p rest ih =>
    obtain ⟨key, decision⟩ := p
    rw [List.map_cons, List.nodup_cons] at h
    change (serveAll (write done (key, decision)) rest).keys = _
    rw [ih _ h.2, List.filter_cons]
    cases hs : decision.served? with
    | none => simp [write, hs]
    | some text =>
      have hw : write done (key, decision) = done.insert key ⟨.remote, text⟩ := by
        simp [write, hs]
      have hc : ∀ p ∈ rest, (done.insert key ⟨.remote, text⟩).contains p.1 = done.contains p.1 := by
        intro p hp
        have hne : p.1 ≠ key := by
          rintro rfl
          exact h.1 (List.mem_map.2 ⟨p, hp, rfl⟩)
        simp [OrderedMap.contains, hne]
      have hf : (rest.filter fun p =>
            p.2.served?.isSome && !(done.insert key ⟨.remote, text⟩).contains p.1) =
          rest.filter fun p => p.2.served?.isSome && !done.contains p.1 :=
        List.filter_congr fun p hp => by rw [hc p hp]
      rw [hw, hf, OrderedMap.keys_insert]
      by_cases hk : key ∈ done.keys
      · simp [hk, OrderedMap.contains_eq_true_iff.2 hk]
      · have hd : done.contains key = false := by
          rw [← Bool.not_eq_true, OrderedMap.contains_eq_true_iff]
          exact hk
        simp [hk, hd]

theorem isRemote_seed (defaults : OrderedMap String) (key : String) :
    isRemote (seed defaults) key = false := by
  rw [isRemote, get?_seed]
  cases defaults.get? key <;> rfl

/-- The value of a key comes from the template when a text is served for it. -/
theorem isRemote_serveAll (defaults : OrderedMap String) (h : (decided.map Prod.fst).Nodup)
    {p : String × Decision} (hp : p ∈ decided) :
    isRemote (serveAll (seed defaults) decided) p.1 = p.2.served?.isSome := by
  have hl : (⟨decided, h⟩ : OrderedMap Decision).get? p.1 = some p.2 :=
    OrderedMap.mem_entries_iff.1 hp
  rw [OrderedMap.get?] at hl
  rw [isRemote, get?_serveAll _ h, hl, Option.bind_some]
  cases p.2.served? with
  | some text => rfl
  | none => exact isRemote_seed defaults p.1

/-- What does not come from the template is as it was. -/
theorem get?_serveAll_of_not_isRemote {done : OrderedMap Value} (h : (decided.map Prod.fst).Nodup)
    {key : String} (hk : isRemote (serveAll done decided) key = false) :
    (serveAll done decided).get? key = done.get? key := by
  rw [isRemote] at hk
  rw [get?_serveAll _ h] at hk ⊢
  split at hk
  · cases hk
  · rfl

/-- What is reported is about the parameters that no text is served for, in their order. -/
theorem map_parameter?_reports
    (h : ∀ p ∈ decided, ∀ r ∈ p.2.report?, r.1.parameter? = some p.1) :
    ((reports decided).map Prod.fst).map Anomaly.parameter? =
      ((decided.filter fun p => !p.2.served?.isSome).map Prod.fst).map some := by
  induction decided with
  | nil => rfl
  | cons p rest ih =>
    obtain ⟨key, decision⟩ := p
    rw [List.forall_mem_cons] at h
    have hr := ih h.2
    cases decision with
    | serve text => exact hr
    | keep anomaly level =>
      have ha : anomaly.parameter? = some key := h.1 _ rfl
      exact congrArg₂ List.cons ha hr

private theorem about_of_decisions {names : List String} {parameters : List (String × Parameter)} :
    ∀ p ∈ decisions names parameters, ∀ r ∈ p.2.report?, r.1.parameter? = some p.1 := by
  intro p hp r hr
  obtain ⟨⟨key, parameter⟩, -, rfl⟩ := List.mem_map.1 hp
  cases hd : parameter.decide key names with
  | serve text => simp [hd, Decision.report?] at hr
  | keep anomaly level =>
    obtain ⟨more, hm, -⟩ := Parameter.details_of_decide hd
    have he : (anomaly, level) = r := by simpa [hd, Decision.report?] using hr
    rw [← he]
    simp [Anomaly.parameter?, hm]

/-- A value is a text that is served for its key, or else the caller's default. -/
theorem source_serveAll {defaults : OrderedMap String} (h : (decided.map Prod.fst).Nodup)
    {key : String} {value : Value}
    (hv : (serveAll (seed defaults) decided).get? key = some value) :
    (value.source = .remote ∧ key ∈ decided.map Prod.fst) ∨
      (value.source = .default ∧ defaults.get? key = some value.raw) := by
  rw [get?_serveAll _ h, get?_seed] at hv
  split at hv
  · rename_i text hs
    obtain ⟨decision, hd, -⟩ := Option.bind_eq_some_iff.1 hs
    have hm : (key, decision) ∈ decided :=
      OrderedMap.mem_entries_iff.2 (show (⟨decided, h⟩ : OrderedMap Decision).get? key = _ from hd)
    cases hv
    exact .inl ⟨rfl, List.mem_map.2 ⟨_, hm, rfl⟩⟩
  · obtain ⟨raw, hr, rfl⟩ := Option.map_eq_some_iff.1 hv
    exact .inr ⟨rfl, hr⟩

theorem isRemote_eq_true_iff {values : OrderedMap Value} {key : String} :
    isRemote values key = true ↔ ∃ value, values.get? key = some value ∧ value.source = .remote := by
  rw [isRemote, Option.any_eq_true]
  simp [and_comm]

/-- As many values come from the template as there are parameters with a served text. -/
theorem countP_remote {parameters : OrderedMap Parameter} {values : OrderedMap Value}
    (h : ∀ entry ∈ values.entries, entry.2.source = .remote → entry.1 ∈ parameters.keys) :
    values.entries.countP (·.2.source = .remote) = parameters.keys.countP (isRemote values) := by
  have hp : (values.keys.filter (isRemote values)).Perm
      (parameters.keys.filter (isRemote values)) := by
    refine (List.perm_ext_iff_of_nodup (values.distinct.filter _)
      (parameters.distinct.filter _)).2 fun key => ?_
    rw [List.mem_filter, List.mem_filter]
    refine and_congr_left fun hr => ?_
    obtain ⟨value, hv, hs⟩ := isRemote_eq_true_iff.1 hr
    have hm := OrderedMap.mem_entries_iff.2 hv
    exact iff_of_true (List.mem_map.2 ⟨_, hm, rfl⟩) (h _ hm hs)
  calc values.entries.countP (·.2.source = .remote)
    _ = values.keys.countP (isRemote values) :=
      values.countP_entries fun value => decide (value.source = .remote)
    _ = parameters.keys.countP (isRemote values) := by
      rw [List.countP_eq_length_filter, List.countP_eq_length_filter, hp.length_eq]

/-- Decisions account for the parameters that they are about. -/
theorem accounts_of_decided {parameters : OrderedMap Parameter} (defaults : OrderedMap String)
    (hk : decided.map Prod.fst = parameters.keys)
    (ha : ∀ p ∈ decided, ∀ r ∈ p.2.report?, r.1.parameter? = some p.1) :
    Accounts parameters defaults (serveAll (seed defaults) decided)
      ((reports decided).map Prod.fst) := by
  have hn : (decided.map Prod.fst).Nodup := hk ▸ parameters.distinct
  have hs : ∀ entry ∈ (serveAll (seed defaults) decided).entries, _ :=
    fun entry he => source_serveAll hn (OrderedMap.mem_entries_iff.1 he)
  have hr : ∀ entry ∈ (serveAll (seed defaults) decided).entries,
      entry.2.source = .remote → entry.1 ∈ parameters.keys := by
    intro entry he hv
    rcases hs entry he with ⟨-, hm⟩ | ⟨hd, -⟩
    · exact hk ▸ hm
    · rw [hd] at hv
      cases hv
  have ho : ((reports decided).map Prod.fst).map Anomaly.parameter? =
      (parameters.keys.filter fun key =>
        !isRemote (serveAll (seed defaults) decided) key).map some := by
    have hf : ∀ p ∈ decided, (!p.2.served?.isSome) =
        !isRemote (serveAll (seed defaults) decided) p.1 :=
      fun p hp => by rw [isRemote_serveAll defaults hn hp]
    rw [map_parameter?_reports ha, List.filter_congr hf, ← hk, List.filter_map]
    rfl
  exact {
    keys := by
      have hf : ∀ p ∈ decided, (p.2.served?.isSome && !(seed defaults).contains p.1) =
          (isRemote (serveAll (seed defaults) decided) p.1 && !defaults.contains p.1) :=
        fun p hp => by rw [isRemote_serveAll defaults hn hp, seed, OrderedMap.contains_map]
      rw [keys_serveAll _ hn, List.filter_congr hf, ← hk, List.filter_map, seed,
        OrderedMap.keys_map]
      rfl
    not_static := by
      intro entry he hv
      rcases hs entry he with ⟨hd, -⟩ | ⟨hd, -⟩ <;> rw [hd] at hv <;> cases hv
    of_default := by
      intro entry he hv
      rcases hs entry he with ⟨hd, -⟩ | ⟨-, hd⟩
      · rw [hd] at hv
        cases hv
      · exact hd
    of_remote := hr
    either := by
      intro key hm
      cases hv : isRemote (serveAll (seed defaults) decided) key with
      | true =>
        refine .inl ⟨rfl, Anomaly.filter_parameter?_of_not_mem ho ?_⟩
        simp [hv]
      | false =>
        refine .inr ⟨rfl, ?_, Anomaly.exists_filter_parameter? ho (parameters.distinct.filter _) ?_⟩
        · rw [get?_serveAll_of_not_isRemote hn hv, get?_seed]
        · exact List.mem_filter.2 ⟨hm, by simp [hv]⟩
    total := by
      have hl : ((reports decided).map Prod.fst).length =
          parameters.keys.countP fun key =>
            !isRemote (serveAll (seed defaults) decided) key := by
        rw [← List.length_map (f := Anomaly.parameter?), ho, List.length_map,
          List.countP_eq_length_filter]
      have hp := List.length_eq_countP_add_countP
        (isRemote (serveAll (seed defaults) decided)) (l := parameters.keys)
      rw [countP_remote hr, hl]
      simpa [OrderedMap.keys, OrderedMap.size] using hp.symm
    order := ho }

/-- A run of the resolver answers and accounts for its parameters, whatever is known of conditions
and in whatever order: it gives the same values and reports on every ledger, and between them they
tell of every parameter once. -/
theorem resolve_accounts (parameters : OrderedMap Parameter) (evaluated : OrderedMap Bool)
    (defaults : OrderedMap String) (order : Option (List String)) :
    ∃ values reported,
      (∀ l, (resolve parameters evaluated defaults order).run l =
        (values, l.reportAll logger reported)) ∧
      Accounts parameters defaults values (reported.map Prod.fst) :=
  ⟨_, _, run_resolve parameters evaluated defaults order,
    accounts_of_decided defaults (keys_decisions _ _) about_of_decisions⟩

end Resolution

end TargetedConfig
