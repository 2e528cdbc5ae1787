import Mathlib.Data.Finset.Card
import TargetedConfig.Context
import TargetedConfig.Proofs.OrderedMap
import TargetedConfig.Proofs.Text.Integer

/-!
# Contexts up to the order of their signals

Two contexts are the same exactly when every lookup in one answers as in the other, and exactly when
they hold the same set of signals. A hash that is taken of this set is then the same, too. Signals
without a text give no context; the first of them decides why.
-/

namespace TargetedConfig

namespace OrderedMap

variable {α : Type}

/-- The entries of a map are looked up by their keys. -/
theorem findSome?_keys {β : Type} (m : OrderedMap α) (f : α → Option β) :
    m.keys.findSome? (fun key => (m.get? key).bind f) = m.entries.findSome? (f ·.2) := by
  rw [keys, List.findSome?_map, ← List.head?_filterMap, ← List.head?_filterMap]
  congr 1
  apply List.filterMap_congr
  rintro ⟨key, value⟩ h
  rw [Function.comp_apply, mem_entries_iff.1 h]
  rfl

theorem nodup_entries (m : OrderedMap α) : m.entries.Nodup := .of_map _ m.distinct

/-- The entries of a map without their order. -/
def items [DecidableEq α] (m : OrderedMap α) : Finset (String × α) := m.entries.toFinset

theorem items_eq_iff [DecidableEq α] {m n : OrderedMap α} :
    m.items = n.items ↔ ∀ key, m.get? key = n.get? key := by
  rw [items, items, Finset.ext_iff]
  constructor
  · intro h key
    refine Option.ext fun value => ?_
    rw [← mem_entries_iff, ← mem_entries_iff]
    simpa only [List.mem_toFinset] using h (key, value)
  · rintro h ⟨key, value⟩
    rw [List.mem_toFinset, List.mem_toFinset, mem_entries_iff, mem_entries_iff, h]

/-- Maps of one size are equal up to the order of their keys when they have the same entries. -/
theorem sameBy_eq_true_iff [DecidableEq α] {m n : OrderedMap α} :
    m.sameBy (· == ·) n = true ↔ m.items = n.items := by
  have hm : m.items.card = m.size := List.toFinset_card_of_nodup m.nodup_entries
  have hn : n.items.card = n.size := List.toFinset_card_of_nodup n.nodup_entries
  constructor
  · intro h
    rw [sameBy, Bool.and_eq_true, beq_iff_eq, List.all_eq_true] at h
    refine Finset.eq_of_subset_of_card_le ?_ (by omega)
    rintro ⟨key, value⟩ hp
    rw [items, List.mem_toFinset] at hp ⊢
    have he := h.2 _ hp
    dsimp only at he
    split at he
    · rename_i other ho
      rw [mem_entries_iff, ho, beq_iff_eq.1 he]
    · cases he
  · intro h
    rw [sameBy, Bool.and_eq_true, beq_iff_eq, List.all_eq_true]
    refine ⟨by rw [← hm, ← hn, h], ?_⟩
    rintro ⟨key, value⟩ hp
    rw [mem_entries_iff, items_eq_iff.1 h] at hp
    dsimp only
    rw [hp]
    exact beq_self_eq_true value

end OrderedMap

namespace Context

/-- The hash of a context, made from a hash of sets of signals. -/
def hash (ofSet : Finset (String × String) → Int) (c : Context) : Int := ofSet c.signals.items

theorem same_iff_items {c d : Context} : c.same d = true ↔ c.signals.items = d.signals.items :=
  OrderedMap.sameBy_eq_true_iff

/-- Contexts are the same when all lookups answer alike. -/
theorem same_iff_get? {c d : Context} : c.same d = true ↔ ∀ key, c.get? key = d.get? key :=
  same_iff_items.trans OrderedMap.items_eq_iff

end Context

/-! ### Signals without a text -/

namespace Signal

/-- Why a signal has no text: no signal may have its type, or it is an integer that is too long. -/
inductive Lacks : Signal → Failure → Prop where
  | unsupported (typeName : String) : Lacks (.unsupported typeName) (.unsupportedSignal typeName)
  | tooLong {n : Int} (tooLong : Text.TooLong n) : Lacks (.integer n) .integerTooLong

/-- Why a signal has no text, if it has none. -/
def fault? (signal : Signal) : Option Failure :=
  match signal.text with
  | .ok _ => none
  | .error f => some f

variable {signal : Signal} {f : Failure} {n : Int} {typeName : String}

theorem text_eq_error_iff : signal.text = .error f ↔ signal.Lacks f := by
  cases signal with
  | integer n =>
    rw [text]
    constructor
    · intro h
      split at h
      · cases h
      · rename_i hn
        cases h
        exact .tooLong (Text.ofInteger?_eq_none_iff.1 hn)
    · rintro (_ | h)
      rw [Text.ofInteger?_eq_none_iff.2 h]
  | unsupported typeName =>
    constructor
    · rintro ⟨⟩
      exact .unsupported typeName
    · rintro ⟨⟩
      rfl
  | string | bool | float => exact ⟨nofun, nofun⟩

theorem fault?_eq_some_iff : signal.fault? = some f ↔ signal.Lacks f := by
  rw [← text_eq_error_iff, fault?]
  cases signal.text <;> simp

theorem fault?_eq_none_iff : signal.fault? = none ↔ ∀ f, ¬signal.Lacks f := by
  rw [Option.eq_none_iff_forall_ne_some]
  exact forall_congr' fun _ => not_congr fault?_eq_some_iff

/-- The first of some signals that has no text has none for this reason. -/
def FirstLacks (signals : List (String × Signal)) (f : Failure) : Prop :=
  ∃ before key signal after, signals = before ++ (key, signal) :: after ∧ signal.Lacks f ∧
    ∀ p ∈ before, ∀ g, ¬p.2.Lacks g

theorem findSome?_eq_some_iff {signals : List (String × Signal)} :
    signals.findSome? (·.2.fault?) = some f ↔ FirstLacks signals f := by
  rw [List.findSome?_eq_some_iff, FirstLacks]
  simp only [fault?_eq_some_iff, fault?_eq_none_iff]
  constructor
  · rintro ⟨before, ⟨key, signal⟩, after, h, hl, hb⟩
    exact ⟨before, key, signal, after, h, hl, hb⟩
  · rintro ⟨before, key, signal, after, h, hl, hb⟩
    exact ⟨before, (key, signal), after, h, hl, hb⟩

theorem FirstLacks.cons {signals : List (String × Signal)} {p : String × Signal}
    (hp : ∀ g, ¬p.2.Lacks g) (h : FirstLacks signals f) : FirstLacks (p :: signals) f := by
  obtain ⟨before, key, signal, after, rfl, hl, hb⟩ := h
  exact ⟨p :: before, key, signal, after, rfl, hl, List.forall_mem_cons.2 ⟨hp, hb⟩⟩

/-- Among signals of which one has no text there is a first one. -/
theorem exists_firstLacks {signals : List (String × Signal)} {key : String}
    (hm : (key, signal) ∈ signals) (h : signal.Lacks f) : ∃ g, FirstLacks signals g := by
  have hs : (signals.findSome? (·.2.fault?)).isSome = true := by
    refine List.findSome?_isSome_iff.2 ⟨_, hm, ?_⟩
    rw [fault?_eq_some_iff.2 h]
    rfl
  obtain ⟨g, hg⟩ := Option.isSome_iff_exists.1 hs
  exact ⟨g, findSome?_eq_some_iff.1 hg⟩

/-- The first signal without a text has a type that no signal may have exactly when no integer that
is too long comes before some signal of such a type. -/
theorem exists_firstLacks_unsupported_iff {signals : List (String × Signal)} :
    (∃ typeName, FirstLacks signals (.unsupportedSignal typeName)) ↔
      ∃ before key typeName after, signals = before ++ (key, .unsupported typeName) :: after ∧
        ∀ p ∈ before, ∀ n, p.2 = .integer n → ¬Text.TooLong n := by
  constructor
  · rintro ⟨typeName, before, key, signal, after, h, ⟨⟩, hb⟩
    refine ⟨before, key, typeName, after, h, ?_⟩
    intro p hp n hn hl
    exact hb p hp .integerTooLong (hn ▸ .tooLong hl)
  · rintro ⟨before, key, typeName, after, rfl, hb⟩
    induction before with
    | nil => exact ⟨typeName, [], key, _, after, rfl, .unsupported typeName, by simp⟩
    | cons p rest ih =>
      rw [List.forall_mem_cons] at hb
      obtain ⟨first, signal⟩ := p
      by_cases hs : ∃ name, signal = .unsupported name
      · obtain ⟨name, rfl⟩ := hs
        exact ⟨name, [], first, _, _, rfl, .unsupported name, by simp⟩
      · obtain ⟨name, hf⟩ := ih hb.2
        refine ⟨name, hf.cons ?_⟩
        rintro g (_ | hl)
        · exact hs ⟨_, rfl⟩
        · exact hb.1 _ rfl hl

end Signal

namespace Context

theorem texts_eq_error_iff {signals : List (String × Signal)} {f : Failure} :
    texts signals = .error f ↔ signals.findSome? (·.2.fault?) = some f := by
  induction signals with
  | nil => simp [texts]
  | cons p rest ih =>
    obtain ⟨key, signal⟩ := p
    rw [texts, List.findSome?_cons, Signal.fault?]
    cases signal.text with
    | error g => simp
    | ok text =>
      dsimp only
      rw [← ih]
      cases texts rest <;> simp [Except.map]

theorem ofSignals_eq_error_iff_findSome? {signals : OrderedMap Signal} {f : Failure} :
    ofSignals signals = .error f ↔ signals.entries.findSome? (·.2.fault?) = some f := by
  rw [← texts_eq_error_iff, ofSignals]
  cases texts signals.entries <;> simp [Except.map]

/-- The first signal without a text decides why there is no context. -/
theorem ofSignals_eq_error_iff {signals : OrderedMap Signal} {f : Failure} :
    ofSignals signals = .error f ↔ Signal.FirstLacks signals.entries f := by
  rw [ofSignals_eq_error_iff_findSome?, Signal.findSome?_eq_some_iff]

end Context

end TargetedConfig
