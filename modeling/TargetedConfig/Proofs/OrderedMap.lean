import TargetedConfig.OrderedMap
import Mathlib.Data.List.Basic
import Mathlib.Data.List.Induction
import Mathlib.Data.List.Nodup

/-!
# Laws of maps that remember insertion order

A map is the map of its own entries, and a sequence of insertions leaves the last value of each key.
Applying a function to the values commutes with lookups and insertions.
-/

namespace TargetedConfig

theorem putEntry_of_not_mem {α : Type} {entries : List (String × α)} {key : String}
    (h : key ∉ entries.map Prod.fst) (value : α) :
    putEntry entries key value = entries ++ [(key, value)] := by
  induction entries with
  | nil => rfl
  | cons entry rest ih =>
    obtain ⟨k, v⟩ := entry
    simp only [List.map_cons, List.mem_cons, not_or] at h
    have hk : ¬k = key := fun e => h.1 e.symm
    simp only [putEntry, if_neg hk, List.cons_append, ih h.2]

theorem map_putEntry {α β : Type} (f : α → β) (entries : List (String × α)) (key : String)
    (value : α) :
    (putEntry entries key value).map (fun p => (p.1, f p.2)) =
      putEntry (entries.map fun p => (p.1, f p.2)) key (f value) := by
  induction entries with
  | nil => rfl
  | cons entry rest ih =>
    obtain ⟨k, v⟩ := entry
    by_cases h : k = key
    · simp [putEntry, h]
    · simp [putEntry, h, ih]

theorem lookup_map_snd {α β : Type} (f : α → β) (entries : List (String × α)) (key : String) :
    (entries.map fun p => (p.1, f p.2)).lookup key = (entries.lookup key).map f := by
  induction entries with
  | nil => rfl
  | cons entry rest ih =>
    obtain ⟨k, v⟩ := entry
    simp only [List.map_cons, lookup_cons_eq_ite, ih]
    split <;> rfl

theorem lookup_eq_none_iff_not_mem {α : Type} (entries : List (String × α)) (key : String) :
    entries.lookup key = none ↔ key ∉ entries.map Prod.fst := by
  rw [List.lookup_eq_none_iff, List.mem_map, not_exists]
  constructor
  · rintro h p ⟨hp, rfl⟩
    simpa using h p hp
  · intro h p hp
    have hk : p.1 ≠ key := fun e => h p ⟨hp, e⟩
    simpa using hk.symm

/-- Repetitions do not matter for the first key of a kind. -/
theorem find?_eraseDups (names : List String) (p : String → Bool) :
    names.eraseDups.find? p = names.find? p := by
  match names with
  | [] => rfl
  | name :: rest =>
    rw [List.eraseDups_cons, List.find?_cons, List.find?_cons]
    cases hp : p name with
    | true => rfl
    | false =>
      dsimp only
      rw [find?_eraseDups (rest.filter fun other => !other == name) p, List.find?_filter]
      congr 1
      funext other
      by_cases ho : other = name
      · simp [ho, hp]
      · simp [ho]
termination_by names.length
decreasing_by exact Nat.lt_succ_of_le (List.length_filter_le _ rest)

/-- One more key is a new one unless it is there already. -/
theorem eraseDups_concat (keys : List String) (key : String) :
    (keys ++ [key]).eraseDups =
      if key ∈ keys.eraseDups then keys.eraseDups else keys.eraseDups ++ [key] := by
  rw [List.eraseDups_append]
  by_cases h : key ∈ keys <;> simp [List.removeAll, List.eraseDups_cons, h]

namespace OrderedMap

variable {α β : Type}

theorem contains_eq_true_iff {m : OrderedMap α} {key : String} :
    m.contains key = true ↔ key ∈ m.keys := by
  have h := (lookup_eq_none_iff_not_mem m.entries key).not
  rw [Classical.not_not] at h
  rw [contains, Option.isSome_iff_ne_none]
  exact h

theorem ext_entries {m n : OrderedMap α} (h : m.entries = n.entries) : m = n := by
  cases m
  cases n
  cases h
  rfl

theorem entries_insert_of_not_mem {m : OrderedMap α} {key : String} (h : key ∉ m.keys)
    (value : α) : (m.insert key value).entries = m.entries ++ [(key, value)] :=
  putEntry_of_not_mem h value

@[simp] theorem entries_map (f : α → β) (m : OrderedMap α) :
    (m.map f).entries = m.entries.map fun p => (p.1, f p.2) := rfl

@[simp] theorem map_id (m : OrderedMap α) : m.map id = m := by
  refine ext_entries ?_
  rw [entries_map]
  exact List.map_id _

@[simp] theorem get?_map (f : α → β) (m : OrderedMap α) (key : String) :
    (m.map f).get? key = (m.get? key).map f :=
  lookup_map_snd f m.entries key

theorem map_insert (f : α → β) (m : OrderedMap α) (key : String) (value : α) :
    (m.insert key value).map f = (m.map f).insert key (f value) :=
  ext_entries (map_putEntry f m.entries key value)

@[simp] theorem contains_map (f : α → β) (m : OrderedMap α) (key : String) :
    (m.map f).contains key = m.contains key := by
  simp [contains]

private theorem entries_insertAll (m : OrderedMap α) (pairs : List (String × α))
    (h : (m.keys ++ pairs.map Prod.fst).Nodup) :
    (m.insertAll pairs).entries = m.entries ++ pairs := by
  induction pairs generalizing m with
  | nil => simp [insertAll]
  | cons pair rest ih =>
    obtain ⟨key, value⟩ := pair
    have hk : key ∉ m.keys := by
      intro hm
      exact (List.nodup_append.1 h).2.2 key hm key (by simp) rfl
    have hn : ((m.insert key value).keys ++ rest.map Prod.fst).Nodup := by
      rw [keys_insert, if_neg hk, List.append_assoc]
      exact h
    have hr := ih (m.insert key value) hn
    rw [entries_insert_of_not_mem hk, List.append_assoc] at hr
    exact hr

/-- Pairs with distinct keys are the entries of their map. -/
theorem entries_ofList {pairs : List (String × α)} (h : (pairs.map Prod.fst).Nodup) :
    (ofList pairs).entries = pairs := by
  simpa [ofList, empty] using entries_insertAll (empty : OrderedMap α) pairs (by simpa using h)

/-- A map is the map of its entries. -/
@[simp] theorem ofList_entries (m : OrderedMap α) : ofList m.entries = m :=
  ext_entries (entries_ofList m.distinct)

/-- The keys of a map stand in the order of their first pairs. -/
theorem keys_ofList (pairs : List (String × α)) :
    (ofList pairs).keys = (pairs.map Prod.fst).eraseDups := by
  induction pairs using List.reverseRecOn with
  | nil => rfl
  | append_singleton pairs pair ih =>
    have hi : ofList (pairs ++ [pair]) = (ofList pairs).insert pair.1 pair.2 := by
      simp [ofList, insertAll, List.foldl_append]
    rw [hi, keys_insert, ih, List.map_append, List.map_singleton, eraseDups_concat]

/-- A sequence of insertions leaves the last value of each of its keys. -/
theorem get?_insertAll (m : OrderedMap α) (pairs : List (String × α)) (key : String) :
    (m.insertAll pairs).get? key = (pairs.reverse.lookup key).or (m.get? key) := by
  induction pairs generalizing m with
  | nil => rfl
  | cons pair rest ih =>
    obtain ⟨k, v⟩ := pair
    have hs := ih (m.insert k v)
    rw [get?_insert] at hs
    change ((m.insert k v).insertAll rest).get? key = _
    rw [hs, List.reverse_cons, List.lookup_append, lookup_cons_eq_ite]
    cases rest.reverse.lookup key with
    | some w => rfl
    | none => by_cases hk : key = k <;> simp [hk]

theorem mem_entries_iff {m : OrderedMap α} {key : String} {value : α} :
    (key, value) ∈ m.entries ↔ m.get? key = some value := by
  rw [get?, List.lookup_eq_some_iff]
  constructor
  · intro h
    obtain ⟨before, after, he⟩ := List.append_of_mem h
    refine ⟨before, after, he, ?_⟩
    intro p hp
    have hd := m.distinct
    rw [he, List.map_append, List.nodup_append] at hd
    have hk := hd.2.2 p.1 (List.mem_map_of_mem hp) key (by simp)
    simpa using Ne.symm hk
  · rintro ⟨before, after, he, -⟩
    rw [he]
    simp

end OrderedMap

end TargetedConfig
