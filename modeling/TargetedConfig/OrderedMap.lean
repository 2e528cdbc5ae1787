/-!
# Maps that remember insertion order

The keys of an `OrderedMap` are distinct and stand in the order in which they were first inserted.
Inserting a known key replaces its value where it stands. The main statements, `keys_insert` and
`get?_insert`, say what an insertion does to the keys and to lookups.
-/

namespace TargetedConfig

/-- Writes a value under a key of an association list: a known key keeps its place, a new one goes
to the end. -/
def putEntry {α : Type} : List (String × α) → String → α → List (String × α)
  | [], key, value => [(key, value)]
  | (k, v) :: rest, key, value =>
    if k = key then (k, value) :: rest else (k, v) :: putEntry rest key value

theorem keys_putEntry {α : Type} (entries : List (String × α)) (key : String) (value : α) :
    (putEntry entries key value).map Prod.fst =
      if key ∈ entries.map Prod.fst then entries.map Prod.fst
      else entries.map Prod.fst ++ [key] := by
  induction entries with
  | nil => simp [putEntry]
  | cons entry rest ih =>
    obtain ⟨k, v⟩ := entry
    by_cases h : k = key
    · simp [putEntry, h]
    · have h' : ¬key = k := fun e => h e.symm
      simp only [putEntry, if_neg h, List.map_cons, ih, List.mem_cons, h', false_or]
      split <;> simp

theorem lookup_cons_eq_ite {α : Type} (k key : String) (value : α) (rest : List (String × α)) :
    ((key, value) :: rest).lookup k = if k = key then some value else rest.lookup k := by
  by_cases h : k = key
  · simp [h]
  · have : (k == key) = false := by simpa using h
    simp [List.lookup_cons, this, h]

theorem lookup_putEntry {α : Type} (entries : List (String × α)) (key k : String) (value : α) :
    (putEntry entries key value).lookup k = if k = key then some value else entries.lookup k := by
  induction entries with
  | nil => simp [putEntry, lookup_cons_eq_ite]
  | cons entry rest ih =>
    obtain ⟨k', v⟩ := entry
    by_cases h : k' = key
    · simp only [putEntry, h, if_true, lookup_cons_eq_ite]
      split <;> rfl
    · simp only [putEntry, h, if_false, lookup_cons_eq_ite, ih]
      by_cases hk : k = k'
      · simp [hk, h]
      · simp [hk]

/-- A map from strings that remembers the order of its keys. -/
structure OrderedMap (α : Type) where
  entries : List (String × α)
  distinct : (entries.map Prod.fst).Nodup

namespace OrderedMap

variable {α β : Type}

def empty : OrderedMap α := ⟨[], by simp⟩

instance : EmptyCollection (OrderedMap α) := ⟨empty⟩
instance : Inhabited (OrderedMap α) := ⟨empty⟩

def keys (m : OrderedMap α) : List String := m.entries.map Prod.fst

def size (m : OrderedMap α) : Nat := m.entries.length

def isEmpty (m : OrderedMap α) : Bool := m.entries.isEmpty

def get? (m : OrderedMap α) (key : String) : Option α := m.entries.lookup key

def contains (m : OrderedMap α) (key : String) : Bool := (m.get? key).isSome

/-- Sets the value of a key; a new key goes to the end. -/
def insert (m : OrderedMap α) (key : String) (value : α) : OrderedMap α :=
  ⟨putEntry m.entries key value, by
    have hm := m.distinct
    rw [keys_putEntry]
    split
    · exact hm
    · rename_i hk
      refine List.nodup_append.2 ⟨hm, by simp, ?_⟩
      intro a ha b hb
      rw [List.mem_singleton.1 hb]
      exact fun e => hk (e ▸ ha)⟩

def insertAll (m : OrderedMap α) (pairs : List (String × α)) : OrderedMap α :=
  pairs.foldl (fun m p => m.insert p.1 p.2) m

/-- The map of a list of pairs: each key once, at its first place and with its last value. -/
def ofList (pairs : List (String × α)) : OrderedMap α := empty.insertAll pairs

def map (f : α → β) (m : OrderedMap α) : OrderedMap β :=
  ⟨m.entries.map fun (k, v) => (k, f v), by
    have : (m.entries.map fun (k, v) => (k, f v)).map Prod.fst = m.entries.map Prod.fst := by
      simp
    exact this ▸ m.distinct⟩

/-- Equality of maps up to the order of their keys. -/
def sameBy (eq : α → α → Bool) (m n : OrderedMap α) : Bool :=
  m.size == n.size &&
    m.entries.all fun (k, v) =>
      match n.get? k with
      | some w => eq v w
      | none => false

@[simp] theorem keys_empty : (empty : OrderedMap α).keys = [] := rfl

@[simp] theorem get?_empty (key : String) : (empty : OrderedMap α).get? key = none := rfl

/-- A known key keeps its place, a new one goes to the end. -/
theorem keys_insert (m : OrderedMap α) (key : String) (value : α) :
    (m.insert key value).keys = if key ∈ m.keys then m.keys else m.keys ++ [key] :=
  keys_putEntry m.entries key value

/-- An insertion decides the value of its own key and of no other. -/
@[simp] theorem get?_insert (m : OrderedMap α) (key k : String) (value : α) :
    (m.insert key value).get? k = if k = key then some value else m.get? k :=
  lookup_putEntry m.entries key k value

@[simp] theorem keys_map (f : α → β) (m : OrderedMap α) : (m.map f).keys = m.keys := by
  simp [keys, map]

end OrderedMap

end TargetedConfig
