import TargetedConfig.Proofs.Json.Limits
import TargetedConfig.Proofs.OrderedMap

/-!
# Repeated keys

`Value.distinctKeys` settles the keys of an object as a sequence of insertions does. Settling keys
twice is settling them once, and it does not matter whether keys are settled before or after a text
drops what it has no words for. `Value.keysDistinct` tells whether there is anything to settle.
-/

namespace TargetedConfig

theorem forall_putEntry {α : Type} {P : α → Prop} {entries : List (String × α)} {key : String}
    {value : α} (h : ∀ p ∈ entries, P p.2) (hv : P value) :
    ∀ p ∈ putEntry entries key value, P p.2 := by
  induction entries with
  | nil =>
    rw [putEntry, List.forall_mem_singleton]
    exact hv
  | cons entry rest ih =>
    rw [List.forall_mem_cons] at h
    rw [putEntry]
    split
    · exact List.forall_mem_cons.2 ⟨hv, h.2⟩
    · exact List.forall_mem_cons.2 ⟨h.1, ih h.2⟩

namespace OrderedMap

variable {α β : Type}

theorem map_insertAll (f : α → β) (m : OrderedMap α) (pairs : List (String × α)) :
    (m.insertAll pairs).map f = (m.map f).insertAll (pairs.map fun p => (p.1, f p.2)) := by
  induction pairs generalizing m with
  | nil => rfl
  | cons p rest ih =>
    change ((m.insert p.1 p.2).insertAll rest).map f = _
    rw [ih, map_insert]
    rfl

theorem map_ofList (f : α → β) (pairs : List (String × α)) :
    (ofList pairs).map f = ofList (pairs.map fun p => (p.1, f p.2)) :=
  map_insertAll f empty pairs

theorem forall_insertAll {P : α → Prop} {m : OrderedMap α} {pairs : List (String × α)}
    (hm : ∀ p ∈ m.entries, P p.2) (hp : ∀ p ∈ pairs, P p.2) :
    ∀ p ∈ (m.insertAll pairs).entries, P p.2 := by
  induction pairs generalizing m with
  | nil => exact hm
  | cons p rest ih =>
    rw [List.forall_mem_cons] at hp
    exact ih (forall_putEntry hm hp.1) hp.2

/-- What is true of all given values is true of the values of their map. -/
theorem forall_ofList {P : α → Prop} {pairs : List (String × α)} (h : ∀ p ∈ pairs, P p.2) :
    ∀ p ∈ (ofList pairs).entries, P p.2 :=
  forall_insertAll (by simp [empty]) h

end OrderedMap

namespace Json.Value

theorem distinctKeysItems_eq_map (items : List Json.Value) :
    distinctKeysItems items = items.map distinctKeys := by
  induction items with
  | nil => rfl
  | cons v rest ih => rw [distinctKeysItems, ih, List.map_cons]

private theorem distinctKeysFields_entries (fields : List (String × Json.Value))
    (m : OrderedMap Json.Value) :
    distinctKeysFields fields m.entries =
      (m.insertAll (fields.map fun p => (p.1, p.2.distinctKeys))).entries := by
  induction fields generalizing m with
  | nil => rfl
  | cons p rest ih =>
    obtain ⟨k, v⟩ := p
    rw [distinctKeysFields]
    exact ih (m.insert k v.distinctKeys)

/-- An object with its keys settled holds a map. -/
theorem distinctKeys_object (fields : List (String × Json.Value)) :
    (object fields).distinctKeys =
      .object (OrderedMap.ofList (fields.map fun p => (p.1, p.2.distinctKeys))).entries := by
  rw [distinctKeys]
  exact congrArg object (distinctKeysFields_entries fields .empty)

theorem distinctKeys_entries (m : OrderedMap Json.Value) :
    (object m.entries).distinctKeys = .object (m.map distinctKeys).entries := by
  rw [distinctKeys_object]
  exact congrArg (fun m => object m.entries) (OrderedMap.ofList_entries (m.map distinctKeys))

/-- Keys that are settled stay as they are. -/
theorem distinctKeys_distinctKeys (v : Json.Value) :
    v.distinctKeys.distinctKeys = v.distinctKeys := by
  induction v using tree_induction with
  | array items ih =>
    rw [distinctKeys, distinctKeys, distinctKeysItems_eq_map, distinctKeysItems_eq_map,
      List.map_map]
    exact congrArg array (List.map_congr_left ih)
  | object fields ih =>
    rw [distinctKeys_object, distinctKeys_entries, OrderedMap.map_ofList, List.map_map]
    congr 3
    refine List.map_congr_left fun p hp => ?_
    exact congrArg (Prod.mk p.1) (ih p hp)
  | null | bool | integer | float | string => rfl

/-- A text drops the same whether keys have been settled or not. -/
theorem written_distinctKeys (v : Json.Value) :
    v.distinctKeys.written = v.written.distinctKeys := by
  induction v using tree_induction with
  | array items ih =>
    rw [distinctKeys, written, written, distinctKeys, distinctKeysItems_eq_map,
      writtenItems_eq_map, writtenItems_eq_map, distinctKeysItems_eq_map, List.map_map,
      List.map_map]
    exact congrArg array (List.map_congr_left ih)
  | object fields ih =>
    rw [distinctKeys_object, written, written, writtenFields_eq_map, writtenFields_eq_map,
      distinctKeys_object]
    have hm := OrderedMap.map_ofList written (fields.map fun p => (p.1, p.2.distinctKeys))
    have hp : (fields.map fun p => (p.1, p.2.distinctKeys)).map (fun p => (p.1, p.2.written)) =
        (fields.map fun p => (p.1, p.2.written)).map fun p => (p.1, p.2.distinctKeys) := by
      rw [List.map_map, List.map_map]
      exact List.map_congr_left fun p hp => congrArg (Prod.mk p.1) (ih p hp)
    rw [hp] at hm
    exact congrArg (fun m => object m.entries) hm
  | float x => cases x <;> rfl
  | null | bool | integer | string => rfl

theorem integersFit_distinctKeys {v : Json.Value} (h : v.integersFit = true) :
    v.distinctKeys.integersFit = true := by
  induction v using tree_induction with
  | array items ih =>
    rw [distinctKeys, distinctKeysItems_eq_map, integersFit_array, List.forall_mem_map]
    exact fun v hv => ih v hv ((integersFit_array items).1 h v hv)
  | object fields ih =>
    rw [distinctKeys_object, integersFit_object]
    refine OrderedMap.forall_ofList (P := fun v : Json.Value => v.integersFit = true) ?_
    rw [List.forall_mem_map]
    exact fun p hp => ih p hp ((integersFit_object fields).1 h p hp)
  | null | bool | float | string => rfl
  | integer => exact h

/-! ### Values without repeated keys -/

mutual

/-- Whether no object of a value repeats a key. -/
def keysDistinct : Json.Value → Bool
  | .array items => keysDistinctItems items
  | .object fields => decide (fields.map Prod.fst).Nodup && keysDistinctFields fields
  | _ => true

def keysDistinctItems : List Json.Value → Bool
  | [] => true
  | v :: rest => keysDistinct v && keysDistinctItems rest

def keysDistinctFields : List (String × Json.Value) → Bool
  | [] => true
  | (_, v) :: rest => keysDistinct v && keysDistinctFields rest

end

theorem keysDistinct_array (items : List Json.Value) :
    (array items).keysDistinct = true ↔ ∀ v ∈ items, v.keysDistinct = true := by
  rw [keysDistinct]
  induction items with
  | nil => simp [keysDistinctItems]
  | cons v rest ih => rw [keysDistinctItems, Bool.and_eq_true, ih, List.forall_mem_cons]

theorem keysDistinct_object (fields : List (String × Json.Value)) :
    (object fields).keysDistinct = true ↔
      (fields.map Prod.fst).Nodup ∧ ∀ p ∈ fields, p.2.keysDistinct = true := by
  have hf : keysDistinctFields fields = true ↔ ∀ p ∈ fields, p.2.keysDistinct = true := by
    induction fields with
    | nil => simp [keysDistinctFields]
    | cons p rest ih =>
      obtain ⟨k, v⟩ := p
      rw [keysDistinctFields, Bool.and_eq_true, ih, List.forall_mem_cons]
  rw [keysDistinct, Bool.and_eq_true, decide_eq_true_iff, hf]

end Json.Value

end TargetedConfig
