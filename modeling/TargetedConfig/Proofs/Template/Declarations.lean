import TargetedConfig.Proofs.OrderedMap
import TargetedConfig.Template.Basic

/-!
# The declaration that counts

Merging the declarations of a template keeps, for every key, the declaration at top level or else
the one in the first group that has one. Applying a function to all parameters of a template applies
it to the merged ones and leaves the notes as they are.
-/

namespace TargetedConfig

namespace OrderedMap

variable {α : Type}

theorem lookup_reverse_entries (m : OrderedMap α) (key : String) :
    m.entries.reverse.lookup key = m.get? key := by
  have h := get?_insertAll empty m.entries key
  rw [get?_empty, Option.or_none] at h
  rw [← h]
  exact congrArg (·.get? key) (ofList_entries m)

end OrderedMap

namespace Template

/-- The declaration of a key that counts: the one at top level, or else the one in the first group
that has one. -/
def declared? (t : Template) (key : String) : Option Parameter :=
  (t.parameters.get? key).or (t.groups.entries.findSome? fun g => g.2.parameters.get? key)

namespace Declarations

private theorem get?_declareGrouped (group : String) (d : Declarations)
    (declaration : String × Parameter) (key : String) :
    (d.declareGrouped group declaration).parameters.get? key =
      (d.parameters.get? key).or (if key = declaration.1 then some declaration.2 else none) := by
  rw [declareGrouped]
  by_cases hc : d.parameters.contains declaration.1 = true
  · rw [if_pos hc]
    by_cases hk : key = declaration.1
    · obtain ⟨p, hp⟩ := Option.isSome_iff_exists.1 hc
      simp [hk, hp]
    · simp [hk]
  · rw [if_neg hc, OrderedMap.get?_insert]
    by_cases hk : key = declaration.1
    · have hn : d.parameters.get? declaration.1 = none := by
        simpa [OrderedMap.contains] using hc
      simp [hk, hn]
    · simp [hk]

private theorem get?_foldl_declareGrouped (group : String)
    (declarations : List (String × Parameter)) (d : Declarations) (key : String) :
    (declarations.foldl (declareGrouped group) d).parameters.get? key =
      (d.parameters.get? key).or (declarations.lookup key) := by
  induction declarations generalizing d with
  | nil => simp
  | cons declaration rest ih =>
    obtain ⟨k, p⟩ := declaration
    rw [List.foldl_cons, ih, get?_declareGrouped, Option.or_assoc, lookup_cons_eq_ite]
    by_cases hk : key = k <;> simp [hk]

private theorem get?_foldl_declareGroup (groups : List (String × ParameterGroup))
    (d : Declarations) (key : String) :
    (groups.foldl declareGroup d).parameters.get? key =
      (d.parameters.get? key).or (groups.findSome? fun g => g.2.parameters.get? key) := by
  induction groups generalizing d with
  | nil => simp
  | cons g rest ih =>
    rw [List.foldl_cons, ih, declareGroup, get?_foldl_declareGrouped, Option.or_assoc,
      List.findSome?_cons]
    have hg : g.2.parameters.get? key = g.2.parameters.entries.lookup key := rfl
    rw [hg]
    cases g.2.parameters.entries.lookup key <;> rfl

private theorem parameters_foldl_declareTop (declarations : List (String × Parameter))
    (d : Declarations) :
    (declarations.foldl declareTop d).parameters = d.parameters.insertAll declarations := by
  induction declarations generalizing d with
  | nil => rfl
  | cons declaration rest ih =>
    rw [List.foldl_cons, ih]
    rfl

def map (f : Parameter → Parameter) (d : Declarations) : Declarations :=
  { d with parameters := d.parameters.map f }

private theorem declareGrouped_map (f : Parameter → Parameter) (group : String) (d : Declarations)
    (key : String) (p : Parameter) :
    (d.map f).declareGrouped group (key, f p) = (d.declareGrouped group (key, p)).map f := by
  unfold declareGrouped map
  dsimp only
  rw [OrderedMap.contains_map]
  split
  · rfl
  · rw [OrderedMap.map_insert]

private theorem declareTop_map (f : Parameter → Parameter) (d : Declarations) (key : String)
    (p : Parameter) : (d.map f).declareTop (key, f p) = (d.declareTop (key, p)).map f := by
  unfold declareTop map
  dsimp only
  rw [OrderedMap.contains_map, OrderedMap.map_insert]

private theorem foldl_declareGrouped_map (f : Parameter → Parameter) (group : String)
    (declarations : List (String × Parameter)) (d : Declarations) :
    (declarations.map fun p => (p.1, f p.2)).foldl (declareGrouped group) (d.map f) =
      (declarations.foldl (declareGrouped group) d).map f := by
  induction declarations generalizing d with
  | nil => rfl
  | cons declaration rest ih =>
    rw [List.map_cons, List.foldl_cons, List.foldl_cons, declareGrouped_map, ih]

private theorem foldl_declareGroup_map (f : Parameter → Parameter)
    {change : ParameterGroup → ParameterGroup}
    (h : ∀ g, (change g).parameters = g.parameters.map f)
    (groups : List (String × ParameterGroup)) (d : Declarations) :
    (groups.map fun g => (g.1, change g.2)).foldl declareGroup (d.map f) =
      (groups.foldl declareGroup d).map f := by
  induction groups generalizing d with
  | nil => rfl
  | cons g rest ih =>
    have hg : (d.map f).declareGroup (g.1, change g.2) = (d.declareGroup g).map f := by
      unfold declareGroup
      dsimp only
      rw [h, OrderedMap.entries_map, foldl_declareGrouped_map]
    rw [List.map_cons, List.foldl_cons, List.foldl_cons, hg, ih]

private theorem foldl_declareTop_map (f : Parameter → Parameter)
    (declarations : List (String × Parameter)) (d : Declarations) :
    (declarations.map fun p => (p.1, f p.2)).foldl declareTop (d.map f) =
      (declarations.foldl declareTop d).map f := by
  induction declarations generalizing d with
  | nil => rfl
  | cons declaration rest ih =>
    rw [List.map_cons, List.foldl_cons, List.foldl_cons, declareTop_map, ih]

end Declarations

/-- Changing every parameter of a template changes the merged ones and leaves the notes. -/
theorem declarations_map {t u : Template} (f : Parameter → Parameter)
    {change : ParameterGroup → ParameterGroup}
    (h : ∀ g, (change g).parameters = g.parameters.map f)
    (hp : u.parameters = t.parameters.map f) (hg : u.groups = t.groups.map change) :
    u.declarations = t.declarations.map f := by
  unfold declarations
  rw [hp, hg, OrderedMap.entries_map, OrderedMap.entries_map,
    ← Declarations.foldl_declareTop_map, ← Declarations.foldl_declareGroup_map f h]
  rfl

/-- Merging keeps the declaration that counts. -/
theorem get?_declarations (t : Template) (key : String) :
    t.declarations.parameters.get? key = t.declared? key := by
  rw [declarations, Declarations.parameters_foldl_declareTop, OrderedMap.get?_insertAll,
    OrderedMap.lookup_reverse_entries, Declarations.get?_foldl_declareGroup]
  rfl

end Template

end TargetedConfig
