import TargetedConfig.Proofs.Template.Declarations

/-!
# Merging declarations

The declarations of a template are read one by one, those in groups before those at top level. Each
one either brings a new key or is noted, so that the keys come out in the order of their first
declarations and every other declaration leaves a note.
-/

namespace TargetedConfig

/-- A declaration of a parameter, and the group it stands in unless it stands at top level. -/
structure Declaration where
  group : Option String
  key : String
  parameter : Parameter

namespace Declaration

/-- The note about a declaration that brings no new key. -/
def note (x : Declaration) : Entry :=
  match x.group with
  | some group => ⟨.warning, Template.logger, "Parameter declared in several groups",
      [("parameter", .string x.key), ("group", .string group)]⟩
  | none => ⟨.warning, Template.logger, "Parameter declared both in a group and at top level",
      [("parameter", .string x.key)]⟩

/-- The declarations that bring no new key when some keys have been declared before. -/
def repeated (seen : List String) : List Declaration → List Declaration
  | [] => []
  | x :: rest =>
    if x.key ∈ seen then x :: repeated seen rest else repeated (seen ++ [x.key]) rest

end Declaration

namespace Template

def groupDeclarations (group : String × ParameterGroup) : List Declaration :=
  group.2.parameters.entries.map fun p => ⟨some group.1, p.1, p.2⟩

/-- All declarations of a template in the order in which they are read. -/
def allDeclarations (t : Template) : List Declaration :=
  t.groups.entries.flatMap groupDeclarations ++
    t.parameters.entries.map fun p => ⟨none, p.1, p.2⟩

namespace Declarations

def declare (d : Declarations) (x : Declaration) : Declarations :=
  match x.group with
  | some group => d.declareGrouped group (x.key, x.parameter)
  | none => d.declareTop (x.key, x.parameter)

variable (d : Declarations) (x : Declaration)

/-- A declaration brings its key unless the key is known. -/
theorem keys_declare :
    (d.declare x).parameters.keys =
      if x.key ∈ d.parameters.keys then d.parameters.keys else d.parameters.keys ++ [x.key] := by
  obtain ⟨_ | group, key, parameter⟩ := x
  · exact d.parameters.keys_insert key parameter
  · by_cases hk : key ∈ d.parameters.keys
    · have hc := OrderedMap.contains_eq_true_iff.2 hk
      simp [declare, declareGrouped, hc, hk]
    · have hc := OrderedMap.contains_eq_true_iff.not.2 hk
      simp [declare, declareGrouped, hc, hk, OrderedMap.keys_insert]

/-- A declaration is noted if its key is known. -/
theorem notes_declare :
    (d.declare x).notes = if x.key ∈ d.parameters.keys then d.notes ++ [x.note] else d.notes := by
  obtain ⟨group, key, parameter⟩ := x
  by_cases hk : key ∈ d.parameters.keys
  · have hc := OrderedMap.contains_eq_true_iff.2 hk
    cases group <;> simp [declare, declareTop, declareGrouped, Declaration.note, hc, hk]
  · have hc := OrderedMap.contains_eq_true_iff.not.2 hk
    cases group <;> simp [declare, declareTop, declareGrouped, hc, hk]

variable {d}

/-- The keys that have been read stand in the order of their first declarations. -/
theorem keys_foldl_declare (xs : List Declaration) :
    (xs.foldl declare {}).parameters.keys = (xs.map (·.key)).eraseDups := by
  induction xs using List.reverseRecOn with
  | nil => rfl
  | append_singleton xs x ih =>
    rw [List.foldl_append, List.foldl_cons, List.foldl_nil, keys_declare, ih, List.map_append,
      List.map_singleton, eraseDups_concat]

/-- Each declaration of a known key is noted. -/
theorem notes_foldl_declare (xs : List Declaration) (d : Declarations) :
    (xs.foldl declare d).notes =
      d.notes ++ (Declaration.repeated d.parameters.keys xs).map Declaration.note := by
  induction xs generalizing d with
  | nil => simp [Declaration.repeated]
  | cons x rest ih =>
    rw [List.foldl_cons, ih, notes_declare, keys_declare, Declaration.repeated]
    by_cases hk : x.key ∈ d.parameters.keys <;> simp [hk]

/-- Each declaration adds a key or a note. -/
theorem size_foldl_declare (xs : List Declaration) (d : Declarations) :
    (xs.foldl declare d).parameters.keys.length + (xs.foldl declare d).notes.length =
      d.parameters.keys.length + d.notes.length + xs.length := by
  induction xs generalizing d with
  | nil => rfl
  | cons x rest ih =>
    rw [List.foldl_cons, ih, keys_declare, notes_declare, List.length_cons]
    by_cases hk : x.key ∈ d.parameters.keys
    · simp only [hk, if_true, List.length_append, List.length_singleton]
      omega
    · simp only [hk, if_false, List.length_append, List.length_singleton]
      omega

private theorem foldl_groupDeclarations (d : Declarations) (group : String × ParameterGroup) :
    (groupDeclarations group).foldl declare d = d.declareGroup group := by
  rw [groupDeclarations, List.foldl_map]
  rfl

theorem foldl_flatMap_groupDeclarations (groups : List (String × ParameterGroup))
    (d : Declarations) :
    (groups.flatMap groupDeclarations).foldl declare d = groups.foldl declareGroup d := by
  induction groups generalizing d with
  | nil => rfl
  | cons group rest ih =>
    rw [List.flatMap_cons, List.foldl_append, foldl_groupDeclarations, ih, List.foldl_cons]

end Declarations

/-- The declarations of a template are read one by one. -/
theorem declarations_eq (t : Template) :
    t.declarations = t.allDeclarations.foldl Declarations.declare {} := by
  rw [allDeclarations, List.foldl_append, Declarations.foldl_flatMap_groupDeclarations,
    List.foldl_map]
  rfl

/-- Every declaration adds a key or a note. -/
theorem length_allDeclarations (t : Template) :
    t.allDeclarations.length = t.declarations.parameters.size + t.declarations.notes.length := by
  have h := Declarations.size_foldl_declare t.allDeclarations {}
  rw [← declarations_eq] at h
  have hs : t.declarations.parameters.keys.length = t.declarations.parameters.size :=
    List.length_map _
  have hk : ({} : Declarations).parameters.keys.length = 0 := rfl
  have hn : ({} : Declarations).notes.length = 0 := rfl
  omega

end Template

end TargetedConfig
