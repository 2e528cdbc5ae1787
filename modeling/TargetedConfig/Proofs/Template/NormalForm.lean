import TargetedConfig.Proofs.Template.Decoded

/-!
# Normal forms

The text written for a template that has been loaded is a normal form: if it stays within the
nesting of the reader, it loads, and the template that it gives is written as the same text. The
first pass may lose something, such as fields without a meaning, nodes that are no condition,
repeated keys or numbers without a text; there is nothing left to lose for a second one.
-/

namespace TargetedConfig

theorem Json.Value.Settled.written {v : Json.Value} (h : v.Settled) :
    v.written.Settled := by
  refine ⟨Json.Value.integersFit_written h.integers, ?_⟩
  rw [← Json.Value.written_distinctKeys, h.keys]

namespace Template

/-- A node that is no condition is written like the malformed one that it is read as. -/
theorem node_reloaded (c : Condition) : Encode.node c.reloaded = Encode.node c := by
  induction c using Condition.tree_induction with
  | or children ih =>
    rw [Condition.reloaded_or, Encode.node, Encode.node, nodes_eq_map, nodes_eq_map, List.map_map]
    exact congrArg (Encode.list "orCondition") (List.map_congr_left ih)
  | and children ih =>
    rw [Condition.reloaded_and, Encode.node, Encode.node, nodes_eq_map, nodes_eq_map, List.map_map]
    exact congrArg (Encode.list "andCondition") (List.map_congr_left ih)
  | always | never | percent | signal | malformed | foreign => rfl

theorem named_reloaded (n : NamedCondition) : Encode.named n.reloaded = Encode.named n := by
  rw [Encode.named, Encode.named, NamedCondition.reloaded, node_reloaded]

/-- Reading back a settled template changes nothing of its value. -/
theorem Settled.toJson_reloaded {t : Template} (h : t.Settled) : t.reloaded.toJson = t.toJson := by
  have hp : ∀ {m : OrderedMap Parameter}, (∀ p ∈ m.entries, p.2.Settled) →
      m.map Parameter.reloaded = m := fun hm =>
    OrderedMap.map_eq_self fun p hp => Parameter.reloaded_of_valueType_ne (hm p hp).valueType
  have hg : t.groups.map ParameterGroup.reloaded = t.groups := by
    refine OrderedMap.map_eq_self fun g hg => ?_
    rw [ParameterGroup.reloaded, hp (h.groups g hg)]
  have hv : t.version.map (·.map Json.Value.distinctKeys) = t.version := by
    cases hv : t.version with
    | none => rfl
    | some details =>
      have hd : details.map Json.Value.distinctKeys = details :=
        OrderedMap.map_eq_self fun p hp => (h.version details hv p hp).keys
      rw [Option.map_some, hd]
  have hc : (t.conditions.map NamedCondition.reloaded).map Encode.named =
      t.conditions.map Encode.named := by
    rw [List.map_map]
    exact List.map_congr_left fun n _ => named_reloaded n
  rw [toJson, toJson, reloaded, hp h.parameters, hg, hv, hc]

/-- What a text keeps of a settled template is settled. -/
theorem Settled.written {t : Template} (h : t.Settled) : t.written.Settled where
  conditions := h.conditions
  parameters := h.parameters
  groups := h.groups
  version := by
    intro details hd p hp
    obtain ⟨given, hg, rfl⟩ := Option.map_eq_some_iff.1 hd
    rw [OrderedMap.entries_map] at hp
    obtain ⟨q, hq, rfl⟩ := List.mem_map.1 hp
    exact (h.version given hg q hq).written

/-- The text of a loaded template is a normal form. -/
theorem render_of_load {s : String} {t : Template} {notes : List Entry}
    (h : load s = (.ok t, notes)) (hn : t.toJson.nesting ≤ maxNesting) :
    t.render? = some t.render ∧
      ∃ u more, load t.render = (.ok u, more) ∧ u.render? = some t.render := by
  have hs : t.Settled := settled_of_load h
  have hr : t.Readable := ⟨hn, hs.integersFit⟩
  -- The second template has the value that the first text stands for.
  have hj : t.written.reloaded.toJson = t.toJson.written := by
    rw [hs.written.toJson_reloaded, written_toJson]
  have hu : t.written.reloaded.Readable := by
    refine ⟨?_, ?_⟩
    · rw [hj, Json.Value.nesting_written]
      exact hn
    · rw [hj]
      exact Json.Value.integersFit_written hs.integersFit
  have ht : t.written.reloaded.render = t.render := by
    rw [render, hj, Json.Value.render_written, render]
  refine ⟨render?_of_readable hr, _, _, load_of_readable hr, ?_⟩
  rw [render?_of_readable hu, ht]

/-- A text with a field of no meaning, a node with two fields, a value of two kinds under names of
the other spelling, and a repeated key whose last value is not a number. -/
def careless : String :=
  "\x7b\"extra\":1," ++
  "\"conditions\":[\x7b\"name\":\"c\"," ++
  "\"condition\":\x7b\"true\":\x7b\x7d,\"false\":\x7b\x7d\x7d\x7d]," ++
  "\"parameters\":\x7b\"p\":\x7b\"default_value\":" ++
  "\x7b\"value\":\"a\",\"use_in_app_default\":true\x7d\x7d\x7d," ++
  "\"version\":\x7b\"n\":1,\"n\":NaN\x7d\x7d"

theorem render_of_load_careless :
    ∃ t notes, load careless = (.ok t, notes) ∧ t.toJson.nesting ≤ maxNesting ∧
      t.render? = some t.render ∧
      ∃ u more, load t.render = (.ok u, more) ∧ u.render? = some t.render := by
  have h : (match (load careless).1 with
      | .ok t => decide (t.toJson.nesting ≤ maxNesting)
      | .error _ => false) = true := by decide +kernel
  rcases hl : load careless with ⟨_ | t, notes⟩
  · rw [hl] at h
    cases h
  · rw [hl] at h
    have hn : t.toJson.nesting ≤ maxNesting := of_decide_eq_true h
    exact ⟨t, notes, rfl, hn, render_of_load hl hn⟩

end Template

end TargetedConfig
