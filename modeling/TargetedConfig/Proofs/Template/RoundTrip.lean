import TargetedConfig.Proofs.Json.Keys
import TargetedConfig.Proofs.Template.Reread
import TargetedConfig.Template.Text

/-!
# Templates read back from their texts

A template whose text stays within the limits of the reader is read back from its text. It comes
back unchanged unless it holds something that the format has no words for: nodes that are no
condition, empty value types, numbers without a text.
-/

namespace TargetedConfig

namespace Template

/-! ### What a text keeps -/

private theorem written_object (fields : List (String × Json.Value)) :
    (Json.Value.object fields).written = .object (fields.map fun p => (p.1, p.2.written)) := by
  rw [Json.Value.written, Json.Value.writtenFields_eq_map]

private theorem written_array (items : List Json.Value) :
    (Json.Value.array items).written = .array (items.map Json.Value.written) := by
  rw [Json.Value.written, Json.Value.writtenItems_eq_map]

private theorem written_string (s : String) : (Json.Value.string s).written = .string s := rfl

private theorem written_mapOf {α : Type} {write : α → Json.Value}
    (h : ∀ a, (write a).written = write a) (m : OrderedMap α) :
    (Encode.mapOf write m).written = Encode.mapOf write m := by
  rw [Encode.mapOf, written_object, List.map_map]
  congr 1
  refine List.map_congr_left fun p _ => ?_
  simp [h]

private theorem written_list (name : String) {items : List Json.Value}
    (h : ∀ v ∈ items, v.written = v) :
    (Encode.list name items).written = Encode.list name items := by
  have hi : items.map Json.Value.written = items := by
    rw [List.map_congr_left h, List.map_id']
  simp [Encode.list, written_object, written_array, hi]

theorem nodes_eq_map (children : List Condition) :
    Encode.nodes children = children.map Encode.node := by
  induction children with
  | nil => rfl
  | cons c rest ih => rw [Encode.nodes, ih, List.map_cons]

theorem written_node (c : Condition) : (Encode.node c).written = Encode.node c := by
  induction c using Condition.tree_induction with
  | always => rfl
  | never => rfl
  | or children ih =>
    rw [Encode.node, nodes_eq_map]
    refine written_list _ fun v hv => ?_
    obtain ⟨c, hc, rfl⟩ := List.mem_map.1 hv
    exact ih c hc
  | and children ih =>
    rw [Encode.node, nodes_eq_map]
    refine written_list _ fun v hv => ?_
    obtain ⟨c, hc, rfl⟩ := List.mem_map.1 hv
    exact ih c hc
  | percent slice =>
    obtain ⟨operator, seed, bound, range⟩ := slice
    cases range <;> rfl
  | signal test =>
    have ht : (test.targets.map Json.Value.string).map Json.Value.written =
        test.targets.map .string := by
      rw [List.map_map]
      rfl
    simp only [Encode.node, Encode.signal, written_object, written_array, written_string, ht,
      List.map_cons, List.map_nil]
  | malformed reason => rfl
  | foreign name => rfl

theorem written_named (n : NamedCondition) : (Encode.named n).written = Encode.named n := by
  simp only [Encode.named, written_object, written_node, written_string, List.map_cons,
    List.map_nil]

theorem written_value (v : ParameterValue) : (Encode.value v).written = Encode.value v := by
  rcases v with text | _ | ⟨id, _ | text, percent⟩ | id <;> rfl

theorem written_parameter (p : Parameter) : (Encode.parameter p).written = Encode.parameter p := by
  obtain ⟨default, conditional, description, valueType⟩ := p
  have hm := written_mapOf written_value conditional
  cases default <;> cases description <;>
    simp [Encode.parameter, Encode.given, written_object, written_value, written_string, hm]

theorem written_group (g : ParameterGroup) : (Encode.group g).written = Encode.group g := by
  obtain ⟨description, parameters⟩ := g
  have hm := written_mapOf written_parameter parameters
  cases description <;> simp [Encode.group, Encode.given, written_object, written_string, hm]

/-- What the text of a template keeps of it. -/
def written (t : Template) : Template :=
  { t with version := t.version.map (·.map Json.Value.written) }

theorem written_toJson (t : Template) : t.toJson.written = t.written.toJson := by
  obtain ⟨conditions, parameters, groups, version, etag⟩ := t
  have hp := written_mapOf written_parameter parameters
  have hg := written_mapOf written_group groups
  have hc : (conditions.map Encode.named).map Json.Value.written = conditions.map Encode.named := by
    rw [List.map_map]
    exact List.map_congr_left fun n _ => written_named n
  cases version <;> cases etag <;>
    simp [toJson, written, Encode.given, written_object, written_array, written_string, hp, hg, hc]

/-! ### Within the limits of the reader -/

/-- The text of a template stays within the limits of the reader: its arrays and objects nest no
deeper and none of its integers is longer than the reader allows. -/
structure Readable (t : Template) : Prop where
  nesting : t.toJson.nesting ≤ maxNesting
  integers : t.toJson.integersFit = true

private theorem render_ne_empty (t : Template) : t.render ≠ "" := by
  intro h
  have hl := congrArg String.toList h
  rw [render, Json.Value.render, String.toList_ofList] at hl
  cases hl

private theorem read_of_readable {t : Template} (h : t.Readable) :
    read t.render = .valid (t.written.reloaded, t.written.reloadNotes) := by
  rw [read, render, Json.Value.read?_render h.nesting h.integers, written_toJson]
  exact ofJson_toJson t.written

/-- A text within the limits of the reader gives what it keeps of the template, as it is read. -/
theorem load_of_readable {t : Template} (h : t.Readable) :
    load t.render = (.ok t.written.reloaded, t.written.reloadNotes) := by
  rw [load, if_neg (render_ne_empty t), read_of_readable h]

end Template

/-! ### Within the limits of the writer -/

namespace Json.Value

private theorem heightItems_le {items : List Json.Value} {n : Nat}
    (h : ∀ v ∈ items, v.height ≤ n) : heightItems items ≤ n := by
  induction items with
  | nil => exact Nat.zero_le n
  | cons v rest ih =>
    rw [heightItems]
    exact Nat.max_le.2 ⟨h v (by simp), ih fun w hw => h w (by simp [hw])⟩

private theorem heightFields_le {fields : List (String × Json.Value)} {n : Nat}
    (h : ∀ p ∈ fields, p.2.height ≤ n) : heightFields fields ≤ n := by
  induction fields with
  | nil => exact Nat.zero_le n
  | cons p rest ih =>
    obtain ⟨k, v⟩ := p
    rw [heightFields]
    exact Nat.max_le.2 ⟨h (k, v) (by simp), ih fun w hw => h w (by simp [hw])⟩

/-- A value is at most one higher than it nests. -/
theorem height_le (v : Json.Value) : v.height ≤ v.nesting + 1 := by
  induction v using tree_induction with
  | array items ih =>
    rw [height]
    refine Nat.succ_le_succ (heightItems_le fun v hv => ?_)
    exact Nat.le_trans (ih v hv) (nesting_lt_of_mem_items hv)
  | object fields ih =>
    rw [height]
    refine Nat.succ_le_succ (heightFields_le fun p hp => ?_)
    exact Nat.le_trans (ih p hp) (nesting_lt_of_mem_fields hp)
  | null | bool | integer | float | string => exact Nat.le_refl 1

end Json.Value

namespace Condition

theorem heightAll_le {children : List Condition} {n : Nat} (h : ∀ c ∈ children, c.height ≤ n) :
    heightAll children ≤ n := by
  induction children with
  | nil => exact Nat.zero_le n
  | cons c rest ih =>
    rw [heightAll]
    exact Nat.max_le.2 ⟨h c (by simp), ih fun d hd => h d (by simp [hd])⟩

end Condition

namespace Template

open Json.Value (nesting_lt_of_mem_items nesting_lt_of_mem_fields)

private theorem nesting_list (name : String) {children : List Condition} {c : Condition}
    (h : c ∈ children) :
    (Encode.node c).nesting + 3 ≤ (Encode.list name (Encode.nodes children)).nesting := by
  have hm : Encode.node c ∈ Encode.nodes children := by
    rw [nodes_eq_map]
    exact List.mem_map_of_mem h
  have ha := nesting_lt_of_mem_items hm
  have hc : (Json.Value.array (Encode.nodes children)).nesting <
      (Json.Value.object [("conditions", .array (Encode.nodes children))]).nesting :=
    nesting_lt_of_mem_fields List.mem_cons_self
  have hl : (Json.Value.object [("conditions", .array (Encode.nodes children))]).nesting <
      (Encode.list name (Encode.nodes children)).nesting :=
    nesting_lt_of_mem_fields List.mem_cons_self
  omega

/-- Every condition around another one is three objects and arrays around its value. -/
theorem height_node (c : Condition) : 3 * c.height ≤ (Encode.node c).nesting + 3 := by
  induction c using Condition.tree_induction with
  | or children ih =>
    have hh : Condition.heightAll children ≤ (Encode.node (.or children)).nesting / 3 := by
      refine Condition.heightAll_le fun c hc => ?_
      have h := ih c hc
      have hl := nesting_list "orCondition" hc
      rw [Encode.node]
      omega
    rw [Condition.height]
    omega
  | and children ih =>
    have hh : Condition.heightAll children ≤ (Encode.node (.and children)).nesting / 3 := by
      refine Condition.heightAll_le fun c hc => ?_
      have h := ih c hc
      have hl := nesting_list "andCondition" hc
      rw [Encode.node]
      omega
    rw [Condition.height]
    omega
  | always | never | percent | signal | malformed | foreign => exact Nat.le_add_left 3 _

private theorem nesting_node_of_mem {t : Template} {n : NamedCondition} (h : n ∈ t.conditions) :
    (Encode.node n.condition).nesting + 3 ≤ t.toJson.nesting := by
  have hn : (Encode.node n.condition).nesting < (Encode.named n).nesting :=
    nesting_lt_of_mem_fields (List.mem_cons_of_mem _ List.mem_cons_self)
  have ha := nesting_lt_of_mem_items (List.mem_map_of_mem (f := Encode.named) h)
  have ht : (Json.Value.array (t.conditions.map Encode.named)).nesting < t.toJson.nesting :=
    nesting_lt_of_mem_fields (k := "conditions") (by simp)
  omega

private theorem nesting_detail_of_mem {t : Template} {details : OrderedMap Json.Value}
    (hv : t.version = some details) {k : String} {v : Json.Value} (h : (k, v) ∈ details.entries) :
    v.nesting + 2 ≤ t.toJson.nesting := by
  have hd := nesting_lt_of_mem_fields h
  have ht : (Json.Value.object details.entries).nesting < t.toJson.nesting :=
    nesting_lt_of_mem_fields (k := "version") (by simp [hv, Encode.given])
  omega

/-- A template whose text can be read has a text. -/
theorem render?_of_readable {t : Template} (h : t.Readable) : t.render? = some t.render := by
  have hn : maxNesting = 200 := rfl
  have hl := h.nesting
  have hf : t.fitsText = true := by
    rw [fitsText, Bool.and_eq_true, List.all_eq_true]
    constructor
    · intro n hm
      have hc := height_node n.condition
      have hd := nesting_node_of_mem hm
      have hb : maxConditionHeight = 127 := rfl
      rw [decide_eq_true_iff]
      omega
    · cases hv : t.version with
      | none => rfl
      | some details =>
        rw [Option.all_some, List.all_eq_true]
        rintro ⟨k, v⟩ hm
        have hc := v.height_le
        have hd := nesting_detail_of_mem hv hm
        have hb : maxDetailHeight = 254 := rfl
        rw [decide_eq_true_iff]
        dsimp only
        omega
  rw [render?, if_pos hf]

end Template

/-! ### What comes back unchanged -/

/-- Values with a text of their own: numbers are finite, and no object repeats a key. -/
inductive Json.Value.Proper : Json.Value → Prop where
  | null : Proper .null
  | bool (b) : Proper (.bool b)
  | integer (n) : Proper (.integer n)
  | finite (negative units fits) : Proper (.float (.finite negative units fits))
  | string (s) : Proper (.string s)
  | array {items} (proper : ∀ v ∈ items, Proper v) : Proper (.array items)
  | object {fields} (distinct : (fields.map Prod.fst).Nodup) (proper : ∀ p ∈ fields, Proper p.2) :
      Proper (.object fields)

namespace Json.Value

/-- Nothing of a proper value is lost in its text. -/
theorem Proper.written_eq {v : Json.Value} (h : v.Proper) : v.written = v := by
  induction h with
  | array proper ih =>
    rw [written, writtenItems_eq_map, List.map_congr_left ih, List.map_id']
  | object distinct proper ih =>
    rw [written, writtenFields_eq_map]
    congr 1
    refine (List.map_congr_left fun p hp => ?_).trans (List.map_id' _)
    rw [ih p hp]
  | null | bool | integer | finite | string => rfl

private theorem distinctKeysFields_of_nodup {fields done : List (String × Json.Value)}
    (h : ((done ++ fields).map Prod.fst).Nodup) :
    distinctKeysFields fields done = done ++ fields.map fun p => (p.1, p.2.distinctKeys) := by
  induction fields generalizing done with
  | nil => simp [distinctKeysFields]
  | cons p rest ih =>
    obtain ⟨k, v⟩ := p
    have hk : k ∉ done.map Prod.fst := by
      intro hm
      rw [List.map_append, List.nodup_append] at h
      exact h.2.2 k hm k (by simp) rfl
    rw [distinctKeysFields, putEntry_of_not_mem hk, ih]
    · simp
    · simpa using h

/-- A proper value has its keys settled. -/
theorem Proper.distinctKeys_eq {v : Json.Value} (h : v.Proper) : v.distinctKeys = v := by
  induction h with
  | array proper ih =>
    rw [distinctKeys, distinctKeysItems_eq_map, List.map_congr_left ih, List.map_id']
  | object distinct proper ih =>
    rw [distinctKeys, distinctKeysFields_of_nodup (by simpa using distinct), List.nil_append]
    congr 1
    refine (List.map_congr_left fun p hp => ?_).trans (List.map_id' _)
    rw [ih p hp]
  | null | bool | integer | finite | string => rfl

end Json.Value

/-- Trees in which every node is a condition. -/
inductive Condition.Genuine : Condition → Prop where
  | always : Genuine .always
  | never : Genuine .never
  | or {children} (genuine : ∀ c ∈ children, Genuine c) : Genuine (.or children)
  | and {children} (genuine : ∀ c ∈ children, Genuine c) : Genuine (.and children)
  | percent (slice) : Genuine (.percent slice)
  | signal (test) : Genuine (.signal test)

theorem Condition.Genuine.reloaded_eq {c : Condition} (h : c.Genuine) : c.reloaded = c := by
  induction h with
  | or genuine ih => rw [reloaded_or, List.map_congr_left ih, List.map_id']
  | and genuine ih => rw [reloaded_and, List.map_congr_left ih, List.map_id']
  | always | never | percent | signal => rfl

theorem Parameter.reloaded_of_valueType_ne {p : Parameter} (h : p.valueType ≠ "") :
    p.reloaded = p := by
  unfold reloaded Template.Decode.valueType
  dsimp only
  rw [if_neg h]

namespace OrderedMap

theorem map_eq_self {α : Type} {f : α → α} {m : OrderedMap α}
    (h : ∀ p ∈ m.entries, f p.2 = p.2) : m.map f = m := by
  refine ext_entries ?_
  rw [entries_map]
  refine (List.map_congr_left fun p hp => ?_).trans (List.map_id' _)
  rw [h p hp]

end OrderedMap

namespace Template

/-- A template that holds nothing for which the format has no words. -/
structure Lossless (t : Template) : Prop where
  conditions : ∀ n ∈ t.conditions, n.condition.Genuine
  parameters : ∀ p ∈ t.parameters.entries, p.2.valueType ≠ ""
  groups : ∀ g ∈ t.groups.entries, ∀ p ∈ g.2.parameters.entries, p.2.valueType ≠ ""
  version : ∀ details, t.version = some details → ∀ p ∈ details.entries, p.2.Proper

theorem Lossless.written_eq {t : Template} (h : t.Lossless) : t.written = t := by
  obtain ⟨conditions, parameters, groups, version, etag⟩ := t
  cases version with
  | none => rfl
  | some details =>
    have hd : details.map Json.Value.written = details :=
      OrderedMap.map_eq_self fun p hp => (h.version details rfl p hp).written_eq
    simp [written, hd]

theorem Lossless.reloaded_eq {t : Template} (h : t.Lossless) : t.reloaded = t := by
  obtain ⟨conditions, parameters, groups, version, etag⟩ := t
  have hc : conditions.map NamedCondition.reloaded = conditions := by
    refine (List.map_congr_left fun n hn => ?_).trans (List.map_id' _)
    rw [NamedCondition.reloaded, (h.conditions n hn).reloaded_eq]
  have hp : parameters.map Parameter.reloaded = parameters :=
    OrderedMap.map_eq_self fun p hp => Parameter.reloaded_of_valueType_ne (h.parameters p hp)
  have hg : groups.map ParameterGroup.reloaded = groups := by
    refine OrderedMap.map_eq_self fun g hg => ?_
    have hm : g.2.parameters.map Parameter.reloaded = g.2.parameters :=
      OrderedMap.map_eq_self fun p hp => Parameter.reloaded_of_valueType_ne (h.groups g hg p hp)
    rw [ParameterGroup.reloaded, hm]
  cases version with
  | none => simp [reloaded, hc, hp, hg]
  | some details =>
    have hd : details.map Json.Value.distinctKeys = details :=
      OrderedMap.map_eq_self fun p hp => (h.version details rfl p hp).distinctKeys_eq
    simp [reloaded, hc, hp, hg, hd]

/-- A lossless template whose text stays within the limits of the reader has this text and comes
back from it as it was. -/
theorem load_render {t : Template} (hr : t.Readable) (hl : t.Lossless) :
    t.render? = some t.render ∧ load t.render = (.ok t, t.reloadNotes) := by
  refine ⟨render?_of_readable hr, ?_⟩
  rw [load_of_readable hr, hl.written_eq, hl.reloaded_eq]

/-- A template with nested conditions, empty texts, a null and a negative zero. -/
def nested : Template where
  conditions :=
    [⟨"c", .and [.or [],
      .or [.never, .percent ⟨.between, "", -1, some ⟨0, 1000000000000000000000000000000⟩⟩],
      .signal ⟨"k", .version .notEqual, ["", "1.0"]⟩], by decide⟩]
  parameters := .ofList [("p",
    { default := some (.rollout "r" none 0)
      conditional := .ofList [("c", .rollout "" (some "") (-5)), ("b", .inAppDefault)]
      description := some "" })]
  version := some (.ofList
    [("versionNumber", .float (.zero true)), ("a", .object [("x", .null), ("y", .array [])])])
  etag := some ""

private theorem genuine_nested : ∀ n ∈ nested.conditions, n.condition.Genuine := by
  intro n hn
  cases List.mem_singleton.1 hn
  refine .and fun c hc => ?_
  simp only [List.mem_cons, List.not_mem_nil, or_false] at hc
  rcases hc with rfl | rfl | rfl
  · exact .or (by simp)
  · refine .or fun d hd => ?_
    simp only [List.mem_cons, List.not_mem_nil, or_false] at hd
    rcases hd with rfl | rfl
    · exact .never
    · exact .percent _
  · exact .signal _

private theorem proper_nested :
    ∀ details, nested.version = some details → ∀ p ∈ details.entries, p.2.Proper := by
  intro details hd p hp
  cases hd
  change p ∈ [("versionNumber", Json.Value.float (.zero true)),
    ("a", .object [("x", .null), ("y", .array [])])] at hp
  simp only [List.mem_cons, List.not_mem_nil, or_false] at hp
  rcases hp with rfl | rfl
  · exact .finite _ _ _
  · refine .object (by decide) fun q hq => ?_
    simp only [List.mem_cons, List.not_mem_nil, or_false] at hq
    rcases hq with rfl | rfl
    · exact .null
    · exact .array (by simp)

theorem load_render_nested :
    nested.Readable ∧ nested.Lossless ∧ nested.render? = some nested.render ∧
      load nested.render = (.ok nested, nested.reloadNotes) := by
  have hr : nested.Readable := ⟨by decide, by decide⟩
  have hl : nested.Lossless := ⟨genuine_nested, by decide, by decide, proper_nested⟩
  exact ⟨hr, hl, load_render hr hl⟩

end Template

end TargetedConfig
