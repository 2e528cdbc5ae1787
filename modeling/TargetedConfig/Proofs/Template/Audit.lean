import TargetedConfig.Proofs.Json.Reading
import TargetedConfig.Proofs.Template.Fields

/-!
# The audit of a template

Notes about conditions are written while a text is read. They tell no more and no less than what an
audit of the finished template finds: it walks the trees from the left, each condition before its
children, and reports malformed nodes and doubtful percent conditions. What is doubtful is reported
only; every condition keeps the data of the node that describes it.
-/

namespace TargetedConfig

/-! ### The audit -/

namespace PercentSlice

/-- The bounds of a slice under the names of their fields. -/
def bounds (slice : PercentSlice) : List (String × Int) :=
  ("micro_percent", slice.bound) ::
    match slice.range with
    | none => []
    | some range =>
      [("micro_percent_lower_bound", range.lower), ("micro_percent_upper_bound", range.upper)]

def report (message : String) (details : Fields) : Entry :=
  Anomaly.entry ⟨.invalidPercentCondition, message, details⟩ .warning "remote_config.template"

/-- A report for each bound that is no share of the users, then one for a seed that is too long or
not plain. -/
def doubts (slice : PercentSlice) : List Entry :=
  (slice.bounds.flatMap fun p =>
      if 0 ≤ p.2 ∧ p.2 ≤ 100000000 then []
      else
        [report "Percent condition bound out of range"
          [("field", .string p.1), ("bound", .integer p.2)]]) ++
    if 32 < slice.seed.length ∨ slice.seed.toList.any (fun c => 0x80 ≤ c.toNat) then
      [report "Percent condition seed must be at most 32 ASCII characters"
        [("seed", .string slice.seed)]]
    else []

end PercentSlice

namespace Condition

/-- What is doubtful about a condition, its children aside. -/
def doubts : Condition → List Entry
  | .percent slice => slice.doubts
  | .malformed reason =>
    [⟨.warning, "remote_config.template", "Invalid condition node in template",
      [("reason", .string reason)]⟩]
  | _ => []

mutual

/-- The conditions of a tree from the left, each before its children. -/
def walk : Condition → List Condition
  | .or children => .or children :: walkAll children
  | .and children => .and children :: walkAll children
  | c => [c]

def walkAll : List Condition → List Condition
  | [] => []
  | c :: rest => walk c ++ walkAll rest

end

def audit (c : Condition) : List Entry := c.walk.flatMap doubts

theorem walkAll_eq_flatMap (children : List Condition) :
    walkAll children = children.flatMap walk := by
  induction children with
  | nil => rfl
  | cons c rest ih => rw [walkAll, ih, List.flatMap_cons]

theorem audit_or (children : List Condition) : (or children).audit = children.flatMap audit := by
  rw [audit, walk, List.flatMap_cons, walkAll_eq_flatMap, List.flatMap_assoc]
  rfl

theorem audit_and (children : List Condition) : (and children).audit = children.flatMap audit := by
  rw [audit, walk, List.flatMap_cons, walkAll_eq_flatMap, List.flatMap_assoc]
  rfl

end Condition

/-- What is doubtful in the conditions of a template, one after the other. -/
def Template.audit (t : Template) : List Entry := t.conditions.flatMap (·.condition.audit)

/-! ### What nodes describe -/

namespace Field

/-- The value given in a field; null is none. -/
def given? (f : Field) (fields : List (String × Json.Value)) : Option Json.Value :=
  match f.value? fields with
  | some .null => none
  | o => o

def items (f : Field) (fields : List (String × Json.Value)) : List Json.Value :=
  match f.value? fields with
  | some (.array items) => items
  | _ => []

end Field

namespace Field

variable {α : Type} {f : Field} {fields : List (String × Json.Value)} {v : Json.Value}

theorem exists_mem_of_value? (h : f.value? fields = some v) : ∃ key, (key, v) ∈ fields := by
  rw [value?, Option.or_eq_some_iff] at h
  rcases h with h | ⟨-, h⟩
  · exact ⟨_, mem_of_last? h⟩
  · exact ⟨_, mem_of_last? h⟩

theorem value?_of_given? (h : f.given? fields = some v) : f.value? fields = some v := by
  rw [given?] at h
  split at h
  · cases h
  · exact h

/-- An item that is listed in a field of an object nests less deep than the object. -/
theorem nesting_lt_of_mem_items (h : v ∈ f.items fields) :
    v.nesting < (Json.Value.object fields).nesting := by
  rw [items] at h
  split at h
  · rename_i items hv
    obtain ⟨key, hm⟩ := exists_mem_of_value? hv
    exact Nat.lt_trans (Json.Value.nesting_lt_of_mem_items h)
      (Json.Value.nesting_lt_of_mem_fields hm)
  · cases h

variable {read : Json.Value → Checked α}

/-- An optional field is read if it is given. -/
theorem given?_of_optional {o : Option α} (h : f.optional read fields = .valid o) :
    (f.given? fields = none ∧ o = none) ∨
      ∃ v a, f.given? fields = some v ∧ read v = .valid a ∧ o = some a := by
  rw [given?, ← map_find?]
  rw [optional] at h
  split at h
  · rename_i hf
    cases h
    left
    simp [hf]
  · rename_i hf
    cases h
    left
    simp [hf]
  · rename_i key v hv hf
    rw [Checked.under_eq_valid, Checked.map_eq_valid] at h
    obtain ⟨a, ha, rfl⟩ := h
    right
    refine ⟨v, a, ?_, ha, rfl⟩
    rw [hf, Option.map_some]
    split
    · rename_i he
      cases he
      exact absurd rfl hv
    · rfl

theorem value?_of_withDefault {default a : α}
    (h : f.withDefault default read fields = .valid a) :
    (f.value? fields = none ∧ a = default) ∨ ∃ v, f.value? fields = some v ∧ read v = .valid a := by
  rw [← map_find?]
  rw [withDefault] at h
  split at h
  · rename_i hf
    cases h
    exact .inl ⟨by rw [hf]; rfl, rfl⟩
  · rename_i key v hf
    rw [Checked.under_eq_valid] at h
    exact .inr ⟨v, by rw [hf]; rfl, h⟩

theorem value?_of_required {a : α} (h : f.required read fields = .valid a) :
    ∃ v, f.value? fields = some v ∧ read v = .valid a := by
  rw [← map_find?]
  rw [required] at h
  split at h
  · cases h
  · rename_i key v hf
    rw [Checked.under_eq_valid] at h
    exact ⟨v, by rw [hf]; rfl, h⟩

/-- A field that lists values is read item by item. -/
theorem forall₂_items {values : List α}
    (h : f.withDefault [] (Reader.listOf read) fields = .valid values) :
    List.Forall₂ (fun v a => read v = .valid a) (f.items fields) values := by
  rw [items]
  rcases value?_of_withDefault h with ⟨hv, rfl⟩ | ⟨v, hv, h⟩
  · rw [hv]
    exact .nil
  · rw [hv]
    cases v with
    | array items => exact Checked.forall₂_of_itemsFrom h
    | null | bool | integer | float | string | object => cases h

end Field

namespace Template

open Decode (NodeField)

/-- The fields given in a node, in the order of their declaration. -/
def givenFields (fields : List (String × Json.Value)) : List NodeField :=
  NodeField.all.filter fun f => (f.names.given? fields).isSome

/-- Why a node with these fields given is no condition. -/
def reason (given : List NodeField) : String :=
  if given = [] then "no condition set"
  else
    "several conditions set: [" ++
      ", ".intercalate (given.map fun f => Text.quoted f.names.other) ++ "]"

/-- An object is given in one field of a node and nothing in the other ones. -/
structure Only (fields : List (String × Json.Value)) (f : NodeField)
    (data : List (String × Json.Value)) : Prop where
  givenFields : givenFields fields = [f]
  given? : f.names.given? fields = some (.object data)

/-- A node describes a condition: the one whose field alone is given, with the data that stand in
it. A node with no field given, or with several, describes a malformed condition, whatever stands in
these fields. -/
inductive Describes : Json.Value → Condition → Prop
  | malformed {fields : List (String × Json.Value)} (others : ∀ f, givenFields fields ≠ [f]) :
      Describes (.object fields) (.malformed (reason (givenFields fields)))
  | always {fields data : List (String × Json.Value)} (only : Only fields .always data) :
      Describes (.object fields) .always
  | never {fields data : List (String × Json.Value)} (only : Only fields .never data) :
      Describes (.object fields) .never
  | percent {fields data : List (String × Json.Value)} {slice : PercentSlice}
      (only : Only fields .percent data) (decoded : Decode.percent data = .valid slice) :
      Describes (.object fields) (.percent slice)
  | signal {fields data : List (String × Json.Value)} {test : SignalTest}
      (only : Only fields .signal data) (decoded : Decode.signal data = .valid test) :
      Describes (.object fields) (.signal test)
  | or {fields data : List (String × Json.Value)} {children : List Condition}
      (only : Only fields .or data)
      (described : List.Forall₂ Describes (Decode.children.items data) children) :
      Describes (.object fields) (.or children)
  | and {fields data : List (String × Json.Value)} {children : List Condition}
      (only : Only fields .and data)
      (described : List.Forall₂ Describes (Decode.children.items data) children) :
      Describes (.object fields) (.and children)

/-- An object describes a named condition; without a node the condition is that of an empty one. -/
def DescribesNamed (v : Json.Value) (n : NamedCondition) : Prop :=
  ∃ fields, v = .object fields ∧ (Field.plain "name").value? fields = some (.string n.name) ∧
    Describes (((Field.plain "condition").value? fields).getD (.object [])) n.condition

/-- A reading of a node: the condition that the node describes, and what an audit of it finds. -/
structure Faithful (v : Json.Value) (r : Reading) : Prop where
  describes : Describes v r.condition
  notes : r.notes = r.condition.audit

namespace Decode

variable {fields : List (String × Json.Value)} {f : NodeField}

/-- The readings of a node are those of the fields given in it. -/
theorem forall₂_of_fieldsOf {names : List NodeField} {readings : List (String × Reading)}
    (h : fieldsOf (nodeEntries fields) names = .valid readings) :
    List.Forall₂ (fun f p => p.1 = f.names.other ∧
        ∃ v, f.names.given? fields = some v ∧ f.read v = .valid p.2)
      (names.filter fun f => (f.names.given? fields).isSome) readings := by
  induction names generalizing readings with
  | nil =>
    cases h
    exact .nil
  | cons f rest ih =>
    rw [fieldsOf, Checked.seq_eq_valid] at h
    obtain ⟨_, others, hf, ho, rfl⟩ := h
    rw [Checked.functor_eq_valid, fieldOf_nodeEntries] at hf
    obtain ⟨given, hg, rfl⟩ := hf
    obtain ⟨o, ht, rfl⟩ := Checked.map_eq_valid.1 hg
    rcases Field.given?_of_optional ht with ⟨hn, rfl⟩ | ⟨v, r, hv, hr, rfl⟩
    · rw [List.filter_cons_of_neg (by simp [hn])]
      exact ih ho
    · rw [List.filter_cons_of_pos (by simp [hv])]
      exact .cons ⟨rfl, v, hv, hr⟩ (ih ho)

/-- The notes about a slice are what an audit finds. -/
theorem notes_percent (slice : PercentSlice) :
    (Reading.percent slice).notes = (Condition.percent slice).audit := by
  have ha : (Condition.percent slice).audit = slice.doubts := List.append_nil _
  rw [ha]
  obtain ⟨operator, seed, bound, range⟩ := slice
  cases range with
  | none => rfl
  | some range =>
    rw [PercentSlice.doubts, PercentSlice.bounds]
    simp only [List.flatMap_cons, List.flatMap_nil, List.append_nil]
    rfl

/-- Values that are read one by one, each as what it describes and with the notes of an audit. -/
theorem described_and_audited {α β : Type} {described : Json.Value → β → Prop} (part : α → β)
    (notes : α → List Entry) (audit : β → List Entry) {values : List Json.Value}
    {readings : List α}
    (h : List.Forall₂ (fun v r => described v (part r) ∧ notes r = audit (part r)) values
      readings) :
    List.Forall₂ described values (readings.map part) ∧
      readings.flatMap notes = (readings.map part).flatMap audit := by
  induction h with
  | nil => exact ⟨.nil, rfl⟩
  | cons hr _ ih =>
    refine ⟨.cons hr.1 ih.1, ?_⟩
    rw [List.flatMap_cons, List.map_cons, List.flatMap_cons, hr.2, ih.2]

/-- Children that are read faithfully make faithful readings of the nodes that combine them. -/
theorem faithful_children {data : List (String × Json.Value)} {readings : List Reading}
    (ih : ∀ v ∈ children.items data, ∀ r, node v = .valid r → Faithful v r)
    (h : childrenOf (listEntries data) = .valid readings) :
    List.Forall₂ Describes (children.items data) (readings.map (·.condition)) ∧
      readings.flatMap (·.notes) = (readings.map (·.condition)).flatMap Condition.audit := by
  rw [childrenOf_listEntries] at h
  have hf := (List.forall₂_and_left _ _).2 ⟨ih, Field.forall₂_items h⟩
  apply described_and_audited
  exact hf.imp fun _ r hr => ⟨(hr.1 r hr.2).describes, (hr.1 r hr.2).notes⟩

/-- A node in which one field is given is read faithfully if the conditions under it are. -/
theorem faithful_of_only {v : Json.Value} {r : Reading} (only : givenFields fields = [f])
    (hg : f.names.given? fields = some v) (hr : f.read v = .valid r)
    (ih : ∀ w : Json.Value, w.nesting < (Json.Value.object fields).nesting →
      ∀ r, node w = .valid r → Faithful w r) :
    Faithful (.object fields) r := by
  obtain ⟨a, ha, rfl⟩ := Checked.map_eq_valid.1 hr
  cases v with
  | object data =>
    have hc : ∀ w ∈ children.items data, ∀ r, node w = .valid r → Faithful w r := by
      intro w hw
      obtain ⟨key, hm⟩ := Field.exists_mem_of_value? (Field.value?_of_given? hg)
      exact ih w (Nat.lt_trans (Field.nesting_lt_of_mem_items hw)
        (Json.Value.nesting_lt_of_mem_fields hm))
    cases f with
    | or =>
      obtain ⟨hd, hn⟩ := faithful_children hc ha
      exact ⟨.or ⟨only, hg⟩ hd, hn.trans (Condition.audit_or _).symm⟩
    | and =>
      obtain ⟨hd, hn⟩ := faithful_children hc ha
      exact ⟨.and ⟨only, hg⟩ hd, hn.trans (Condition.audit_and _).symm⟩
    | always => exact ⟨.always ⟨only, hg⟩, rfl⟩
    | never => exact ⟨.never ⟨only, hg⟩, rfl⟩
    | percent => exact ⟨.percent ⟨only, hg⟩ ha, notes_percent a⟩
    | signal => exact ⟨.signal ⟨only, hg⟩ ha, rfl⟩
  | null | bool | integer | float | string | array => cases f <;> cases ha

theorem faithful_malformed (others : ∀ f, givenFields fields ≠ [f]) :
    Faithful (.object fields) (.malformed (reason (givenFields fields))) :=
  ⟨.malformed others, rfl⟩

/-- The fields of a malformed node are told by their names. -/
theorem ofFields_eq_malformed {given : List NodeField} {readings : List (String × Reading)}
    (names : readings.map Prod.fst = given.map (·.names.other)) (h : ∀ p, readings ≠ [p]) :
    Reading.ofFields readings = .malformed (reason given) := by
  match readings with
  | [] =>
    have hg : given = [] := List.map_eq_nil_iff.1 names.symm
    rw [hg]
    rfl
  | [p] => exact absurd rfl (h p)
  | p :: q :: rest =>
    have hg : given ≠ [] := by
      rintro rfl
      cases names
    have hq : (p :: q :: rest).map (fun p => Text.quoted p.1) =
        given.map fun f => Text.quoted f.names.other := by
      have hm := congrArg (List.map Text.quoted) names
      rwa [List.map_map, List.map_map] at hm
    rw [reason, if_neg hg, ← hq]
    rfl

theorem names_of_fieldsOf {given : List NodeField} {readings : List (String × Reading)}
    {P : NodeField → String × Reading → Prop}
    (h : List.Forall₂ (fun f p => p.1 = f.names.other ∧ P f p) given readings) :
    readings.map Prod.fst = given.map (·.names.other) := by
  induction h with
  | nil => rfl
  | cons hp _ ih => rw [List.map_cons, List.map_cons, ih, hp.1]

/-- Every node is read faithfully. -/
theorem faithful_node (v : Json.Value) : ∀ r, node v = .valid r → Faithful v r := by
  induction hn : v.nesting using Nat.strongRecOn generalizing v with
  | ind n ih =>
    subst hn
    intro r h
    cases v with
    | object fields =>
      rw [node, nodeOf, Checked.map_eq_valid] at h
      obtain ⟨readings, hr, rfl⟩ := h
      have hf : List.Forall₂ _ (givenFields fields) readings := forall₂_of_fieldsOf hr
      by_cases hs : ∃ p, readings = [p]
      · obtain ⟨p, rfl⟩ := hs
        obtain ⟨f, rest, ⟨-, v, hv, hp⟩, hn, hg⟩ := List.forall₂_cons_right_iff.1 hf
        rw [List.forall₂_nil_right_iff] at hn
        rw [hn] at hg
        exact faithful_of_only hg hv hp fun w hw => ih w.nesting hw w rfl
      · rw [ofFields_eq_malformed (names_of_fieldsOf hf) fun p hp => hs ⟨p, hp⟩]
        apply faithful_malformed
        intro f hg
        rw [hg] at hf
        obtain ⟨p, rest, -, hn, hp⟩ := List.forall₂_cons_left_iff.1 hf
        rw [List.forall₂_nil_left_iff] at hn
        rw [hn] at hp
        exact hs ⟨p, hp⟩
    | null | bool | integer | float | string | array => cases h

/-! ### Templates -/

theorem string_of_nonEmptyString {v : Json.Value} {name : { s : String // s ≠ "" }}
    (h : Reader.nonEmptyString v = .valid name) : v = .string name.1 := by
  cases v with
  | string s =>
    rw [Reader.nonEmptyString] at h
    split at h
    · cases h
    · cases h
      rfl
  | null | bool | integer | float | array | object => cases h

/-- A named condition is read faithfully. -/
theorem describesNamed_of_named {v : Json.Value} {p : NamedCondition × List Entry}
    (h : Reader.model named v = .valid p) :
    DescribesNamed v p.1 ∧ p.2 = p.1.condition.audit := by
  cases v with
  | object fields =>
    rw [Reader.model, named] at h
    simp only [Checked.seq_eq_valid, Checked.functor_eq_valid] at h
    obtain ⟨_, r, ⟨name, hn, rfl⟩, hr, rfl⟩ := h
    have hv : Faithful (((Field.plain "condition").value? fields).getD (.object [])) r := by
      rcases Field.value?_of_withDefault hr with ⟨hv, rfl⟩ | ⟨v, hv, hr⟩
      · rw [hv]
        apply faithful_malformed
        intro f hf
        cases hf
      · rw [hv]
        exact faithful_node v r hr
    obtain ⟨w, hw, hs⟩ := Field.value?_of_required hn
    rw [string_of_nonEmptyString hs] at hw
    exact ⟨⟨fields, rfl, hw, hv.describes⟩, hv.notes⟩
  | null | bool | integer | float | string | array => cases h

end Decode

/-- The entries that are written while a text is loaded are the audit of the template, no more and
no less: for each condition in turn a walk of its tree from the left, each condition before its
children, with a warning for a malformed one and with the reports about the bounds and the seed of a
percent condition. The conditions are those that the text describes, one for each item of its list,
doubtful ones with their data as they are. -/
theorem notes_of_load {text : String} {t : Template} {notes : List Entry}
    (h : load text = (.ok t, notes)) :
    notes = t.audit ∧
      ∃ fields, Json.StandsFor text (.object fields) ∧
        List.Forall₂ DescribesNamed ((Field.plain "conditions").items fields) t.conditions := by
  obtain ⟨v, hv, hr⟩ := exists_of_load h
  have hv := (Json.read?_eq_some_iff.1 hv).1
  cases v with
  | object fields =>
    rw [ofJson, Reader.model, Decode.template] at hr
    simp only [Checked.seq_eq_valid, Checked.functor_eq_valid] at hr
    obtain ⟨_, etag, ⟨_, version, ⟨_, groups, ⟨_, conditions, ⟨parameters, -, rfl⟩, hc, rfl⟩, -,
      rfl⟩, -, rfl⟩, -, he⟩ := hr
    cases he
    have hf := (Field.forall₂_items hc).imp fun _ _ => Decode.describesNamed_of_named
    obtain ⟨hd, hn⟩ := Decode.described_and_audited Prod.fst Prod.snd
      (fun n : NamedCondition => n.condition.audit) hf
    exact ⟨hn, fields, hv, hd⟩
  | null | bool | integer | float | string | array => cases hr

/-- A node with two fields, one of which holds a doubtful percent condition, and that percent
condition in a node of its own, with a seed that is not plain. -/
def doubtful : String :=
  "\x7b\"conditions\":[\x7b\"name\":\"a\",\"condition\":\x7b\"orCondition\":" ++
  "\x7b\"conditions\":[\x7b\"true\":\x7b\x7d,\"percent\":\x7b\"microPercent\":-1\x7d\x7d," ++
  "\x7b\"percent\":\x7b\"microPercent\":-1,\"seed\":\"\\u00e9\"\x7d\x7d]\x7d\x7d\x7d]\x7d"

theorem notes_of_load_doubtful :
    ∃ t notes fields, load doubtful = (.ok t, notes) ∧ notes = t.audit ∧
      notes.map (·.event) =
        ["Invalid condition node in template", "Percent condition bound out of range",
          "Percent condition seed must be at most 32 ASCII characters"] ∧
      Json.StandsFor doubtful (.object fields) ∧
      List.Forall₂ DescribesNamed ((Field.plain "conditions").items fields) t.conditions := by
  have h : ((load doubtful).1.isOk && (load doubtful).2.map (·.event) ==
      ["Invalid condition node in template", "Percent condition bound out of range",
        "Percent condition seed must be at most 32 ASCII characters"]) = true := by decide +kernel
  rw [Bool.and_eq_true, beq_iff_eq] at h
  rcases hl : load doubtful with ⟨_ | t, notes⟩
  · rw [hl] at h
    cases h.1
  · rw [hl] at h
    obtain ⟨hn, fields, hs, hd⟩ := notes_of_load hl
    exact ⟨t, notes, fields, rfl, hn, h.2, hs, hd⟩

end Template

end TargetedConfig
