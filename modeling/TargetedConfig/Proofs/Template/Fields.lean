import TargetedConfig.Proofs.Template.Decoded
import TargetedConfig.Proofs.Template.Shape

/-!
# Decoders see fields only

What a model means depends on its fields alone: on the value that counts as each of them, if there
is one, and on that value only as far as its shape tells. So two objects whose fields look alike to
the decoder mean the same, or neither of them means anything.
-/

namespace TargetedConfig

/-! ### Checked values that agree -/

namespace Checked

variable {α β : Type} {x y z : Checked α}

/-- Both are invalid, or both are valid and hold the same. -/
def Alike (x y : Checked α) : Prop := ∀ a, x = .valid a ↔ y = .valid a

namespace Alike

theorem refl (x : Checked α) : x.Alike x := fun _ => Iff.rfl

theorem trans (h : x.Alike y) (h' : y.Alike z) : x.Alike z := fun a => (h a).trans (h' a)

theorem map (h : x.Alike y) (f : α → β) : (x.map f).Alike (y.map f) := by
  intro b
  rw [map_eq_valid, map_eq_valid]
  exact exists_congr fun a => and_congr_left' (h a)

theorem functor (f : α → β) (h : x.Alike y) : (f <$> x).Alike (f <$> y) := h.map f

theorem seq {f g : Checked (α → β)} (hf : f.Alike g) (h : x.Alike y) :
    (f <*> x).Alike (g <*> y) := by
  intro b
  rw [seq_eq_valid, seq_eq_valid]
  exact exists_congr fun k => exists_congr fun a => and_congr (hf k) (and_congr_left' (h a))

theorem under (h : x.Alike y) (p q : Place) : (x.under p).Alike (y.under q) := by
  intro a
  rw [under_eq_valid, under_eq_valid]
  exact h a

end Alike

/-- Lists that differ in one item, the readings of which agree. -/
theorem itemsFrom_alike {read : α → Checked β} {a b : α} (h : (read a).Alike (read b))
    (before after : List α) (n : Nat) :
    (itemsFrom read n (before ++ a :: after)).Alike (itemsFrom read n (before ++ b :: after)) := by
  induction before generalizing n with
  | nil => exact ((h.under _ _).functor _).seq (.refl _)
  | cons c rest ih => exact (Alike.refl _).seq (ih (n + 1))

/-- Maps that differ in one entry, the readings of which agree. -/
theorem entries_alike {read : α → Checked β} {a b : α} (h : (read a).Alike (read b))
    (before after : List (String × α)) (key : String) :
    (entries read (before ++ (key, a) :: after)).Alike
      (entries read (before ++ (key, b) :: after)) := by
  induction before with
  | nil => exact ((h.under _ _).functor _).seq (.refl _)
  | cons p rest ih => exact (Alike.refl _).seq ih

end Checked

/-! ### The value that counts as a field -/

namespace Field

variable {α β : Type} {f : Field}

/-- The value that counts as a field. -/
def value? (f : Field) (entries : List (String × α)) : Option α :=
  (last? f.name entries).or (last? f.other entries)

theorem map_find? (f : Field) (entries : List (String × α)) :
    (f.find? entries).map Prod.snd = f.value? entries := by
  rw [find?, value?]
  cases last? f.name entries with
  | none => simp [Function.comp_def]
  | some a => rfl

theorem named_of_find? {entries : List (String × α)} {key : String} {a : α}
    (h : f.find? entries = some (key, a)) : f.Named key := by
  rw [find?] at h
  split at h
  · cases h
    exact .inl rfl
  · obtain ⟨b, -, he⟩ := Option.map_eq_some_iff.1 h
    cases he
    exact .inr rfl

theorem last?_map (g : String → α → β) (key : String) (entries : List (String × α)) :
    last? key (entries.map fun p => (p.1, g p.1 p.2)) = (last? key entries).map (g key) := by
  induction entries with
  | nil => rfl
  | cons p rest ih =>
    rw [List.map_cons, last?, ih, last?, Option.map_or]
    congr 1
    split
    · rename_i hk
      simp [hk]
    · rfl

theorem find?_map (g : String → α → β) (entries : List (String × α)) :
    f.find? (entries.map fun p => (p.1, g p.1 p.2)) =
      (f.find? entries).map fun p => (p.1, g p.1 p.2) := by
  rw [find?, find?, last?_map, last?_map]
  cases last? f.name entries with
  | none => simp [Function.comp_def]
  | some a => rfl

end Field

/-! ### What shapes mean -/

namespace Template

def Model.Meaning : Model → Type
  | .template => Template × List Entry
  | .condition => NamedCondition × List Entry
  | .node => Reading
  | .list => List Reading
  | .percent => PercentSlice
  | .range => BucketRange
  | .signal => SignalTest
  | .parameter => Parameter
  | .value => ParameterValue
  | .rollout => ParameterValue
  | .personalization => ParameterValue
  | .group => ParameterGroup

def Model.decode : (m : Model) → List (String × Json.Value) → Checked m.Meaning
  | .template => Decode.template
  | .condition => Decode.named
  | .node => fun fields => Decode.nodeOf (Decode.nodeEntries fields)
  | .list => fun fields => Decode.childrenOf (Decode.listEntries fields)
  | .percent => Decode.percent
  | .range => Decode.range
  | .signal => Decode.signal
  | .parameter => Decode.parameter
  | .value => Decode.value
  | .rollout => Decode.rollout
  | .personalization => Decode.personalization
  | .group => Decode.group

namespace Shape

def Meaning : Shape → Type
  | .plain => Json.Value
  | .mark => Unit
  | .model m => m.Meaning
  | .listOf m => List m.Meaning
  | .mapOf m => OrderedMap m.Meaning

def read : (s : Shape) → Json.Value → Checked s.Meaning
  | .plain, v => .valid v
  | .mark, .object _ => .valid ()
  | .mark, _ => .fail .notMap
  | .model m, v => Reader.model m.decode v
  | .listOf m, v => Reader.listOf (Reader.model m.decode) v
  | .mapOf m, v => Reader.mapOf (Reader.model m.decode) v

/-- Values that mean the same to a decoder that expects a shape. -/
structure Alike (s : Shape) (v w : Json.Value) : Prop where
  null : v = .null ↔ w = .null
  read : (s.read v).Alike (s.read w)

theorem Alike.refl (s : Shape) (v : Json.Value) : s.Alike v v := ⟨Iff.rfl, .refl _⟩

theorem Alike.trans {s : Shape} {u v w : Json.Value} (h : s.Alike u v) (h' : s.Alike v w) :
    s.Alike u w :=
  ⟨h.null.trans h'.null, h.read.trans h'.read⟩

theorem eq_of_plain {v w : Json.Value} (h : Shape.plain.Alike v w) : v = w := by
  have hr := (h.read v).1 rfl
  cases hr
  rfl

end Shape

/-- The values that count as the fields of a model are alike. -/
def Model.FieldsAlike (m : Model) (fields others : List (String × Json.Value)) : Prop :=
  ∀ p ∈ m.fields, Option.Rel p.2.Alike (p.1.value? fields) (p.1.value? others)

/-! ### What fields mean -/

section

variable {α : Type} {f : Field} {s : Shape} {read : Json.Value → Checked α}
  {fields others : List (String × Json.Value)}

private theorem find?_of_rel {R : Json.Value → Json.Value → Prop}
    (h : Option.Rel R (f.value? fields) (f.value? others)) :
    (f.find? fields = none ∧ f.find? others = none) ∨
      ∃ k v l w, f.find? fields = some (k, v) ∧ f.find? others = some (l, w) ∧ R v w := by
  rw [← Field.map_find?, ← Field.map_find?] at h
  rcases hf : f.find? fields with _ | ⟨k, v⟩ <;> rcases ho : f.find? others with _ | ⟨l, w⟩ <;>
    rw [hf, ho] at h
  · exact .inl ⟨rfl, rfl⟩
  · cases h
  · cases h
  · exact .inr ⟨k, v, l, w, rfl, rfl, Option.rel_some_some.1 h⟩

private theorem optional_of_find? {key : String} {v : Json.Value} (hv : v ≠ .null)
    (h : f.find? fields = some (key, v)) :
    f.optional read fields = ((read v).map some).under (.key key) := by
  rw [Field.optional, h]
  cases v with
  | null => exact absurd rfl hv
  | bool | integer | float | string | array | object => rfl

/-- A reader of values of a shape that depends on no more than what they mean. -/
def Respects (read : Json.Value → Checked α) (s : Shape) : Prop :=
  ∀ ⦃v w⦄, s.Alike v w → (read v).Alike (read w)

namespace Respects

theorem plain (read : Json.Value → Checked α) : Respects read .plain := by
  intro v w h
  rw [Shape.eq_of_plain h]
  exact .refl _

theorem shape (s : Shape) : Respects s.read s := fun _ _ h => h.read

theorem optional (hr : Respects read s)
    (h : Option.Rel s.Alike (f.value? fields) (f.value? others)) :
    (f.optional read fields).Alike (f.optional read others) := by
  rcases find?_of_rel h with ⟨hf, ho⟩ | ⟨k, v, l, w, hf, ho, ha⟩
  · rw [Field.optional, Field.optional, hf, ho]
    exact .refl _
  · by_cases hv : v = .null
    · cases hv
      cases ha.null.1 rfl
      rw [Field.optional, Field.optional, hf, ho]
      exact .refl _
    · rw [optional_of_find? hv hf, optional_of_find? (mt ha.null.2 hv) ho]
      exact ((hr ha).map some).under _ _

theorem withDefault (hr : Respects read s) {a : α}
    (h : Option.Rel s.Alike (f.value? fields) (f.value? others)) :
    (f.withDefault a read fields).Alike (f.withDefault a read others) := by
  rw [Field.withDefault, Field.withDefault]
  rcases find?_of_rel h with ⟨hf, ho⟩ | ⟨k, v, l, w, hf, ho, ha⟩
  · rw [hf, ho]
    exact .refl _
  · rw [hf, ho]
    exact (hr ha).under _ _

theorem required (hr : Respects read s)
    (h : Option.Rel s.Alike (f.value? fields) (f.value? others)) :
    (f.required read fields).Alike (f.required read others) := by
  rw [Field.required, Field.required]
  rcases find?_of_rel h with ⟨hf, ho⟩ | ⟨k, v, l, w, hf, ho, ha⟩
  · rw [hf, ho]
    exact .refl _
  · rw [hf, ho]
    exact (hr ha).under _ _

end Respects

end

/-! ### Condition nodes -/

namespace Decode

variable {fields others : List (String × Json.Value)}

/-- What a field of a node means, given what stands in it. -/
def NodeField.meaning : (f : NodeField) → f.shape.Meaning → Reading
  | .or => Reading.combined .or
  | .and => Reading.combined .and
  | .always => fun _ => ⟨.always, []⟩
  | .never => fun _ => ⟨.never, []⟩
  | .percent => Reading.percent
  | .signal => fun test => ⟨.signal test, []⟩

theorem NodeField.ofKey?_of_named {f : NodeField} {key : String} (h : f.names.Named key) :
    ofKey? key = some f := by
  rcases h with rfl | rfl <;> cases f <;> rfl

def NodeField.read (f : NodeField) (v : Json.Value) : Checked Reading :=
  (f.shape.read v).map f.meaning

theorem nodeEntry_eq (f : NodeField) {v : Json.Value} (hv : v ≠ .null) :
    nodeEntry (some f) v = (f.read v).map some := by
  cases v with
  | null => exact absurd rfl hv
  | object fields => cases f <;> rfl
  | bool | integer | float | string | array => cases f <;> rfl

theorem fieldOf_nodeEntries (f : NodeField) (fields : List (String × Json.Value)) :
    fieldOf (nodeEntries fields) f =
      (f.names.optional f.read fields).map (Option.map fun r => (f.names.other, r)) := by
  rw [fieldOf, nodeEntries_eq_map,
    Field.find?_map (fun key v => nodeEntry (NodeField.ofKey? key) v) fields]
  rcases hf : f.names.find? fields with _ | ⟨key, v⟩
  · rw [Field.optional, hf]
    rfl
  · have hk := NodeField.ofKey?_of_named (Field.named_of_find? hf)
    by_cases hv : v = .null
    · cases hv
      rw [Field.optional, hf, Option.map_some, hk]
      rfl
    · rw [optional_of_find? hv hf, Option.map_some]
      dsimp only
      rw [hk, nodeEntry_eq f hv]
      cases f.read v <;> rfl

theorem childrenOf_listEntries (fields : List (String × Json.Value)) :
    childrenOf (listEntries fields) =
      children.withDefault [] (Reader.listOf node) fields := by
  rw [childrenOf, listEntries_eq_map, Field.find?_map (fun _ v => nodes v) fields,
    Field.withDefault]
  rcases children.find? fields with _ | ⟨key, v⟩
  · rfl
  · cases v with
    | array items =>
      rw [Option.map_some]
      dsimp only
      rw [nodes, nodesFrom_eq]
      rfl
    | null | bool | integer | float | string | object => rfl

theorem node_eq_read : node = Shape.read (.model .node) := by
  funext v
  cases v <;> rfl

private theorem childrenOf_alike
    (h : Option.Rel (Shape.listOf .node).Alike (children.value? fields) (children.value? others)) :
    (childrenOf (listEntries fields)).Alike (childrenOf (listEntries others)) := by
  rw [childrenOf_listEntries, childrenOf_listEntries, node_eq_read]
  exact (Respects.shape (.listOf .node)).withDefault h

private theorem fieldsOf_alike {names : List NodeField}
    (h : ∀ f ∈ names, Option.Rel f.shape.Alike (f.names.value? fields) (f.names.value? others)) :
    (fieldsOf (nodeEntries fields) names).Alike (fieldsOf (nodeEntries others) names) := by
  induction names with
  | nil => exact .refl _
  | cons f rest ih =>
    rw [List.forall_mem_cons] at h
    have hr : Respects f.read f.shape := fun _ _ ha => ha.read.map f.meaning
    rw [fieldsOf, fieldsOf, fieldOf_nodeEntries, fieldOf_nodeEntries]
    exact .seq (.functor _ ((hr.optional h.1).map _)) (ih h.2)

end Decode

/-! ### What models mean -/

open Respects (plain shape) in
/-- Objects whose fields are alike to a model mean the same to it, or none of them means
anything. -/
theorem Model.decode_alike {m : Model} {fields others : List (String × Json.Value)}
    (h : m.FieldsAlike fields others) : (m.decode fields).Alike (m.decode others) := by
  cases m <;> simp only [FieldsAlike, Model.fields, List.forall_mem_cons] at h
  case node => exact (Decode.fieldsOf_alike (List.forall_mem_map.1 h)).map Reading.ofFields
  case list => exact Decode.childrenOf_alike h.1
  case template =>
    obtain ⟨hp, hc, hg, hv, he, -⟩ := h
    have parameters := (shape (.mapOf .parameter)).withDefault (a := .empty) hp
    have conditions := (shape (.listOf .condition)).withDefault (a := []) hc
    have groups := (shape (.mapOf .group)).withDefault (a := .empty) hg
    have version := (plain Decode.details).optional hv
    have etag := (plain Reader.string).optional he
    exact ((((parameters.functor _).seq conditions).seq groups).seq version).seq etag
  case condition =>
    obtain ⟨hn, hc, -⟩ := h
    rw [decode, Decode.named, Decode.named, Decode.node_eq_read]
    have name := (plain Reader.nonEmptyString).required hn
    have condition := (shape (.model .node)).withDefault (a := Reading.ofFields []) hc
    exact (name.functor _).seq condition
  case percent =>
    obtain ⟨ho, hb, hr, hs, -⟩ := h
    have operator := (plain Reader.string).optional ho
    have bound := (plain Reader.integer).optional hb
    have range := (shape (.model .range)).optional hr
    have seed := (plain Reader.string).optional hs
    exact (((operator.functor _).seq bound).seq range).seq seed
  case range =>
    obtain ⟨hl, hu, -⟩ := h
    have lower := (plain Reader.integer).optional hl
    have upper := (plain Reader.integer).optional hu
    exact (lower.functor _).seq upper
  case signal =>
    obtain ⟨ho, hk, ht, -⟩ := h
    have operator := (plain Reader.string).optional ho
    have key := (plain Reader.string).optional hk
    have targets := (plain (Reader.listOf Reader.string)).withDefault (a := []) ht
    exact ((operator.functor _).seq key).seq targets
  case parameter =>
    obtain ⟨hd, hc, ht, hv, -⟩ := h
    have default := (shape (.model .value)).optional hd
    have conditional := (shape (.mapOf .value)).withDefault (a := .empty) hc
    have description := (plain Reader.string).optional ht
    have type := (plain Reader.string).optional hv
    exact (((default.functor _).seq conditional).seq description).seq type
  case value =>
    obtain ⟨ht, hd, hr, hp, -⟩ := h
    have text := (plain Reader.string).optional ht
    have inAppDefault := (plain Reader.boolean).optional hd
    have rollout := (shape (.model .rollout)).optional hr
    have personalization := (shape (.model .personalization)).optional hp
    exact (((text.functor _).seq inAppDefault).seq rollout).seq personalization
  case rollout =>
    obtain ⟨hi, ht, hp, -⟩ := h
    have id := (plain Reader.string).optional hi
    have text := (plain Reader.string).optional ht
    have percent := (plain Reader.integer).optional hp
    exact ((id.functor _).seq text).seq percent
  case personalization =>
    have id := (plain Reader.string).optional h.1
    exact id.functor _
  case group =>
    obtain ⟨hd, hp, -⟩ := h
    have description := (plain Reader.string).optional hd
    have parameters := (shape (.mapOf .parameter)).withDefault (a := .empty) hp
    exact (description.functor _).seq parameters

end Template

end TargetedConfig
