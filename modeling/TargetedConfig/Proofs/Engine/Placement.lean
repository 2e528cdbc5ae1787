import TargetedConfig.Proofs.Engine.Served
import TargetedConfig.Proofs.Template.Merging

/-!
# Where a parameter is declared

What is served under a key depends on the declaration of the key that counts. So a parameter that is
declared once may stand at top level or in any group, at any place there: an evaluation answers with
the same values for the same keys. `declarations_account` puts this beside what merging keeps.
-/

namespace TargetedConfig

namespace OrderedMap

variable {α : Type}

/-- A map has one entry more than another one; the entry may stand anywhere. -/
def Extends (m : OrderedMap α) (key : String) (value : α) (n : OrderedMap α) : Prop :=
  ∃ before after, m.entries = before ++ after ∧ n.entries = before ++ (key, value) :: after

theorem Extends.get?_eq {m n : OrderedMap α} {key : String} {value : α}
    (h : m.Extends key value n) (k : String) :
    n.get? k = if k = key then some value else m.get? k := by
  obtain ⟨before, after, hm, hn⟩ := h
  rw [get?, get?, hm, hn, List.lookup_append, List.lookup_append, lookup_cons_eq_ite]
  by_cases hk : k = key
  · have hd := n.distinct
    rw [hn, List.map_append, List.nodup_append] at hd
    have hb : k ∉ before.map Prod.fst := by
      intro hm
      exact hd.2.2 k hm key (by simp) hk
    rw [(lookup_eq_none_iff_not_mem before k).2 hb, if_pos hk, if_pos hk]
    rfl
  · rw [if_neg hk, if_neg hk]

end OrderedMap

namespace Template

variable {t u : Template} {key : String} {p : Parameter}

/-- A template with one declaration more, at top level or in one of its groups. -/
inductive Placed (key : String) (p : Parameter) (t : Template) : Template → Prop where
  | top {parameters : OrderedMap Parameter} (h : t.parameters.Extends key p parameters) :
      Placed key p t { t with parameters }
  | grouped {before after : List (String × ParameterGroup)} {name : String}
      {group : ParameterGroup} {parameters : OrderedMap Parameter}
      {groups : OrderedMap ParameterGroup}
      (h : group.parameters.Extends key p parameters)
      (ht : t.groups.entries = before ++ (name, group) :: after)
      (hg : groups.entries = before ++ (name, { group with parameters }) :: after) :
      Placed key p t { t with groups }

namespace Placed

theorem conditions_eq (h : Placed key p t u) : u.conditions = t.conditions := by
  cases h <;> rfl

theorem versionNumber_eq (h : Placed key p t u) : u.versionNumber = t.versionNumber := by
  cases h <;> rfl

private theorem findSome?_placed {before after : List (String × ParameterGroup)}
    {name : String} {group : ParameterGroup} {parameters : OrderedMap Parameter}
    (h : group.parameters.Extends key p parameters)
    (hn : before.findSome? (fun g => g.2.parameters.get? key) = none) (k : String) :
    (before ++ (name, { group with parameters }) :: after).findSome?
        (fun g => g.2.parameters.get? k) =
      if k = key then some p
      else (before ++ (name, group) :: after).findSome? fun g => g.2.parameters.get? k := by
  rw [List.findSome?_append, List.findSome?_append, List.findSome?_cons, List.findSome?_cons]
  dsimp only
  rw [h.get?_eq]
  by_cases hk : k = key
  · subst hk
    simp [hn]
  · simp [hk]

/-- The new declaration of a key that has not been declared counts, and changes nothing else. -/
theorem declared?_eq (h : Placed key p t u) (hn : t.declared? key = none) (k : String) :
    u.declared? k = if k = key then some p else t.declared? k := by
  rw [declared?, Option.or_eq_none_iff] at hn
  cases h with
  | top h =>
    rw [declared?, h.get?_eq, declared?]
    by_cases hk : k = key <;> simp [hk]
  | grouped h ht hg =>
    have hb := hn.2
    rw [ht, List.findSome?_append, Option.or_eq_none_iff] at hb
    rw [declared?, hg, findSome?_placed h hb.1, declared?, ht]
    by_cases hk : k = key
    · simp [hk, hn.1]
    · simp [hk]

end Placed

end Template

/-- Outcomes with the same values for the same keys, or with one failure. -/
inductive Outcome.ServesAlike : Except Failure Config → Except Failure Config → Prop where
  | failure (f) : ServesAlike (.error f) (.error f)
  | config {c d : Config} (values : ∀ key, c.getValue key = d.getValue key)
      (keys : ∀ key, key ∈ c.values.keys ↔ key ∈ d.values.keys) : ServesAlike (.ok c) (.ok d)

namespace Engine

variable {t u : Template} {c : Context}

/-- A config has the keys that a text is served for and those of the defaults. -/
theorem contains_of_configure {defaults : OrderedMap String} {config : Config}
    (h : (configure defaults t c).1 = .ok config) (key : String) :
    config.values.contains key =
      ((((t.decisions c).lookup key).bind Decision.served?).isSome || defaults.contains key) := by
  rw [configure_of_decided defaults (decided_of_configure h)] at h
  cases h
  have hn : ((t.decisions c).map Prod.fst).Nodup := by
    rw [Template.decisions, Resolution.keys_decisions]
    exact t.declarations.parameters.distinct
  rw [OrderedMap.contains, Resolution.get?_serveAll _ hn, Resolution.get?_seed]
  cases ((t.decisions c).lookup key).bind Decision.served? with
  | some text => rfl
  | none => simp [OrderedMap.contains]

/-- Templates with the same conditions in which the same declarations count serve alike. -/
theorem configure_of_declared? (defaults : OrderedMap String) (hc : u.conditions = t.conditions)
    (hd : ∀ key, u.declared? key = t.declared? key) :
    Outcome.ServesAlike (configure defaults t c).1 (configure defaults u c).1 := by
  have hl : ∀ key, (u.decisions c).lookup key = (t.decisions c).lookup key := by
    intro key
    rw [Template.lookup_decisions, Template.lookup_decisions, hd, Template.results,
      Template.results, Template.conditionNames, Template.conditionNames, hc]
  rcases Condition.all_decided_or_first_failed Condition.defaultMaxDepth c t.conditions with
    ht | ⟨before, n, after, f, ht, hb, hf⟩
  · have hu : u.Decided c := by
      rw [Template.Decided, hc]
      exact ht
    have h₁ := configure_of_decided defaults ht
    have h₂ := configure_of_decided defaults hu
    rw [h₁, h₂]
    refine .config ?_ ?_
    · intro key
      rw [getValue_of_configure h₁, getValue_of_configure h₂, hl]
    · intro key
      rw [← OrderedMap.contains_eq_true_iff, ← OrderedMap.contains_eq_true_iff,
        contains_of_configure h₁, contains_of_configure h₂, hl]
  · rw [configure_of_failed defaults ht hb hf, configure_of_failed defaults (hc.trans ht) hb hf]
    exact .failure f

/-- Wherever the only declaration of a key stands, an evaluation serves the same. -/
theorem evaluate_of_placed {base : Template} {key : String} {p : Parameter}
    (hb : base.declared? key = none) (ht : Template.Placed key p base t)
    (hu : Template.Placed key p base u) (defaults : OrderedMap String) (text₁ text₂ : String)
    (r : Request) (j₁ j₂ : Journal) :
    Outcome.ServesAlike (evaluate { defaults, cached := some (t, text₁) } r j₁).1
      (evaluate { defaults, cached := some (u, text₂) } r j₂).1 := by
  rcases hr : r.toContext with f | c
  · rw [evaluate_of_request rfl hr, evaluate_of_request rfl hr]
    exact .failure f
  · have hv : u.versionNumber = t.versionNumber := by
      rw [hu.versionNumber_eq, ht.versionNumber_eq]
    rcases hn : t.versionNumber with f | version
    · rw [evaluate_of_version rfl hr hn, evaluate_of_version rfl hr (hv.trans hn)]
      exact .failure f
    · rw [evaluate_of_cached rfl hr hn, evaluate_of_cached rfl hr (hv.trans hn)]
      apply configure_of_declared?
      · rw [hu.conditions_eq, ht.conditions_eq]
      · intro k
        rw [hu.declared?_eq hb, ht.declared?_eq hb]

/-- Merging keeps every key once, in the order of the first declarations, and under it the
declaration at top level or else the one in the first group that has one. Every other declaration is
noted, so that each declaration is either kept or told of. And where a key is declared once, it does
not matter for an evaluation where. -/
theorem declarations_account :
    (∀ t : Template,
      t.declarations.parameters.keys = (t.allDeclarations.map (·.key)).eraseDups ∧
      (∀ key, t.declarations.parameters.get? key =
        (t.parameters.get? key).or (t.groups.entries.findSome? fun g => g.2.parameters.get? key)) ∧
      t.declarations.notes = (Declaration.repeated [] t.allDeclarations).map Declaration.note ∧
      t.allDeclarations.length =
        t.declarations.parameters.size + t.declarations.notes.length) ∧
    ∀ (base t u : Template) (key : String) (p : Parameter), base.declared? key = none →
      Template.Placed key p base t → Template.Placed key p base u →
      ∀ defaults text₁ text₂ r j₁ j₂, Outcome.ServesAlike
        (evaluate { defaults, cached := some (t, text₁) } r j₁).1
        (evaluate { defaults, cached := some (u, text₂) } r j₂).1 := by
  constructor
  · intro t
    have hk : t.declarations.parameters.keys = (t.allDeclarations.map (·.key)).eraseDups := by
      rw [t.declarations_eq, Template.Declarations.keys_foldl_declare]
    have hn : t.declarations.notes =
        (Declaration.repeated [] t.allDeclarations).map Declaration.note := by
      rw [t.declarations_eq, Template.Declarations.notes_foldl_declare]
      rfl
    exact ⟨hk, t.get?_declarations, hn, t.length_allDeclarations⟩
  · intro base t u key p hb ht hu defaults text₁ text₂ r j₁ j₂
    exact evaluate_of_placed hb ht hu defaults text₁ text₂ r j₁ j₂

/-- A parameter with a value for a condition. -/
def switched : Parameter where
  conditional := .ofList [("shown", .explicit "x")]

def firstGroup : ParameterGroup where
  parameters := .ofList [("shared", { default := some (.explicit "1") })]

/-- Two groups that share a key. -/
def overlapping : Template where
  conditions := [⟨"shown", .always, by decide⟩]
  groups := .ofList
    [("g", firstGroup), ("h", { parameters := .ofList [("shared", {}), ("own", {})] })]

def declaredAtTop : Template := { overlapping with parameters := .ofList [("k", switched)] }

def declaredInGroup : Template := { overlapping with
  groups := .ofList
    [("g", firstGroup),
     ("h", { parameters := .ofList [("shared", {}), ("k", switched), ("own", {})] })] }

theorem declarations_account_overlapping :
    overlapping.declared? "k" = none ∧
    Template.Placed "k" switched overlapping declaredAtTop ∧
    Template.Placed "k" switched overlapping declaredInGroup ∧
    Outcome.ServesAlike
      (evaluate { defaults := .ofList [("k", "d")], cached := some (declaredAtTop, "") }
        (.signals .empty) {}).1
      (evaluate { defaults := .ofList [("k", "d")], cached := some (declaredInGroup, "") }
        (.signals .empty) {}).1 := by
  have ht : Template.Placed "k" switched overlapping declaredAtTop := .top ⟨[], [], rfl, rfl⟩
  have he : overlapping.groups.entries = [("g", firstGroup)] ++
      ("h", { parameters := .ofList [("shared", {}), ("own", {})] }) :: [] := rfl
  have hg : Template.Placed "k" switched overlapping declaredInGroup :=
    .grouped ⟨[("shared", {})], [("own", {})], rfl, rfl⟩ he rfl
  exact ⟨rfl, ht, hg, declarations_account.2 overlapping declaredAtTop declaredInGroup "k" switched
    rfl ht hg _ "" "" (.signals .empty) {} {}⟩

end Engine

end TargetedConfig
