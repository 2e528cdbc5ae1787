import TargetedConfig.Proofs.Engine.Served

/-!
# Priority by position

The place of a condition in its list is its priority, but results travel under names: a repeated
name is as true as the last condition that carries it, and stands where the first one does. So the
first true condition with a value for a parameter decides about it, for all parameters, exactly when
the names of the true conditions come out in the order of the true conditions. Conditions that agree
whenever their names do have this property, and keep it when false ones are left out.
-/

namespace TargetedConfig

/-! ### Lists without repetitions -/

theorem nodup_eraseDups (names : List String) : names.eraseDups.Nodup := by
  match names with
  | [] => simp
  | name :: rest =>
    rw [List.eraseDups_cons, List.nodup_cons]
    refine ⟨?_, nodup_eraseDups _⟩
    rw [List.mem_eraseDups]
    simp
termination_by names.length
decreasing_by exact Nat.lt_succ_of_le (List.length_filter_le _ rest)

private theorem find?_congr {α : Type} {items : List α} {p q : α → Bool}
    (h : ∀ a ∈ items, p a = q a) : items.find? p = items.find? q := by
  induction items with
  | nil => rfl
  | cons a rest ih =>
    rw [List.find?_cons, List.find?_cons, h a (by simp), ih fun b hb => h b (by simp [hb])]

private theorem find?_contains_cons {name : String} {rest : List String} (h : name ∉ rest)
    (keys : List String) :
    (name :: rest).find? (keys.filter (· ≠ name)).contains = rest.find? keys.contains := by
  have hn : (keys.filter (· ≠ name)).contains name = false := by simp
  rw [List.find?_cons, hn]
  refine find?_congr fun other ho => ?_
  have hne : other ≠ name := fun e => h (e ▸ ho)
  simp [hne]

/-- A list without repetitions is known by the first of its members among any given keys. -/
theorem eq_of_find?_contains {names others : List String} (hn : names.Nodup) (ho : others.Nodup)
    (h : ∀ keys : List String, names.find? keys.contains = others.find? keys.contains) :
    names = others := by
  induction names generalizing others with
  | nil =>
    cases others with
    | nil => rfl
    | cons other rest => simpa using h [other]
  | cons name rest ih =>
    cases others with
    | nil => simpa using h [name]
    | cons other more =>
      have he : name = other := by simpa using h [name, other]
      subst he
      rw [List.nodup_cons] at hn ho
      have hr : rest = more := by
        refine ih hn.2 ho.2 fun keys => ?_
        rw [← find?_contains_cons hn.1, ← find?_contains_cons ho.1, h]
      rw [hr]

/-! ### Conditions by name and by position -/

def NamedCondition.holds (c : Context) (n : NamedCondition) : Bool :=
  n.condition.holds Condition.defaultMaxDepth c

/-- A list of conditions from which some that are false have been left out. -/
inductive Thinned (c : Context) : List NamedCondition → List NamedCondition → Prop where
  | nil : Thinned c [] []
  | keep (n : NamedCondition) {conditions kept : List NamedCondition} :
      Thinned c conditions kept → Thinned c (n :: conditions) (n :: kept)
  | drop {n : NamedCondition} {conditions kept : List NamedCondition} :
      n.holds c = false → Thinned c conditions kept → Thinned c (n :: conditions) kept

namespace Thinned

variable {c : Context} {conditions kept : List NamedCondition}

theorem refl : (conditions : List NamedCondition) → Thinned c conditions conditions
  | [] => .nil
  | n :: rest => .keep n (refl rest)

theorem filter_holds : (conditions : List NamedCondition) →
    Thinned c conditions (conditions.filter (·.holds c))
  | [] => .nil
  | n :: rest => by
    rw [List.filter_cons]
    split
    · exact .keep n (filter_holds rest)
    · rename_i hn
      exact .drop (by simpa using hn) (filter_holds rest)

theorem subset (h : Thinned c conditions kept) : kept ⊆ conditions := by
  induction h with
  | nil => exact List.Subset.refl _
  | keep n thinned ih => exact List.cons_subset_cons n ih
  | drop hn thinned ih => exact List.subset_cons_of_subset _ ih

theorem filter_eq (h : Thinned c conditions kept) :
    kept.filter (·.holds c) = conditions.filter (·.holds c) := by
  induction h with
  | nil => rfl
  | keep n thinned ih => rw [List.filter_cons, List.filter_cons, ih]
  | drop hn thinned ih => rw [List.filter_cons, hn, if_neg Bool.false_ne_true, ih]

end Thinned

namespace Template

variable {t u : Template} {c : Context}

def keeping (t : Template) (kept : List NamedCondition) : Template := { t with conditions := kept }

/-- The names of the conditions that are true themselves, each once and in order of the first such
condition. -/
def trueEntries (t : Template) (c : Context) : List String :=
  ((t.conditions.filter (·.holds c)).map (·.name)).eraseDups

/-- The names that count as true are those of the true conditions, in their order. -/
def InOrder (t : Template) (c : Context) : Prop := t.trueNames c = t.trueEntries c

/-- The first condition in the list that is true and has a value for a parameter. -/
def deciding? (t : Template) (c : Context) (p : Parameter) : Option NamedCondition :=
  t.conditions.find? fun n => n.holds c && p.conditional.contains n.name

theorem nodup_trueNames (t : Template) (c : Context) : (t.trueNames c).Nodup :=
  (nodup_eraseDups _).filter _

theorem nodup_trueEntries (t : Template) (c : Context) : (t.trueEntries c).Nodup :=
  nodup_eraseDups _

theorem trueNames_congr (h : t.conditions = u.conditions) : t.trueNames c = u.trueNames c := by
  rw [trueNames, trueNames, conditionNames, conditionNames, h]

theorem trueEntries_congr (h : t.conditions = u.conditions) :
    t.trueEntries c = u.trueEntries c := by
  rw [trueEntries, trueEntries, h]

theorem trueEntries_of_thinned {kept : List NamedCondition} (h : Thinned c t.conditions kept) :
    (t.keeping kept).trueEntries c = t.trueEntries c := by
  rw [trueEntries, trueEntries, keeping, h.filter_eq]

/-- The first true condition with a value for a parameter, by its name. -/
theorem map_name_deciding? (t : Template) (c : Context) (p : Parameter) :
    (t.deciding? c p).map (·.name) = (t.trueEntries c).find? p.conditional.contains := by
  rw [trueEntries, find?_eraseDups, List.find?_map, List.find?_filter, deciding?]
  refine congrArg (Option.map _) (find?_congr fun n _ => ?_)
  simp

/-- Conditions of one name are all true or all false. -/
def Agreeing (c : Context) (conditions : List NamedCondition) : Prop :=
  ∀ n ∈ conditions, ∀ m ∈ conditions, n.name = m.name → n.holds c = m.holds c

theorem Agreeing.subset {conditions kept : List NamedCondition} (h : Agreeing c conditions)
    (hs : kept ⊆ conditions) : Agreeing c kept :=
  fun n hn m hm => h n (hs hn) m (hs hm)

private theorem holds_last? {conditions : List NamedCondition} (h : Agreeing c conditions)
    {n : NamedCondition} (hn : n ∈ conditions) :
    ∃ m, NamedCondition.last? n.name conditions = some m ∧ m.holds c = n.holds c := by
  obtain ⟨m, hm⟩ : ∃ m, NamedCondition.last? n.name conditions = some m := by
    rw [← Option.isSome_iff_exists, NamedCondition.last?, List.find?_isSome]
    exact ⟨n, List.mem_reverse.2 hn, beq_self_eq_true _⟩
  have hname : m.name = n.name := by
    simpa using List.find?_some hm
  exact ⟨m, hm, h m (List.mem_reverse.1 (List.mem_of_find?_eq_some hm)) n hn hname⟩

/-- Where conditions of one name agree, the names come out in the order of the conditions. -/
theorem inOrder_of_agreeing (h : Agreeing c t.conditions) : t.InOrder c := by
  refine eq_of_find?_contains (t.nodup_trueNames c) (t.nodup_trueEntries c) fun keys => ?_
  rw [trueNames, trueEntries, List.find?_filter, find?_eraseDups, find?_eraseDups, conditionNames,
    List.find?_map, List.find?_map, List.find?_filter]
  congr 1
  refine find?_congr fun n hn => ?_
  obtain ⟨m, hm, hh⟩ := holds_last? h hn
  have hl : m.condition.holds Condition.defaultMaxDepth c = n.holds c := hh
  simp [hm, hl]

theorem inOrder_of_true (h : ∀ n ∈ t.conditions, n.holds c = true) : t.InOrder c :=
  inOrder_of_agreeing fun n hn m hm _ => by rw [h n hn, h m hm]

end Template

/-! ### Decisions by position -/

/-- A text that is served over a value. -/
def Value.over (seed : Value) : Option String → Value
  | some text => ⟨.remote, text⟩
  | none => seed

theorem Value.over_static_injective : Function.Injective Value.static.over := by
  intro first second h
  cases first <;> cases second <;> cases h <;> rfl

namespace Template

variable {t u : Template} {c : Context}

/-- The decisions about the parameters when the place of a condition is its priority. -/
def decisionsByPosition (t : Template) (c : Context) : List (String × Decision) :=
  t.declarations.parameters.entries.map fun (key, p) =>
    (key, p.decide key ((t.deciding? c p).map (·.name)).toList)

theorem decisions_eq (t : Template) (c : Context) :
    t.decisions c = Resolution.decisions (t.trueNames c) t.declarations.parameters.entries := by
  rw [decisions]
  exact Resolution.decisions_congr (find?_trueNames t c) _

theorem decisionsByPosition_eq (t : Template) (c : Context) :
    t.decisionsByPosition c =
      Resolution.decisions (t.trueEntries c) t.declarations.parameters.entries := by
  rw [decisionsByPosition, Resolution.decisions]
  refine List.map_congr_left fun declaration _ => ?_
  obtain ⟨key, p⟩ := declaration
  have hf : ((t.deciding? c p).map (·.name)).toList.find? p.conditional.contains =
      (t.trueEntries c).find? p.conditional.contains := by
    rw [map_name_deciding?]
    cases hn : (t.trueEntries c).find? p.conditional.contains with
    | none => rfl
    | some name =>
      have hc : p.conditional.contains name = true := by simpa using List.find?_some hn
      simp [hc]
  dsimp only
  rw [Parameter.decide_congr hf]

/-- Every evaluation of a template with these conditions answers as if the place of a condition were
its priority. -/
def ByPosition (t : Template) (c : Context) : Prop :=
  ∀ (u : Template) (e : Engine) (text : String) (r : Request) (j after : Journal)
    (config : Config), u.conditions = t.conditions → e.cached = some (u, text) →
    r.toContext = .ok c → e.evaluate r j = (.ok config, after) →
      config.anomalies = u.conditionAnomalies c ++
        (Resolution.reports (u.decisionsByPosition c)).map Prod.fst ∧
      ∀ key, config.getValue key = (seedValue e.defaults key).over
        (((u.decisionsByPosition c).lookup key).bind Decision.served?)

/-- Some evaluation of the template answers with the value under the key. -/
def Yields (t : Template) (c : Context) (defaults : OrderedMap String) (key : String)
    (value : Value) : Prop :=
  ∃ (e : Engine) (text : String) (r : Request) (j after : Journal) (config : Config),
    e.defaults = defaults ∧ e.cached = some (t, text) ∧ r.toContext = .ok c ∧
      e.evaluate r j = (.ok config, after) ∧ config.getValue key = value

/-- Whatever the parameters, leaving out conditions that are false changes no value. -/
def FalseRemovable (t : Template) (c : Context) : Prop :=
  ∀ kept, Thinned c t.conditions kept → ∀ u : Template, u.conditions = t.conditions →
    ∀ defaults key value, u.Yields c defaults key value ↔
      (u.keeping kept).Yields c defaults key value

theorem getValue_eq {defaults : OrderedMap String} {config : Config}
    (h : (Engine.configure defaults t c).1 = .ok config) (key : String) :
    config.getValue key =
      (seedValue defaults key).over (((t.decisions c).lookup key).bind Decision.served?) :=
  Engine.getValue_of_configure h key

theorem served_eq_over (t : Template) (c : Context) (key : String) (seed : Value) :
    t.served c key seed = seed.over (((t.decisions c).lookup key).bind Decision.served?) :=
  served_eq t c key seed

/-- Decided conditions are evaluated to a config by some engine if the version number has a text. -/
private theorem exists_evaluate {version : Option String} (h : t.Decided c)
    (hv : t.versionNumber = .ok version) (defaults : OrderedMap String) :
    ∃ (e : Engine) (r : Request) (j after : Journal) (config : Config), e.defaults = defaults ∧
      e.cached = some (t, "") ∧ r.toContext = .ok c ∧ e.evaluate r j = (.ok config, after) := by
  have he := Engine.evaluate_of_cached (e := ⟨defaults, some (t, "")⟩) (r := .context c) rfl rfl hv {}
  rw [Engine.configure_of_decided defaults h] at he
  exact ⟨_, .context c, {}, _, _, rfl, rfl, rfl, Prod.ext he rfl⟩

theorem yields_iff (h : t.Decided c) {defaults : OrderedMap String} {key : String} {value : Value} :
    t.Yields c defaults key value ↔ (∃ version, t.versionNumber = .ok version) ∧
      t.served c key (seedValue defaults key) = value := by
  constructor
  · rintro ⟨e, text, r, j, after, config, rfl, he, hr, hc, rfl⟩
    obtain ⟨u, _, _, version, hu, -, hv⟩ := Engine.exists_of_evaluate hc
    rw [he] at hu
    cases hu
    refine ⟨⟨version, hv⟩, ?_⟩
    rw [getValue_eq (Engine.configure_of_evaluate he hr hc), served_eq_over]
  · rintro ⟨⟨version, hv⟩, rfl⟩
    obtain ⟨e, r, j, after, config, rfl, he, hr, hc⟩ := exists_evaluate h hv defaults
    refine ⟨e, "", r, j, after, config, rfl, he, hr, hc, ?_⟩
    rw [getValue_eq (Engine.configure_of_evaluate he hr hc), served_eq_over]

/-- A template with the conditions of another one, and one parameter that shows the first true name
among some keys. -/
def probe (t : Template) (keys : List String) : Template where
  conditions := t.conditions
  parameters := .ofList [("k",
    { conditional := .ofList (keys.map fun key => (key, .explicit key)) })]

private theorem get?_explicit (keys : List String) (name : String) :
    (OrderedMap.ofList (keys.map fun key => (key, ParameterValue.explicit key))).get? name =
      if keys.contains name then some (.explicit name) else none := by
  rw [OrderedMap.ofList, OrderedMap.get?_insertAll, OrderedMap.get?_empty, Option.or_none,
    ← List.map_reverse]
  by_cases h : name ∈ keys
  · rw [List.lookup_graph ParameterValue.explicit (List.mem_reverse.2 h)]
    simp [h]
  · rw [(lookup_eq_none_iff_not_mem _ _).2 (by simpa using h)]
    simp [h]

private theorem served?_probe (t : Template) (keys names : List String) :
    ((Resolution.decisions names (t.probe keys).declarations.parameters.entries).lookup "k").bind
      Decision.served? = names.find? keys.contains := by
  have hc : ∀ name, (OrderedMap.ofList (keys.map fun key =>
      (key, ParameterValue.explicit key))).contains name = keys.contains name := by
    intro name
    rw [OrderedMap.contains, get?_explicit]
    split <;> simp_all
  have hd : (t.probe keys).declarations.parameters.entries.lookup "k" = some
      { conditional := .ofList (keys.map fun key => (key, .explicit key)) } := rfl
  rw [Resolution.lookup_decisions, hd, Option.map_some, Option.bind_some, Parameter.served?_decide]
  dsimp only
  rw [funext hc]
  cases hn : names.find? keys.contains with
  | none => rfl
  | some name =>
    have hk : keys.contains name = true := by simpa using List.find?_some hn
    dsimp only
    rw [get?_explicit, if_pos hk]
    rfl

theorem value_probe (t : Template) (c : Context) (keys : List String) :
    (t.probe keys).served c "k" .static =
      Value.static.over ((t.trueNames c).find? keys.contains) := by
  have hp : (t.probe keys).trueNames c = t.trueNames c := trueNames_congr rfl
  rw [served_eq_over, decisions_eq, served?_probe, hp]

theorem trueNames_eq_of_served
    (h : ∀ keys, (t.probe keys).served c "k" .static = (u.probe keys).served c "k" .static) :
    t.trueNames c = u.trueNames c := by
  refine eq_of_find?_contains (t.nodup_trueNames c) (u.nodup_trueNames c) fun keys => ?_
  have hk := h keys
  rw [value_probe, value_probe] at hk
  exact Value.over_static_injective hk

theorem served_congr (hd : ∀ key, t.declared? key = u.declared? key)
    (hn : t.trueNames c = u.trueNames c) (key : String) (seed : Value) :
    t.served c key seed = u.served c key seed := by
  rw [served, served, hd, hn]

/-- The place of a condition is its priority, for all parameters, exactly when the names come out in
the order of the true conditions. -/
theorem byPosition_iff (h : t.Decided c) : t.ByPosition c ↔ t.InOrder c := by
  constructor
  · intro hp
    -- A parameter with values for some keys shows which of them comes first.
    refine eq_of_find?_contains (t.nodup_trueNames c) (t.nodup_trueEntries c) fun keys => ?_
    have hd : (t.probe keys).Decided c := h
    obtain ⟨e, r, j, after, config, hdef, hcached, hr, hv⟩ := exists_evaluate hd rfl .empty
    have hk := (hp (t.probe keys) e "" r j after config rfl hcached hr hv).2 "k"
    have hn : (t.probe keys).trueNames c = t.trueNames c := trueNames_congr rfl
    have he : (t.probe keys).trueEntries c = t.trueEntries c := trueEntries_congr rfl
    rw [getValue_eq (Engine.configure_of_evaluate hcached hr hv), decisions_eq,
      decisionsByPosition_eq, served?_probe, served?_probe, hn, he, hdef] at hk
    exact Value.over_static_injective hk
  · intro ho u e text r j after config hu he hr hv
    have hn : u.trueNames c = u.trueEntries c := by
      rw [trueNames_congr hu, trueEntries_congr hu]
      exact ho
    have hd : u.decisions c = u.decisionsByPosition c := by
      rw [decisions_eq, decisionsByPosition_eq, hn]
    have hc := Engine.configure_of_evaluate he hr hv
    refine ⟨?_, fun key => ?_⟩
    · have ha := Engine.configure_of_decided e.defaults (Engine.decided_of_configure hc)
      rw [hc] at ha
      cases ha
      rw [← hd]
      rfl
    · rw [getValue_eq hc, hd]

theorem decided_of_thinned {kept : List NamedCondition} (h : t.Decided c)
    (thinned : Thinned c t.conditions kept) : (t.keeping kept).Decided c :=
  fun n hn => h n (thinned.subset hn)

/-- Leaving out false conditions changes no value, for all parameters, exactly when the names come
out in order whatever is left out. -/
theorem falseRemovable_iff (h : t.Decided c) :
    t.FalseRemovable c ↔
      ∀ kept, Thinned c t.conditions kept → (t.keeping kept).InOrder c := by
  constructor
  · intro hr
    have same : ∀ kept, Thinned c t.conditions kept →
        (t.keeping kept).trueNames c = t.trueNames c := by
      intro kept thinned
      refine (trueNames_eq_of_served fun keys => ?_).symm
      have hd : (t.probe keys).Decided c := h
      have hy := (hr kept thinned (t.probe keys) rfl .empty "k" _).1
        ((yields_iff hd).2 ⟨⟨none, rfl⟩, rfl⟩)
      exact ((yields_iff (decided_of_thinned hd thinned)).1 hy).2.symm
    -- With all false conditions left out the names are in order, so they were in order before.
    have full : (t.keeping (t.conditions.filter (·.holds c))).trueNames c =
        (t.keeping (t.conditions.filter (·.holds c))).trueEntries c :=
      inOrder_of_true fun n hn => (List.mem_filter.1 hn).2
    intro kept thinned
    rw [InOrder]
    calc (t.keeping kept).trueNames c
      _ = t.trueNames c := same kept thinned
      _ = (t.keeping (t.conditions.filter (·.holds c))).trueNames c :=
          (same _ (.filter_holds _)).symm
      _ = (t.keeping (t.conditions.filter (·.holds c))).trueEntries c := full
      _ = t.trueEntries c := trueEntries_of_thinned (.filter_holds _)
      _ = (t.keeping kept).trueEntries c := (trueEntries_of_thinned thinned).symm
  · intro ho kept thinned u hu defaults key value
    have hd : u.Decided c := fun n hn => h n (hu ▸ hn)
    have hk : (u.keeping kept).Decided c := fun n hn => h n (thinned.subset hn)
    have hn : u.trueNames c = (u.keeping kept).trueNames c := by
      calc u.trueNames c
        _ = t.trueNames c := trueNames_congr hu
        _ = t.trueEntries c := ho t.conditions (.refl _)
        _ = (t.keeping kept).trueEntries c := (trueEntries_of_thinned thinned).symm
        _ = (t.keeping kept).trueNames c := (ho kept thinned).symm
        _ = (u.keeping kept).trueNames c := trueNames_congr rfl
    have hp : ∀ key, u.declared? key = (u.keeping kept).declared? key := fun _ => rfl
    have hv : (u.keeping kept).versionNumber = u.versionNumber := rfl
    rw [yields_iff hd, yields_iff hk, served_congr hp hn, hv]

/-- In an evaluation that comes to an answer, the place of a condition is its priority exactly when
the names that count as true come out in the order of the true conditions, and false conditions can
be left out exactly when this stays so whatever is left out. Both hold for conditions that agree
whenever their names do. -/
theorem priority_of_position (h : t.Decided c) :
    (t.ByPosition c ↔ t.InOrder c) ∧
    (t.FalseRemovable c ↔
      ∀ kept, Thinned c t.conditions kept → (t.keeping kept).InOrder c) ∧
    (Agreeing c t.conditions → t.ByPosition c ∧ t.FalseRemovable c) := by
  refine ⟨byPosition_iff h, falseRemovable_iff h, fun ha => ⟨?_, ?_⟩⟩
  · exact (byPosition_iff h).2 (inOrder_of_agreeing ha)
  · refine (falseRemovable_iff h).2 fun kept thinned => inOrder_of_agreeing ?_
    exact ha.subset thinned.subset

/-- A name that is repeated with other conditions under it that are just as true. -/
def repeated : Template where
  conditions :=
    [⟨"early", .never, by decide⟩, ⟨"late", .always, by decide⟩, ⟨"early", .or [], by decide⟩,
      ⟨"late", .or [.never, .always], by decide⟩]
  parameters := .ofList [("p",
    { conditional := .ofList [("early", .explicit "A"), ("late", .explicit "B")] })]

theorem priority_of_position_repeated :
    repeated.ByPosition ⟨.empty⟩ ∧ repeated.FalseRemovable ⟨.empty⟩ := by
  refine (priority_of_position ?_).2.2 ?_
  · intro n hn
    simp only [repeated, List.mem_cons, List.not_mem_nil, or_false] at hn
    rcases hn with rfl | rfl | rfl | rfl <;> exact ⟨_, rfl⟩
  · intro n hn m hm
    simp only [repeated, List.mem_cons, List.not_mem_nil, or_false] at hn hm
    rcases hn with rfl | rfl | rfl | rfl <;> rcases hm with rfl | rfl | rfl | rfl <;> decide

/-- A name that is repeated with conditions that are not as true, on both sides of another one. -/
def contested : Template where
  conditions :=
    [⟨"early", .never, by decide⟩, ⟨"late", .always, by decide⟩, ⟨"early", .always, by decide⟩]
  parameters := .ofList [("p",
    { conditional := .ofList [("early", .explicit "A"), ("late", .explicit "B")] })]

/-- The place of a condition is not always its priority, and false conditions cannot always be left
out. -/
theorem contested_not_by_position :
    contested.Decided ⟨.empty⟩ ∧ ¬contested.ByPosition ⟨.empty⟩ ∧
      ¬contested.FalseRemovable ⟨.empty⟩ := by
  have hd : contested.Decided ⟨.empty⟩ := by
    intro n hn
    simp only [contested, List.mem_cons, List.not_mem_nil, or_false] at hn
    rcases hn with rfl | rfl | rfl <;> exact ⟨_, rfl⟩
  have ho : ¬contested.InOrder ⟨.empty⟩ := by
    rw [InOrder]
    decide
  refine ⟨hd, fun h => ho ((byPosition_iff hd).1 h), fun h => ?_⟩
  exact ho ((falseRemovable_iff hd).1 h contested.conditions (.refl _))

end Template

end TargetedConfig
