import TargetedConfig.Proofs.Context

/-!
# Runs of a context builder

Between two builds a builder is told of signals only, so what a build gives depends on the signals
put so far: each key at the place of its first one and with the value of its last one. A value
without a text makes a build fail while it is the last one of its key, and the first such key tells
why. Builds, failed ones included, leave no trace.
-/

namespace TargetedConfig.ContextBuilder

inductive Call where
  | put (key : String) (signal : Signal)
  | randomizationId (signal : Signal)
  | build

def Call.setting? : Call → Option (String × Signal)
  | .put key signal => some (key, signal)
  | .randomizationId signal => some (Context.randomizationIdKey, signal)
  | .build => none

/-- The builder after a call, and what a build gives. -/
def call (b : ContextBuilder) : Call → ContextBuilder × Option (Except Failure Context)
  | .put key signal => (b.put key signal, none)
  | .randomizationId signal => (b.randomizationId signal, none)
  | .build => (b, some b.build)

/-- The builder after a sequence of calls, and what the builds among them give. -/
def run (b : ContextBuilder) : List Call → ContextBuilder × List (Except Failure Context)
  | [] => (b, [])
  | call :: rest =>
    let (next, built) := b.call call
    let (last, more) := run next rest
    (last, built.toList ++ more)

def settings (calls : List Call) : List (String × Signal) := calls.filterMap Call.setting?

/-- The keys that are set, in the order of their first settings. -/
def order (calls : List Call) : List String := ((settings calls).map Prod.fst).eraseDups

def latest? (calls : List Call) (key : String) : Option Signal :=
  (settings calls).reverse.lookup key

/-- Each key at the place of its first setting, with the value of its last one. -/
def collected (calls : List Call) : OrderedMap Signal := .ofList (settings calls)

variable {calls before after : List Call} {key : String} {signal : Signal} {f : Failure}

theorem settings_append (before after : List Call) :
    settings (before ++ after) = settings before ++ settings after :=
  List.filterMap_append

theorem mem_order_iff : key ∈ order calls ↔ key ∈ (settings calls).map Prod.fst :=
  List.mem_eraseDups

theorem keys_collected (calls : List Call) : (collected calls).keys = order calls :=
  OrderedMap.keys_ofList _

theorem get?_collected (calls : List Call) (key : String) :
    (collected calls).get? key = latest? calls key := by
  rw [collected, OrderedMap.ofList, OrderedMap.get?_insertAll, OrderedMap.get?_empty,
    Option.or_none, latest?]

/-! ### Runs -/

/-- A call leaves the signals collected so far and adds the one it sets. -/
theorem signals_call (b : ContextBuilder) (c : Call) :
    (b.call c).1.signals = b.signals.insertAll c.setting?.toList := by
  cases c <;> rfl

theorem signals_run (b : ContextBuilder) (calls : List Call) :
    (b.run calls).1.signals = b.signals.insertAll (settings calls) := by
  induction calls generalizing b with
  | nil => rfl
  | cons c rest ih =>
    have hs : settings (c :: rest) = c.setting?.toList ++ settings rest := by
      rw [settings, List.filterMap_cons]
      cases c.setting? <;> rfl
    rw [hs, OrderedMap.insertAll, List.foldl_append]
    have hr := ih (b.call c).1
    rw [signals_call] at hr
    exact hr

/-- After a run a new builder holds what was collected. -/
theorem run_new (calls : List Call) : (run {} calls).1 = ⟨collected calls⟩ := by
  have hs := signals_run {} calls
  generalize (run {} calls).1 = b at hs
  cases b
  cases hs
  rfl

theorem run_append (b : ContextBuilder) (before after : List Call) :
    b.run (before ++ after) =
      (((b.run before).1.run after).1, (b.run before).2 ++ ((b.run before).1.run after).2) := by
  induction before generalizing b with
  | nil => rfl
  | cons c rest ih => simp only [List.cons_append, run, ih, List.append_assoc]

/-! ### Builds that fail -/

def fault? (calls : List Call) (key : String) : Option Failure :=
  (latest? calls key).bind Signal.fault?

theorem fault?_eq_some_iff :
    fault? calls key = some f ↔ ∃ signal, latest? calls key = some signal ∧ signal.Lacks f := by
  simp only [fault?, Option.bind_eq_some_iff, Signal.fault?_eq_some_iff]

theorem fault?_eq_none_iff :
    fault? calls key = none ↔ ∀ signal g, latest? calls key = some signal → ¬signal.Lacks g := by
  simp only [Option.eq_none_iff_forall_ne_some, ne_eq, fault?_eq_some_iff, not_exists, not_and]
  exact forall_comm

theorem ofSignals_collected_eq_error_iff :
    Context.ofSignals (collected calls) = .error f ↔
      (order calls).findSome? (fault? calls) = some f := by
  have hr : fault? calls = fun key => ((collected calls).get? key).bind Signal.fault? := by
    funext key
    rw [get?_collected, fault?]
  rw [Context.ofSignals_eq_error_iff_findSome?, ← OrderedMap.findSome?_keys, ← hr, keys_collected]

/-- A build fails for the first key whose last value has no text. -/
theorem ofSignals_collected_eq_error_iff_first :
    Context.ofSignals (collected calls) = .error f ↔
      ∃ earlier key later signal, order calls = earlier ++ key :: later ∧
        latest? calls key = some signal ∧ signal.Lacks f ∧
        ∀ other ∈ earlier, ∀ w g, latest? calls other = some w → ¬w.Lacks g := by
  rw [ofSignals_collected_eq_error_iff, List.findSome?_eq_some_iff]
  simp only [fault?_eq_some_iff, fault?_eq_none_iff]
  constructor
  · rintro ⟨earlier, key, later, ho, ⟨signal, hs, hl⟩, hn⟩
    exact ⟨earlier, key, later, signal, ho, hs, hl, hn⟩
  · rintro ⟨earlier, key, later, signal, ho, hs, hl, hn⟩
    exact ⟨earlier, key, later, ho, ⟨signal, hs, hl⟩, hn⟩

theorem mem_order_of_latest? (h : latest? calls key = some signal) : key ∈ order calls := by
  rw [← keys_collected, ← OrderedMap.contains_eq_true_iff, OrderedMap.contains, get?_collected, h]
  rfl

/-- A build fails when the last value of some key has no text. -/
theorem exists_error_iff :
    (∃ f, Context.ofSignals (collected calls) = .error f) ↔
      ∃ key signal f, latest? calls key = some signal ∧ signal.Lacks f := by
  simp only [ofSignals_collected_eq_error_iff, ← Option.isSome_iff_exists,
    List.findSome?_isSome_iff]
  simp only [Option.isSome_iff_exists, fault?_eq_some_iff]
  constructor
  · rintro ⟨key, -, f, signal, hs, hl⟩
    exact ⟨key, signal, f, hs, hl⟩
  · rintro ⟨key, signal, f, hs, hl⟩
    exact ⟨key, mem_order_of_latest? hs, f, signal, hs, hl⟩

/-- The last value of a key is the one set last, whatever it was before. -/
theorem latest?_put (before : List Call) (key other : String) (signal : Signal) :
    latest? (before ++ [.put key signal]) other =
      if other = key then some signal else latest? before other := by
  have hs : settings [.put key signal] = [(key, signal)] := rfl
  rw [latest?, settings_append, hs, List.reverse_append, List.reverse_singleton,
    List.singleton_append, lookup_cons_eq_ite, latest?]

/-- Calls that do not set a key leave its last value. -/
theorem latest?_append (before : List Call) (h : key ∉ order after) :
    latest? (before ++ after) key = latest? before key := by
  have hn : (settings after).reverse.lookup key = none := by
    rw [lookup_eq_none_iff_not_mem, List.map_reverse, List.mem_reverse, ← mem_order_iff]
    exact h
  rw [latest?, settings_append, List.reverse_append, List.lookup_append, hn, Option.none_or,
    latest?]

/-- A value without a text is forgiven when it was the only one and another one takes its place. -/
theorem ofSignals_forgiven (text : ∀ f, ¬signal.Lacks f)
    (others : ∀ other, other ≠ key → ∀ w f, latest? before other = some w → ¬w.Lacks f) :
    ∃ c, Context.ofSignals (collected (before ++ [.put key signal])) = .ok c := by
  cases hb : Context.ofSignals (collected (before ++ [.put key signal])) with
  | ok c => exact ⟨c, rfl⟩
  | error g =>
    obtain ⟨other, w, f, hw, hl⟩ := exists_error_iff.1 ⟨g, hb⟩
    rw [latest?_put] at hw
    split at hw
    · cases hw
      exact absurd hl (text f)
    · rename_i hk
      exact absurd hl (others other hk w f hw)

/-- A value without a text makes each build fail until its key is set again. -/
theorem ofSignals_refused (before : List Call) (hl : signal.Lacks f) (h : key ∉ order after) :
    ∃ g, Context.ofSignals (collected (before ++ [.put key signal] ++ after)) = .error g := by
  apply exists_error_iff.2
  refine ⟨key, signal, f, ?_, hl⟩
  rw [latest?_append _ h, latest?_put, if_pos rfl]

/-- Where no last value is an integer that is too long, a build fails for the first key whose last
value is of a type that no signal may have, and for this type. -/
theorem ofSignals_of_short
    (short : ∀ key n, latest? calls key = some (.integer n) → ¬Text.TooLong n) :
    Context.ofSignals (collected calls) = .error f ↔
      ∃ earlier key later typeName, f = .unsupportedSignal typeName ∧
        order calls = earlier ++ key :: later ∧
        latest? calls key = some (.unsupported typeName) ∧
        ∀ other ∈ earlier, ∀ name, latest? calls other ≠ some (.unsupported name) := by
  rw [ofSignals_collected_eq_error_iff_first]
  constructor
  · rintro ⟨earlier, key, later, signal, ho, hs, hl, hn⟩
    cases hl with
    | unsupported typeName =>
      refine ⟨earlier, key, later, typeName, rfl, ho, hs, ?_⟩
      intro other hm name hu
      exact hn other hm _ _ hu (.unsupported name)
    | tooLong h => exact absurd h (short key _ hs)
  · rintro ⟨earlier, key, later, typeName, rfl, ho, hs, hn⟩
    refine ⟨earlier, key, later, _, ho, hs, .unsupported typeName, ?_⟩
    rintro other hm w g hw (name | hl)
    · exact hn other hm name hw
    · exact short other _ hw hl

/-- In every run a build gives the context of the last values of all keys put before it, the keys in
the order of their first settings, however many builds there were and whether they failed; what
earlier builds gave stays, and later builds go on from the same signals. It fails exactly for the
first key whose last value has no text: a value of a type that no signal may have, or an integer
that is too long. So where no integer is too long, it is the first of these types that a build fails
for. A value without a text is forgiven once its key is set again, and until then every build
fails. -/
theorem run_build (before after : List Call) :
    (run {} (before ++ .build :: after)).2 =
        (run {} before).2 ++
          Context.ofSignals (collected before) :: (run ⟨collected before⟩ after).2 ∧
      (collected before).keys = order before ∧
      (∀ key, (collected before).get? key = latest? before key) ∧
      (∀ f, Context.ofSignals (collected before) = .error f ↔
        ∃ earlier key later signal, order before = earlier ++ key :: later ∧
          latest? before key = some signal ∧ signal.Lacks f ∧
          ∀ other ∈ earlier, ∀ w g, latest? before other = some w → ¬w.Lacks g) ∧
      ((∀ key n, latest? before key = some (.integer n) → ¬Text.TooLong n) →
        ∀ f, Context.ofSignals (collected before) = .error f ↔
          ∃ earlier key later typeName, f = .unsupportedSignal typeName ∧
            order before = earlier ++ key :: later ∧
            latest? before key = some (.unsupported typeName) ∧
            ∀ other ∈ earlier, ∀ name, latest? before other ≠ some (.unsupported name)) ∧
      (∀ key signal, (∀ f, ¬signal.Lacks f) →
        (∀ other, other ≠ key → ∀ w f, latest? before other = some w → ¬w.Lacks f) →
        ∃ c, Context.ofSignals (collected (before ++ [.put key signal])) = .ok c) ∧
      (∀ key signal f, signal.Lacks f → key ∉ order after →
        ∃ g, Context.ofSignals (collected (before ++ [.put key signal] ++ after)) = .error g) := by
  refine ⟨?_, keys_collected before, get?_collected before,
    fun f => ofSignals_collected_eq_error_iff_first, fun short f => ofSignals_of_short short,
    fun _ _ => ofSignals_forgiven, fun _ _ _ => ofSignals_refused before⟩
  rw [run_append, run_new]
  rfl

example : (run {} [.put "a" (.unsupported "list"), .put "b" (.unsupported "NoneType"), .build,
    .put "a" (.bool true), .build, .put "b" (.integer 7), .build]).2 =
      [.error (.unsupportedSignal "list"), .error (.unsupportedSignal "NoneType"),
        .ok ⟨.ofList [("a", "true"), ("b", "7")]⟩] := rfl

/-- An integer that is too long is put before a value of a type that no signal may have. -/
def longFirst : List Call :=
  [.put "a" (.integer Text.leastTooLong), .put "b" (.unsupported "NoneType")]

theorem first_longFirst :
    ∃ earlier key later signal, order longFirst = earlier ++ key :: later ∧
      latest? longFirst key = some signal ∧ signal.Lacks .integerTooLong ∧
      ∀ other ∈ earlier, ∀ w g, latest? longFirst other = some w → ¬w.Lacks g :=
  ⟨[], "a", ["b"], _, rfl, rfl, .tooLong Text.tooLong_leastTooLong, by simp⟩

theorem run_build_longFirst :
    (run {} (longFirst ++ [.build])).2 = [.error .integerTooLong] := by
  obtain ⟨built, -, -, fails, -⟩ := run_build longFirst []
  rw [built, (fails _).2 first_longFirst]
  rfl

/-- A value of a type that no signal may have is not always what a build fails for. -/
theorem build_not_unsupported :
    ¬∀ calls : List Call, (∃ key typeName, latest? calls key = some (.unsupported typeName)) →
      ∃ typeName, Context.ofSignals (collected calls) = .error (.unsupportedSignal typeName) := by
  intro h
  obtain ⟨typeName, hu⟩ := h longFirst ⟨"b", "NoneType", rfl⟩
  rw [ofSignals_collected_eq_error_iff_first.2 first_longFirst] at hu
  cases hu

end TargetedConfig.ContextBuilder
