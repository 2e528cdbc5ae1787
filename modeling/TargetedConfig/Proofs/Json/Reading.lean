import TargetedConfig.Proofs.Json.Text

/-!
# The value of a text

A text stands for a value if its words are those of the value; blanks between the words do not
count, and neither do the ways to write a string or a number. The reader answers exactly the value
that a text stands for, as long as the value nests no deeper than the reader allows. The invariant
is that an open reader has taken the words of what it has kept, and that whatever it has finished
stays within the nesting around it.
-/

namespace TargetedConfig.Json

/-- The words of a text are those of a value. -/
def StandsFor (text : String) (v : Value) : Prop := Token.tokens? text.toList = some v.tokens

/-! ### The words of a finished array or object -/

namespace Value

/-- The words of a finished item and what parts it from the next one. -/
def itemTokens (v : Value) : List Token := v.tokens ++ [.comma]

/-- The words of a finished field and what parts it from the next one. -/
def fieldTokens (p : String × Value) : List Token :=
  .string p.1 :: .colon :: p.2.tokens ++ [.comma]

private theorem tokensItems_false {items : List Value} (h : items ≠ []) :
    tokensItems false items = .comma :: tokensItems true items := by
  cases items with
  | nil => exact absurd rfl h
  | cons v rest => simp [tokensItems]

private theorem tokensFields_false {fields : List (String × Value)} (h : fields ≠ []) :
    tokensFields false fields = .comma :: tokensFields true fields := by
  cases fields with
  | nil => exact absurd rfl h
  | cons p rest => simp [tokensFields]

private theorem tokensItems_concat (items : List Value) (v : Value) :
    tokensItems true (items ++ [v]) = items.flatMap itemTokens ++ v.tokens ++ [.closeArray] := by
  induction items with
  | nil => simp [tokensItems]
  | cons w rest ih =>
    have hr := tokensItems_false (List.append_ne_nil_of_right_ne_nil rest (List.cons_ne_nil v []))
    simp only [List.cons_append, tokensItems, if_true, List.nil_append, hr, ih,
      List.flatMap_cons, itemTokens, List.append_assoc]

private theorem tokensFields_concat (fields : List (String × Value)) (key : String) (v : Value) :
    tokensFields true (fields ++ [(key, v)]) =
      fields.flatMap fieldTokens ++ .string key :: .colon :: v.tokens ++ [.closeObject] := by
  induction fields with
  | nil => simp [tokensFields]
  | cons p rest ih =>
    have hr := tokensFields_false
      (List.append_ne_nil_of_right_ne_nil rest (List.cons_ne_nil (key, v) []))
    simp only [List.cons_append, tokensFields, if_true, List.nil_append, hr, ih,
      List.flatMap_cons, fieldTokens, List.append_assoc]

private theorem nestingItems_le {items : List Value} {n : Nat} (h : ∀ v ∈ items, v.nesting ≤ n) :
    nestingItems items ≤ n := by
  induction items with
  | nil => exact Nat.zero_le n
  | cons v rest ih =>
    rw [List.forall_mem_cons] at h
    exact Nat.max_le.2 ⟨h.1, ih h.2⟩

private theorem nestingFields_le {fields : List (String × Value)} {n : Nat}
    (h : ∀ p ∈ fields, p.2.nesting ≤ n) : nestingFields fields ≤ n := by
  induction fields with
  | nil => exact Nat.zero_le n
  | cons p rest ih =>
    rw [List.forall_mem_cons] at h
    exact Nat.max_le.2 ⟨h.1, ih h.2⟩

/-- An array nests at most one deeper than its items. -/
theorem nesting_array_le {items : List Value} {n : Nat} (h : ∀ v ∈ items, v.nesting < n) :
    (array items).nesting ≤ n := by
  cases items with
  | nil => exact Nat.zero_le n
  | cons v rest =>
    have hn := h v List.mem_cons_self
    have hi := nestingItems_le fun w hw => Nat.le_sub_one_of_lt (h w hw)
    rw [nesting, List.isEmpty_cons, if_neg Bool.false_ne_true]
    omega

/-- An object nests at most one deeper than its fields. -/
theorem nesting_object_le {fields : List (String × Value)} {n : Nat}
    (h : ∀ p ∈ fields, p.2.nesting < n) : (object fields).nesting ≤ n := by
  cases fields with
  | nil => exact Nat.zero_le n
  | cons p rest =>
    have hn := h p List.mem_cons_self
    have hi := nestingFields_le fun q hq => Nat.le_sub_one_of_lt (h q hq)
    rw [nesting, List.isEmpty_cons, if_neg Bool.false_ne_true]
    omega

end Value

/-! ### The invariant of the reader -/

/-- The words that an open array or object has taken, the colon after a key included. -/
def Frame.taken : Frame → List Token
  | .items done => .openArray :: done.reverse.flatMap Value.itemTokens
  | .fields done => .openObject :: done.reverse.flatMap Value.fieldTokens
  | .field done key =>
    .openObject :: done.reverse.flatMap Value.fieldTokens ++ [.string key, .colon]

theorem Frame.taken_item (done : List Value) (v : Value) :
    (items (v :: done)).taken = (items done).taken ++ v.tokens ++ [.comma] := by
  simp [taken, Value.itemTokens]

theorem Frame.taken_field (done : List (String × Value)) (key : String) (v : Value) :
    (fields ((key, v) :: done)).taken = (field done key).taken ++ v.tokens ++ [.comma] := by
  simp [taken, Value.fieldTokens]

theorem Frame.taken_closeArray (done : List Value) (v : Value) :
    (items done).taken ++ v.tokens ++ [.closeArray] = (Value.array (v :: done).reverse).tokens := by
  rw [Value.tokens, List.reverse_cons, Value.tokensItems_concat]
  rfl

theorem Frame.taken_closeObject (done : List (String × Value)) (key : String) (v : Value) :
    (field done key).taken ++ v.tokens ++ [.closeObject] =
      (Value.object ((key, v) :: done).reverse).tokens := by
  rw [Value.tokens, List.reverse_cons, Value.tokensFields_concat]
  simp [taken]

/-- The finished parts of an open array or object. -/
def Frame.values : Frame → List Value
  | .items done => done
  | .fields done => done.map Prod.snd
  | .field done _ => done.map Prod.snd

/-- The words that all open arrays and objects have taken. -/
def takenBy (stack : List Frame) : List Token := stack.reverse.flatMap Frame.taken

theorem takenBy_cons (frame : Frame) (stack : List Frame) :
    takenBy (frame :: stack) = takenBy stack ++ frame.taken := by
  simp [takenBy]

/-- Whatever the open arrays and objects have finished stays within the nesting around it. -/
def Within (limit : Nat) : List Frame → Prop
  | [] => True
  | frame :: stack => (∀ v ∈ frame.values, stack.length + v.nesting < limit) ∧ Within limit stack

/-- A reader that has taken some words has kept all of them, within the nesting allowed. What has
just been opened may be one too deep, as long as nothing is put in it. -/
def Reading.Keeps (limit : Nat) (taken : List Token) (r : Reading) : Prop :=
  Within limit r.1 ∧
    match r.2 with
    | .value | .key => taken = takenBy r.1 ∧ r.1.length ≤ limit
    | .item | .member => taken = takenBy r.1 ∧ r.1.length ≤ limit + 1
    | .colon => taken ++ [.colon] = takenBy r.1 ∧ r.1.length ≤ limit
    | .after v => taken = takenBy r.1 ++ v.tokens ∧ r.1.length + v.nesting ≤ limit

section

variable {limit : Nat} {taken : List Token} {stack : List Frame} {r next : Reading} {t : Token}

private theorem keeps_of_beginValue (hw : Within limit stack) (ht : taken = takenBy stack)
    (hl : stack.length ≤ limit) (h : beginValue stack t = some next) :
    next.Keeps limit (taken ++ [t]) := by
  cases t with
  | null | bool | integer | float | string =>
    cases h
    exact ⟨hw, by rw [ht, Value.tokens], by simpa [Value.nesting] using hl⟩
  | openArray | openObject =>
    cases h
    refine ⟨⟨by simp [Frame.values], hw⟩, ?_, Nat.succ_le_succ hl⟩
    rw [ht, takenBy_cons]
    rfl
  | closeArray | closeObject | comma | colon => cases h

private theorem nesting_of_closeArray {done : List Value} {v : Value}
    (hd : ∀ w ∈ (Frame.items done).values, stack.length + w.nesting < limit)
    (hv : stack.length + 1 + v.nesting ≤ limit) :
    stack.length + (Value.array (v :: done).reverse).nesting ≤ limit := by
  have hn : (Value.array (v :: done).reverse).nesting ≤ limit - stack.length := by
    refine Value.nesting_array_le fun w hm => ?_
    rcases List.mem_cons.1 (List.mem_reverse.1 hm) with rfl | hm
    · omega
    · have hw := hd w hm
      omega
  omega

private theorem nesting_of_closeObject {done : List (String × Value)} {key : String} {v : Value}
    (hd : ∀ w ∈ (Frame.field done key).values, stack.length + w.nesting < limit)
    (hv : stack.length + 1 + v.nesting ≤ limit) :
    stack.length + (Value.object ((key, v) :: done).reverse).nesting ≤ limit := by
  have hn : (Value.object ((key, v) :: done).reverse).nesting ≤ limit - stack.length := by
    refine Value.nesting_object_le fun p hm => ?_
    rcases List.mem_cons.1 (List.mem_reverse.1 hm) with rfl | hm
    · dsimp only
      omega
    · have hw := hd p.2 (List.mem_map_of_mem hm)
      omega
  omega

/-- One word leaves a reader with what it has kept, and the word. -/
theorem keeps_of_step (hr : r.Keeps limit taken) (h : step limit r t = some next) :
    next.Keeps limit (taken ++ [t]) := by
  unfold step at h
  split at h
  case h_1 =>
    obtain ⟨hw, ht, hl⟩ := hr
    exact keeps_of_beginValue hw ht hl h
  case h_2 =>
    cases h
    obtain ⟨⟨-, hw⟩, ht, hl⟩ := hr
    refine ⟨hw, ?_, Nat.le_of_succ_le_succ hl⟩
    rw [ht, takenBy_cons, List.append_assoc]
    rfl
  case h_3 =>
    split at h
    · rename_i hl
      obtain ⟨hw, ht, -⟩ := hr
      exact keeps_of_beginValue hw ht hl h
    · cases h
  case h_4 =>
    cases h
    obtain ⟨hw, ht, hl⟩ := hr
    refine ⟨hw, ?_, hl⟩
    rw [ht, takenBy_cons, takenBy_cons]
    simp [Frame.taken]
  case h_5 =>
    cases h
    obtain ⟨⟨-, hw⟩, ht, hl⟩ := hr
    refine ⟨hw, ?_, Nat.le_of_succ_le_succ hl⟩
    rw [ht, takenBy_cons, List.append_assoc]
    rfl
  case h_6 =>
    split at h
    · rename_i hl
      cases h
      obtain ⟨hw, ht, -⟩ := hr
      refine ⟨hw, ?_, hl⟩
      rw [ht, takenBy_cons, takenBy_cons]
      simp [Frame.taken]
    · cases h
  case h_7 =>
    cases h
    exact hr
  case h_8 =>
    cases h
    obtain ⟨⟨hd, hw⟩, ht, hl⟩ := hr
    rw [List.length_cons] at hl
    refine ⟨⟨List.forall_mem_cons.2 ⟨by omega, hd⟩, hw⟩, ?_, ?_⟩
    · rw [ht, takenBy_cons, takenBy_cons, Frame.taken_item]
      simp only [List.append_assoc]
    · rw [List.length_cons]
      omega
  case h_9 =>
    cases h
    obtain ⟨⟨hd, hw⟩, ht, hl⟩ := hr
    refine ⟨hw, ?_, nesting_of_closeArray hd hl⟩
    rw [ht, takenBy_cons, ← Frame.taken_closeArray]
    simp only [List.append_assoc]
  case h_10 =>
    cases h
    obtain ⟨⟨hd, hw⟩, ht, hl⟩ := hr
    rw [List.length_cons] at hl
    refine ⟨⟨List.forall_mem_cons.2 ⟨?_, hd⟩, hw⟩, ?_, ?_⟩
    · dsimp only
      omega
    · rw [ht, takenBy_cons, takenBy_cons, Frame.taken_field]
      simp only [List.append_assoc]
    · rw [List.length_cons]
      omega
  case h_11 =>
    cases h
    obtain ⟨⟨hd, hw⟩, ht, hl⟩ := hr
    refine ⟨hw, ?_, nesting_of_closeObject hd hl⟩
    rw [ht, takenBy_cons, ← Frame.taken_closeObject]
    simp only [List.append_assoc]
  case h_12 => cases h

theorem keeps_of_foldlM {tokens : List Token} (hr : r.Keeps limit taken)
    (h : tokens.foldlM (step limit) r = some next) : next.Keeps limit (taken ++ tokens) := by
  induction tokens generalizing r taken with
  | nil =>
    cases h
    rwa [List.append_nil]
  | cons t rest ih =>
    rw [List.foldlM_cons, Option.bind_eq_bind, Option.bind_eq_some_iff] at h
    obtain ⟨middle, hs, hn⟩ := h
    rw [← List.singleton_append, ← List.append_assoc]
    exact ih (keeps_of_step hr hs) hn

/-- The reader answers a value exactly if the words are those of the value and it nests no deeper
than is allowed. -/
theorem ofTokens?_eq_some_iff {tokens : List Token} {v : Value} :
    ofTokens? limit tokens = some v ↔ tokens = v.tokens ∧ v.nesting ≤ limit := by
  constructor
  · intro h
    rw [ofTokens?] at h
    split at h
    · rename_i hf
      cases h
      have hs : Reading.Keeps limit [] ([], .value) := ⟨trivial, rfl, Nat.zero_le limit⟩
      obtain ⟨-, ht, hl⟩ := keeps_of_foldlM hs hf
      exact ⟨ht, by simpa using hl⟩
    · cases h
  · rintro ⟨rfl, hl⟩
    exact Value.ofTokens?_tokens hl

end

/-! ### Texts -/

/-- The reader answers a value exactly if the text stands for it and it nests no deeper than is
allowed. -/
theorem read?_eq_some_iff {limit : Nat} {text : String} {v : Value} :
    read? limit text = some v ↔ StandsFor text v ∧ v.nesting ≤ limit := by
  rw [read?, Option.bind_eq_some_iff, StandsFor]
  simp only [ofTokens?_eq_some_iff]
  constructor
  · rintro ⟨tokens, ht, rfl, hl⟩
    exact ⟨ht, hl⟩
  · rintro ⟨ht, hl⟩
    exact ⟨_, ht, rfl, hl⟩

theorem StandsFor.ne_empty {text : String} {v : Value} (h : StandsFor text v) : text ≠ "" := by
  rintro rfl
  have ht : v.tokens = [] := Option.some.inj (h.symm.trans Token.tokens?_nil)
  cases v <;> cases ht

theorem standsFor_render {v : Value} (hf : v.integersFit = true) : StandsFor v.render v.written :=
  Value.tokens?_render hf

/-- A text stands for one value at most. -/
theorem StandsFor.unique {text : String} {v w : Value} (hv : StandsFor text v)
    (hw : StandsFor text w) : v = w := by
  have hv := read?_eq_some_iff.2 ⟨hv, Nat.le_max_left v.nesting w.nesting⟩
  have hw := read?_eq_some_iff.2 ⟨hw, Nat.le_max_right v.nesting w.nesting⟩
  exact Option.some.inj (hv.symm.trans hw)

end TargetedConfig.Json
