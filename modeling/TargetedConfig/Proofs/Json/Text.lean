import TargetedConfig.Json.Text
import TargetedConfig.Proofs.Json.Number

/-!
# Values are read as they were written

The reader takes the compact text of a value back to the value, as long as the value nests no deeper
than the reader allows and its integers are not too long. Only numbers that have no text are lost:
`Value.written` is what the text keeps of a value.
-/

namespace TargetedConfig.Json

namespace Token

/-! ### Strings -/

theorem hexDigit?_digitChar : ∀ d < 16, hexDigit? (Nat.digitChar d) = some d := by decide

/-- A character that no escape is needed for stands for itself. -/
private theorem scanString_plain {c : Char} (hq : c ≠ '"') (hb : c ≠ '\\') (hc : ¬c.toNat < 0x20)
    (rest : List Char) :
    scanString (c :: rest) = (scanString rest).map fun (s, r) => (c :: s, r) := by
  rw [scanString.eq_def]
  split
  case h_1 he =>
    cases he
    exact absurd rfl hq
  case h_2 he =>
    cases he
    exact absurd rfl hb
  case h_3 he =>
    cases he
    exact absurd rfl hb
  case h_4 he =>
    cases he
    rw [if_neg (by simp [hc, hb])]
  case h_5 he => cases he

/-- A control character is read from its number in two digits. -/
private theorem scanString_hex {c : Char} (hc : c.toNat < 0x20) (rest : List Char) :
    scanString ('\\' :: 'u' :: '0' :: '0' :: Nat.digitChar (c.toNat / 16) ::
        Nat.digitChar (c.toNat % 16) :: rest) =
      (scanString rest).map fun (s, r) => (c :: s, r) := by
  have hh := hexDigit?_digitChar (c.toNat / 16) (by omega)
  have hl := hexDigit?_digitChar (c.toNat % 16) (by omega)
  have hz : hexDigit? '0' = some 0 := rfl
  have hu : codeUnit? '0' '0' (Nat.digitChar (c.toNat / 16)) (Nat.digitChar (c.toNat % 16)) =
      some c.toNat := by
    simp [codeUnit?, hh, hl, hz]
    omega
  have hs : single? c.toNat = some c := by
    rw [single?, if_neg (by omega), Char.ofNat_toNat]
  simp [scanString, hu, hs]

theorem scanString_escape (c : Char) (rest : List Char) :
    scanString (escape c ++ rest) = (scanString rest).map fun (s, r) => (c :: s, r) := by
  by_cases hq : c = '"'
  · subst hq
    simp [escape, scanString, shortEscape?]
  by_cases hb : c = '\\'
  · subst hb
    simp [escape, scanString, shortEscape?]
  by_cases hc : c.toNat < 0x20
  · rw [escape, if_neg hq, if_neg hb, if_pos hc]
    split
    · subst_vars
      simp [scanString, shortEscape?]
    split
    · subst_vars
      simp [scanString, shortEscape?]
    split
    · subst_vars
      simp [scanString, shortEscape?]
    split
    · subst_vars
      simp [scanString, shortEscape?]
    split
    · subst_vars
      simp [scanString, shortEscape?]
    · exact scanString_hex hc rest
  · rw [escape, if_neg hq, if_neg hb, if_neg hc]
    exact scanString_plain hq hb hc rest

theorem scanString_escapes (cs rest : List Char) :
    scanString (cs.flatMap escape ++ '"' :: rest) = some (cs, rest) := by
  induction cs with
  | nil => simp [scanString]
  | cons c cs ih =>
    rw [List.flatMap_cons, List.append_assoc, scanString_escape, ih]
    rfl

/-- Strings are scanned as they were written. -/
theorem scan_writeString (s : String) (rest : List Char) :
    scan ((Token.string s).write ++ rest) = some (.string s, rest) := by
  have hs := scanString_escapes s.toList rest
  change scan ('"' :: (s.toList.flatMap escape ++ ['"'] ++ rest)) = _
  rw [List.append_assoc, scan, List.singleton_append, hs]
  simp

/-! ### Tokens -/

/-- What the text of a token keeps of it. -/
def written : Token → Token
  | .float (.finite negative units fits) => .float (.finite negative units fits)
  | .float _ => .null
  | t => t

def isNumber : Token → Bool
  | .integer _ => true
  | .float _ => true
  | _ => false

/-- Whether a token is no integer too long to be read. -/
def fits : Token → Bool
  | .integer n => (writeInteger n).length ≤ maxWholeLength
  | _ => true

/-- Tokens are scanned as they were written. -/
theorem scan_write (t : Token) {rest : List Char} (hf : t.fits = true)
    (hr : t.isNumber = true → Stops rest) : scan (t.write ++ rest) = some (t.written, rest) := by
  cases t with
  | integer n => exact scan_writeInteger (by simpa [fits] using hf) (hr rfl)
  | float x =>
    cases x with
    | finite negative units fits => exact scan_writeFinite negative fits (hr rfl)
    | nan => simp [write, scan, scanWord, after?, written]
    | infinite negative => simp [write, scan, scanWord, after?, written]
  | string s => exact scan_writeString s rest
  | bool b => cases b <;> simp [write, scan, scanWord, after?, written]
  | null => simp [write, scan, scanWord, after?, written]
  | openArray | closeArray | openObject | closeObject | comma | colon =>
    simp [write, scan, written]

theorem dropWhile_isBlank_of_scan {cs : List Char} {r : Token × List Char} (h : scan cs = some r) :
    cs.dropWhile isBlank = cs := by
  cases cs with
  | nil => rfl
  | cons c cs =>
    by_cases hb : isBlank c = true
    · have hc : c = ' ' ∨ c = '\t' ∨ c = '\n' ∨ c = '\r' := by simpa [isBlank] using hb
      rcases hc with rfl | rfl | rfl | rfl <;> simp [scan, scanNumber, scanWhole] at h
    · rw [List.dropWhile_cons_of_neg hb]

theorem tokens?_nil : tokens? [] = some [] := by
  rw [tokens?.eq_def]
  rfl

/-- The text of a token before a text gives its token before the tokens of that text. -/
theorem tokens?_write (t : Token) {rest : List Char} (hf : t.fits = true)
    (hr : t.isNumber = true → Stops rest) :
    tokens? (t.write ++ rest) = (tokens? rest).map (t.written :: ·) := by
  have hs := scan_write t hf hr
  have hd := dropWhile_isBlank_of_scan hs
  have hne : (t.write ++ rest).isEmpty = false := by
    rcases he : t.write ++ rest with _ | ⟨c, cs⟩
    · rw [he] at hs
      cases hs
    · rfl
  rw [tokens?.eq_def, hd, hne]
  simp only [Bool.false_eq_true, if_false]
  split
  · rename_i hn
    rw [hs] at hn
    cases hn
  · rename_i t' rest' he
    rw [hs] at he
    cases he
    rfl

end Token

namespace Value

/-! ### Values -/

mutual

/-- What the text of a value keeps of it: a number without a text is null. -/
def written : Value → Value
  | .float (.finite negative units fits) => .float (.finite negative units fits)
  | .float _ => .null
  | .array items => .array (writtenItems items)
  | .object fields => .object (writtenFields fields)
  | v => v

def writtenItems : List Value → List Value
  | [] => []
  | v :: rest => written v :: writtenItems rest

def writtenFields : List (String × Value) → List (String × Value)
  | [] => []
  | (k, v) :: rest => (k, written v) :: writtenFields rest

end

mutual

/-- The greatest number of arrays and objects around one another, empty ones aside. -/
def nesting : Value → Nat
  | .array items => if items.isEmpty then 0 else nestingItems items + 1
  | .object fields => if fields.isEmpty then 0 else nestingFields fields + 1
  | _ => 0

def nestingItems : List Value → Nat
  | [] => 0
  | v :: rest => max (nesting v) (nestingItems rest)

def nestingFields : List (String × Value) → Nat
  | [] => 0
  | (_, v) :: rest => max (nesting v) (nestingFields rest)

end

mutual

/-- Whether no integer of a value is too long to be read. -/
def integersFit : Value → Bool
  | .integer n => (Token.writeInteger n).length ≤ Token.maxWholeLength
  | .array items => integersFitItems items
  | .object fields => integersFitFields fields
  | _ => true

def integersFitItems : List Value → Bool
  | [] => true
  | v :: rest => integersFit v && integersFitItems rest

def integersFitFields : List (String × Value) → Bool
  | [] => true
  | (_, v) :: rest => integersFit v && integersFitFields rest

end

/-- Values are built from their items and the values of their fields. -/
theorem tree_induction {P : Value → Prop} (null : P .null) (bool : ∀ b, P (.bool b))
    (integer : ∀ n, P (.integer n)) (float : ∀ x, P (.float x)) (string : ∀ s, P (.string s))
    (array : ∀ items, (∀ v ∈ items, P v) → P (.array items))
    (object : ∀ fields, (∀ p ∈ fields, P p.2) → P (.object fields)) : ∀ v, P v := by
  intro v
  refine @Value.rec P (fun items => ∀ v ∈ items, P v) (fun fields => ∀ p ∈ fields, P p.2)
    (fun p => P p.2) null bool integer float string array object ?_ ?_ ?_ ?_ ?_ v
  · intro v hv
    cases hv
  · intro head tail hh ht v hv
    rcases List.mem_cons.1 hv with rfl | hv
    · exact hh
    · exact ht v hv
  · intro p hp
    cases hp
  · intro head tail hh ht p hp
    rcases List.mem_cons.1 hp with rfl | hp
    · exact hh
    · exact ht p hp
  · intro k v hv
    exact hv

theorem writtenItems_eq_map (items : List Value) : writtenItems items = items.map written := by
  induction items with
  | nil => rfl
  | cons v rest ih => rw [writtenItems, ih, List.map_cons]

theorem writtenFields_eq_map (fields : List (String × Value)) :
    writtenFields fields = fields.map fun p => (p.1, p.2.written) := by
  induction fields with
  | nil => rfl
  | cons p rest ih =>
    obtain ⟨k, v⟩ := p
    rw [writtenFields, ih, List.map_cons]

private theorem nesting_le_nestingItems {items : List Value} {v : Value} (h : v ∈ items) :
    v.nesting ≤ nestingItems items := by
  induction items with
  | nil => cases h
  | cons w rest ih =>
    rw [nestingItems]
    rcases List.mem_cons.1 h with rfl | h
    · exact Nat.le_max_left _ _
    · exact Nat.le_trans (ih h) (Nat.le_max_right _ _)

private theorem nesting_le_nestingFields {fields : List (String × Value)} {k : String} {v : Value}
    (h : (k, v) ∈ fields) : v.nesting ≤ nestingFields fields := by
  induction fields with
  | nil => cases h
  | cons p rest ih =>
    rw [nestingFields]
    rcases List.mem_cons.1 h with rfl | h
    · exact Nat.le_max_left _ _
    · exact Nat.le_trans (ih h) (Nat.le_max_right _ _)

/-- An array nests deeper than its items. -/
theorem nesting_lt_of_mem_items {items : List Value} {v : Value} (h : v ∈ items) :
    v.nesting < (array items).nesting := by
  have he : ¬items.isEmpty = true := by
    cases items with
    | nil => cases h
    | cons w rest => simp
  rw [nesting, if_neg he]
  exact Nat.lt_succ_of_le (nesting_le_nestingItems h)

/-- An object nests deeper than its fields. -/
theorem nesting_lt_of_mem_fields {fields : List (String × Value)} {k : String} {v : Value}
    (h : (k, v) ∈ fields) : v.nesting < (object fields).nesting := by
  have he : ¬fields.isEmpty = true := by
    cases fields with
    | nil => cases h
    | cons w rest => simp
  rw [nesting, if_neg he]
  exact Nat.lt_succ_of_le (nesting_le_nestingFields h)

def textOf (tokens : List Token) : List Char := tokens.flatMap Token.write

theorem textOf_append (tokens more : List Token) :
    textOf (tokens ++ more) = textOf tokens ++ textOf more :=
  List.flatMap_append

/-- A value whose text gives its tokens before the tokens of what follows. -/
def Scans (v : Value) : Prop :=
  v.integersFit = true → ∀ rest, Token.Stops rest →
    Token.tokens? (textOf v.tokens ++ rest) =
      (Token.tokens? rest).map (v.written.tokens ++ ·)

private theorem tokens?_token (t : Token) (tokens : List Token) (rest : List Char)
    (hf : t.fits = true) (hn : t.isNumber = false) :
    Token.tokens? (textOf (t :: tokens) ++ rest) =
      (Token.tokens? (textOf tokens ++ rest)).map (t.written :: ·) := by
  have ht : textOf (t :: tokens) = t.write ++ textOf tokens := List.flatMap_cons
  rw [ht, List.append_assoc]
  exact Token.tokens?_write t hf (by simp [hn])

private theorem stops_items (items : List Value) (rest : List Char) :
    Token.Stops (textOf (tokensItems false items) ++ rest) := by
  cases items <;> simp [tokensItems, textOf, Token.write, Token.Stops]

private theorem stops_fields (fields : List (String × Value)) (rest : List Char) :
    Token.Stops (textOf (tokensFields false fields) ++ rest) := by
  cases fields <;> simp [tokensFields, textOf, Token.write, Token.Stops]

private theorem tokens?_items {items : List Value} (h : ∀ v ∈ items, Scans v)
    (hf : integersFitItems items = true) (first : Bool) (rest : List Char) :
    Token.tokens? (textOf (tokensItems first items) ++ rest) =
      (Token.tokens? rest).map (tokensItems first (writtenItems items) ++ ·) := by
  induction items generalizing first with
  | nil => exact tokens?_token .closeArray [] rest rfl rfl
  | cons v tail ih =>
    rw [integersFitItems, Bool.and_eq_true] at hf
    have hi : Token.tokens? (textOf (v.tokens ++ tokensItems false tail) ++ rest) =
        (Token.tokens? rest).map
          ((v.written.tokens ++ tokensItems false (writtenItems tail)) ++ ·) := by
      rw [textOf_append, List.append_assoc, h v (by simp) hf.1 _ (stops_items tail rest),
        ih (fun w hw => h w (by simp [hw])) hf.2, Option.map_map]
      congr 1
      funext tokens
      simp
    cases first with
    | true => exact hi
    | false =>
      have hc := tokens?_token .comma (v.tokens ++ tokensItems false tail) rest rfl rfl
      rw [hi, Option.map_map] at hc
      exact hc

private theorem tokens?_fields {fields : List (String × Value)} (h : ∀ p ∈ fields, Scans p.2)
    (hf : integersFitFields fields = true) (first : Bool) (rest : List Char) :
    Token.tokens? (textOf (tokensFields first fields) ++ rest) =
      (Token.tokens? rest).map (tokensFields first (writtenFields fields) ++ ·) := by
  induction fields generalizing first with
  | nil => exact tokens?_token .closeObject [] rest rfl rfl
  | cons p tail ih =>
    obtain ⟨k, v⟩ := p
    rw [integersFitFields, Bool.and_eq_true] at hf
    have hi : Token.tokens? (textOf (v.tokens ++ tokensFields false tail) ++ rest) =
        (Token.tokens? rest).map
          ((v.written.tokens ++ tokensFields false (writtenFields tail)) ++ ·) := by
      rw [textOf_append, List.append_assoc, h (k, v) (by simp) hf.1 _ (stops_fields tail rest),
        ih (fun w hw => h w (by simp [hw])) hf.2, Option.map_map]
      congr 1
      funext tokens
      simp
    have hk := tokens?_token (.string k)
      (.colon :: (v.tokens ++ tokensFields false tail)) rest rfl rfl
    rw [tokens?_token .colon _ rest rfl rfl, hi, Option.map_map, Option.map_map] at hk
    cases first with
    | true => exact hk
    | false =>
      have hc := tokens?_token .comma
        (.string k :: .colon :: (v.tokens ++ tokensFields false tail)) rest rfl rfl
      rw [hk, Option.map_map] at hc
      exact hc

private theorem scans_token {v : Value} (t : Token) (ht : v.tokens = [t])
    (hw : v.written.tokens = [t.written]) (hf : v.integersFit = true → t.fits = true) :
    v.Scans := by
  intro h rest hr
  rw [ht, hw]
  have hs := Token.tokens?_write t (hf h) fun _ => hr
  simpa [textOf] using hs

/-- The tokens of a text are those of the value it was written for. -/
theorem scans (v : Value) : v.Scans := by
  induction v using tree_induction with
  | array items ih =>
    intro hf rest hr
    have hi := tokens?_items ih hf true rest
    have ho := tokens?_token .openArray (tokensItems true items) rest rfl rfl
    rw [hi, Option.map_map] at ho
    exact ho
  | object fields ih =>
    intro hf rest hr
    have hi := tokens?_fields ih hf true rest
    have ho := tokens?_token .openObject (tokensFields true fields) rest rfl rfl
    rw [hi, Option.map_map] at ho
    exact ho
  | null => exact scans_token .null rfl rfl fun _ => rfl
  | bool b => exact scans_token (.bool b) rfl rfl fun _ => rfl
  | integer n => exact scans_token (.integer n) rfl rfl id
  | float x => exact scans_token (.float x) rfl (by cases x <;> rfl) fun _ => rfl
  | string s => exact scans_token (.string s) rfl rfl fun _ => rfl

/-! ### Reading tokens -/

/-- The tokens of a value take a reader that waits for a value past it. -/
def Parses (limit : Nat) (v : Value) : Prop :=
  ∀ (stack : List Frame) (rest : List Token), stack.length + v.nesting ≤ limit →
    (v.tokens ++ rest).foldlM (step limit) (stack, .value) =
      rest.foldlM (step limit) (stack, .after v)

variable {limit : Nat}

/-- An array just opened waits for a value like any other place. -/
private theorem foldlM_item {stack : List Frame} (h : (Frame.items [] :: stack).length ≤ limit)
    (v : Value) (rest : List Token) :
    (v.tokens ++ rest).foldlM (step limit) (.items [] :: stack, .item) =
      (v.tokens ++ rest).foldlM (step limit) (.items [] :: stack, .value) := by
  cases v <;>
    simp only [tokens, List.cons_append, List.nil_append, List.foldlM_cons, step, if_pos h]

private theorem foldlM_items {items : List Value} (h : ∀ v ∈ items, Parses limit v)
    {stack : List Frame} (hl : stack.length + 1 + nestingItems items ≤ limit) (done : List Value)
    (v : Value) (rest : List Token) :
    (tokensItems false items ++ rest).foldlM (step limit) (.items done :: stack, .after v) =
      rest.foldlM (step limit) (stack, .after (.array ((v :: done).reverse ++ items))) := by
  induction items generalizing done v with
  | nil => simp [tokensItems, step]
  | cons w tail ih =>
    rw [nestingItems] at hl
    have hw := h w (by simp) (.items (v :: done) :: stack) (tokensItems false tail ++ rest)
      (by rw [List.length_cons]; omega)
    have ht := ih (fun u hu => h u (by simp [hu])) (by omega) (v :: done) w
    simp only [tokensItems, Bool.false_eq_true, if_false, List.cons_append, List.nil_append,
      List.append_assoc, List.foldlM_cons, step, Option.bind_eq_bind, Option.bind_some]
    rw [hw, ht]
    simp

private theorem foldlM_fields {fields : List (String × Value)}
    (h : ∀ p ∈ fields, Parses limit p.2) {stack : List Frame}
    (hl : stack.length + 1 + nestingFields fields ≤ limit) (done : List (String × Value))
    (key : String) (v : Value) (rest : List Token) :
    (tokensFields false fields ++ rest).foldlM (step limit) (.field done key :: stack, .after v) =
      rest.foldlM (step limit)
        (stack, .after (.object (((key, v) :: done).reverse ++ fields))) := by
  induction fields generalizing done key v with
  | nil => simp [tokensFields, step]
  | cons p tail ih =>
    obtain ⟨k, w⟩ := p
    rw [nestingFields] at hl
    have hp : Parses limit w := h (k, w) (by simp)
    have hw := hp (.field ((key, v) :: done) k :: stack) (tokensFields false tail ++ rest)
      (by rw [List.length_cons]; omega)
    have ht := ih (fun u hu => h u (by simp [hu])) (by omega) ((key, v) :: done) k w
    simp only [tokensFields, Bool.false_eq_true, if_false, List.cons_append, List.nil_append,
      List.append_assoc, List.foldlM_cons, step, Option.bind_eq_bind, Option.bind_some]
    rw [hw, ht]
    simp

/-- The tokens of a value are read as the value within the nesting that is allowed. -/
theorem parses (limit : Nat) (v : Value) : v.Parses limit := by
  induction v using tree_induction with
  | array items ih =>
    intro stack rest hl
    cases items with
    | nil => simp [tokens, tokensItems, step, beginValue]
    | cons w tail =>
      rw [nesting, List.isEmpty_cons, if_neg (by simp), nestingItems] at hl
      have ho : (Frame.items [] :: stack).length ≤ limit := by
        rw [List.length_cons]
        omega
      have hw := ih w (by simp) (.items [] :: stack) (tokensItems false tail ++ rest)
        (by rw [List.length_cons]; omega)
      have hi : ∀ u ∈ tail, Parses limit u := fun u hu => ih u (List.mem_cons_of_mem _ hu)
      have hs : stack.length + 1 + nestingItems tail ≤ limit := by omega
      have ht := foldlM_items hi hs [] w rest
      simp only [tokens, tokensItems, if_true, List.cons_append, List.nil_append,
        List.append_assoc, List.foldlM_cons, step, beginValue, Option.bind_eq_bind,
        Option.bind_some]
      rw [foldlM_item ho, hw, ht]
      simp
  | object fields ih =>
    intro stack rest hl
    cases fields with
    | nil => simp [tokens, tokensFields, step, beginValue]
    | cons p tail =>
      obtain ⟨k, w⟩ := p
      rw [nesting, List.isEmpty_cons, if_neg (by simp), nestingFields] at hl
      have ho : stack.length < limit := by omega
      have hp : Parses limit w := ih (k, w) (by simp)
      have hw := hp (.field [] k :: stack) (tokensFields false tail ++ rest)
        (by rw [List.length_cons]; omega)
      have hi : ∀ u ∈ tail, Parses limit u.2 := fun u hu => ih u (List.mem_cons_of_mem _ hu)
      have hs : stack.length + 1 + nestingFields tail ≤ limit := by omega
      have ht := foldlM_fields hi hs [] k w rest
      simp only [tokens, tokensFields, if_true, List.cons_append, List.nil_append,
        List.append_assoc, List.foldlM_cons, step, beginValue, Option.bind_eq_bind,
        Option.bind_some, if_pos ho]
      rw [hw, ht]
      simp
  | null | bool | integer | float | string =>
    intro stack rest hl
    simp [tokens, step, beginValue]

/-- The value of its tokens. -/
theorem ofTokens?_tokens {v : Value} (h : v.nesting ≤ limit) :
    ofTokens? limit v.tokens = some v := by
  have hp := parses limit v [] [] (by simpa using h)
  rw [List.append_nil] at hp
  rw [ofTokens?, hp]
  rfl

private theorem nesting_writtenItems {items : List Value}
    (h : ∀ v ∈ items, v.written.nesting = v.nesting) :
    nestingItems (writtenItems items) = nestingItems items := by
  induction items with
  | nil => rfl
  | cons v tail ih =>
    rw [writtenItems, nestingItems, nestingItems, h v (by simp), ih fun w hw => h w (by simp [hw])]

private theorem nesting_writtenFields {fields : List (String × Value)}
    (h : ∀ p ∈ fields, p.2.written.nesting = p.2.nesting) :
    nestingFields (writtenFields fields) = nestingFields fields := by
  induction fields with
  | nil => rfl
  | cons p tail ih =>
    obtain ⟨k, v⟩ := p
    rw [writtenFields, nestingFields, nestingFields, h (k, v) (by simp),
      ih fun w hw => h w (by simp [hw])]

/-- What a text keeps nests as deep as what it was written for. -/
theorem nesting_written (v : Value) : v.written.nesting = v.nesting := by
  induction v using tree_induction with
  | array items ih =>
    have he : (writtenItems items).isEmpty = items.isEmpty := by cases items <;> rfl
    rw [written, nesting, nesting, nesting_writtenItems ih, he]
  | object fields ih =>
    have he : (writtenFields fields).isEmpty = fields.isEmpty := by cases fields <;> rfl
    rw [written, nesting, nesting, nesting_writtenFields ih, he]
  | float x => cases x <;> rfl
  | null | bool | integer | string => rfl

/-- The words of a text are those of what the text keeps. -/
theorem tokens?_render {v : Value} (hf : v.integersFit = true) :
    Token.tokens? v.render.toList = some v.written.tokens := by
  have hs := v.scans hf [] trivial
  rw [List.append_nil, Token.tokens?_nil] at hs
  rw [render, String.toList_ofList]
  change Token.tokens? (textOf v.tokens) = _
  simpa using hs

/-- A value within the limits of the reader is read as it was written. -/
theorem read?_render {v : Value} (hn : v.nesting ≤ limit) (hf : v.integersFit = true) :
    read? limit v.render = some v.written := by
  rw [read?, tokens?_render hf, Option.bind_some]
  exact ofTokens?_tokens (by rwa [nesting_written])

end Value

end TargetedConfig.Json
