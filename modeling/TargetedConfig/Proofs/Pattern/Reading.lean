import TargetedConfig.Pattern.Reader

/-!
# Reading flat patterns

A flat pattern has no groups: it consists of letters and digits, which stand for themselves, and of
dots with stars. The reader turns it into one test for each character and one repetition for each
star.
-/

namespace TargetedConfig.Pattern

def letter (x : Char) : Pattern := .char (.literal x.toNat false)

def anyText : Pattern := .repeated .greedy 0 none (.char .any)

theorem Token.split_of_not_mem {text : List Char} (h : '\\' ∉ text) :
    Token.split text = text.map .plain := by
  induction text with
  | nil => rfl
  | cons x rest ih =>
    rw [List.mem_cons, not_or] at h
    have hr := ih h.2
    unfold Token.split
    split
    · next he => cases he
    · next he =>
      cases he
      exact absurd rfl h.1
    · next he =>
      cases he
      exact absurd rfl h.1
    · next he =>
      cases he
      rw [hr, List.map_cons]

def Sequence.pushAll (s : Sequence) (parts : List Pattern) : Sequence :=
  parts.foldl (fun s part => s.push (.single part)) s

theorem Sequence.parts_push (s : Sequence) (part : Pattern) :
    (s.push (.single part)).parts = s.parts ++ [part] :=
  List.reverse_cons

theorem Sequence.parts_pushAll (s : Sequence) (parts : List Pattern) :
    (s.pushAll parts).parts = s.parts ++ parts := by
  induction parts generalizing s with
  | nil => exact (List.append_nil _).symm
  | cons part parts ih =>
    have hs : s.pushAll (part :: parts) = (s.push (.single part)).pushAll parts := rfl
    rw [hs, ih, parts_push, List.append_assoc, List.singleton_append]

namespace Reader

/-- A reader that has met no groups. -/
def flat (s : Sequence) (dotAll repeats : Bool) : Reader :=
  { current := s, flags := { dotAll := dotAll }, hasRepetition := repeats }

variable (s : Sequence) (dotAll repeats : Bool)

private theorem step_alphanum {x : Char} (hx : x.isAlphanum = true) (rest : List Token) :
    (flat s dotAll repeats).step (.plain x) rest =
      .ok (flat (s.push (.single (letter x))) dotAll repeats, 0) := by
  have hp : (flat s dotAll repeats).plain x rest =
      .ok (flat (s.push (.single (letter x))) dotAll repeats, 0) := by
    unfold plain
    split
    case h_10 => rfl
    all_goals simp at hx
  unfold step
  split
  · next he => cases he
  · next he => cases he
  · next he =>
    cases he
    simp at hx
  · next he =>
    cases he
    simp at hx
  · next he =>
    cases he
    exact hp

/-- Letters and digits stand for themselves. -/
theorem steps_text {text : List Char} (ht : ∀ x ∈ text, x.isAlphanum = true) (rest : List Token) :
    (flat s dotAll repeats).steps (text.map .plain ++ rest) =
      (flat (s.pushAll (text.map letter)) dotAll repeats).steps rest := by
  induction text generalizing s with
  | nil => rfl
  | cons x text ih =>
    have hx := step_alphanum s dotAll repeats (ht x (by simp)) (text.map .plain ++ rest)
    rw [List.map_cons, List.cons_append, steps_of_step hx]
    exact ih _ fun y hy => ht y (by simp [hy])

/-- A dot with a star stands for any text. -/
theorem steps_dotStar {rest : List Token}
    (hr : ∀ t ∈ rest.head?, t ≠ .plain '?' ∧ t ≠ .plain '+') :
    (flat s dotAll repeats).steps (.plain '.' :: .plain '*' :: rest) =
      (flat (s.push (.single anyText)) dotAll true).steps rest := by
  let r := (flat s dotAll repeats).push (.char .any)
  have hd : (flat s dotAll repeats).step (.plain '.') (.plain '*' :: rest) = .ok (r, 0) := rfl
  have hq : r.step (.plain '*') rest = .ok (flat (s.push (.single anyText)) dotAll true, 0) := by
    change r.quantify 0 none rest = _
    unfold quantify
    dsimp only [r, push, Sequence.push]
    split
    · exact absurd rfl (hr _ rfl).1
    · exact absurd rfl (hr _ rfl).2
    · rfl
  rw [steps_of_step hd, List.drop_zero, steps_of_step hq, List.drop_zero]

private theorem leading_flag (rest : List Token) :
    Token.leading isFlag (rest.length + 1 + 1) (.plain 's' :: .plain ')' :: rest) = ['s'] := by
  have hf : isFlag 's' = true := by simp [isFlag]
  have hn : isFlag ')' = false := by simp [isFlag]
  simp [Token.leading, Token.isPlain, hf, hn]

/-- A setting at the start lets dots match line feeds too. -/
theorem steps_dotAll (rest : List Token) :
    steps {} (.plain '(' :: .plain '?' :: .plain 's' :: .plain ')' :: rest) =
      (flat {} true false).steps rest := by
  have hs : settings {} (.plain 's' :: .plain ')' :: rest) = .ok (flat {} true false, 2) := by
    rw [settings, List.length_cons, List.length_cons, leading_flag]
    rfl
  have ho : step {} (.plain '(') (.plain '?' :: .plain 's' :: .plain ')' :: rest) =
      .ok (flat {} true false, 3) := by
    change (settings {} (.plain 's' :: .plain ')' :: rest)).map _ = _
    rw [hs]
    rfl
  exact steps_of_step ho

end Reader

namespace Compiled

/-- The pattern of some parts, without groups. -/
def flat (parts : List Pattern) (dotAll : Bool) : Compiled :=
  ⟨ofParts parts, 0, ⟨false, false, dotAll, false⟩, ((ofParts parts).width []).1⟩

theorem ofReader_flat (s : Sequence) (dotAll repeats : Bool) :
    ofReader (.flat s dotAll repeats) = .ok (flat s.parts dotAll) := rfl

variable {text : String} (ht : ∀ x ∈ text.toList, x.isAlphanum = true)
include ht

private theorem not_mem {x : Char} (hx : x.isAlphanum = false) : x ∉ text.toList := by
  intro h
  rw [ht x h] at hx
  cases hx

/-- Letters and digits are read as tests of these characters. -/
theorem read_text : read text = .ok (flat (text.toList.map letter) false) := by
  have hr := Reader.steps_text {} false false ht []
  rw [List.append_nil, Reader.steps] at hr
  have hs := Token.split_of_not_mem (not_mem ht (x := '\\') (by decide))
  rw [read, hs]
  refine (congrArg (Except.bind · ofReader) hr).trans ((ofReader_flat _ _ _).trans ?_)
  rw [Sequence.parts_pushAll]
  rfl

/-- Between two dots with stars letters and digits are read as they are alone. -/
theorem read_surrounded :
    read ("(?s).*" ++ text ++ ".*") =
      .ok (flat (anyText :: text.toList.map letter ++ [anyText]) true) := by
  let after : List Token := text.toList.map .plain ++ [.plain '.', .plain '*']
  have hn : '\\' ∉ ("(?s).*" ++ text ++ ".*").toList := by
    simp [not_mem ht (x := '\\') (by decide)]
  have hd : ("(?s).*" ++ text ++ ".*").toList.map Token.plain =
      .plain '(' :: .plain '?' :: .plain 's' :: .plain ')' :: .plain '.' :: .plain '*' ::
        after := by
    simp [after]
  have hq : ∀ t ∈ after.head?, t ≠ .plain '?' ∧ t ≠ .plain '+' := by
    intro t h
    rcases hx : text.toList with _ | ⟨x, xs⟩
    · simp only [after, hx] at h
      cases h
      decide
    · simp only [after, hx] at h
      cases h
      have hx' : x.isAlphanum = true := ht x (by simp [hx])
      constructor <;> · intro he; cases he; simp at hx'
  have hr : Reader.steps {} (("(?s).*" ++ text ++ ".*").toList.map .plain) = .ok (.flat
      ((((({} : Sequence).push (.single anyText)).pushAll (text.toList.map letter))).push
        (.single anyText)) true true) := by
    rw [hd, Reader.steps_dotAll, Reader.steps_dotStar _ _ _ hq, Reader.steps_text _ _ _ ht,
      Reader.steps_dotStar _ _ _ (by simp), Reader.steps]
  rw [read, Token.split_of_not_mem hn]
  refine (congrArg (Except.bind · ofReader) hr).trans ((ofReader_flat _ _ _).trans ?_)
  simp only [Sequence.parts_push, Sequence.parts_pushAll]
  rfl

end Compiled

end TargetedConfig.Pattern
