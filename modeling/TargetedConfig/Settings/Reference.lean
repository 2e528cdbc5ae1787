import TargetedConfig.OrderedMap
import TargetedConfig.Settings.Assignment

/-!
# References in assigned texts

A text may refer to a variable by `$` and its name between braces, with a default behind `:-`.
`expand` puts texts in the place of references, which are not looked for in what is put there.
`Assignment.resolve` does so for a file: a text sees what was assigned before it, and only for other
names the variables of the environment.
-/

namespace TargetedConfig

/-- A variable that a text refers to, and what stands for it if there is none. -/
structure Reference where
  name : String
  default : String := ""
  deriving DecidableEq

namespace Reference

/-- A reference behind its opening brace, and what follows it. -/
def read? (text : List Char) : Option (Reference × List Char) :=
  let name := text.takeWhile fun c => !(c = '}' || c = ':')
  match text.drop name.length with
  | '}' :: behind => some (⟨String.ofList name, ""⟩, behind)
  | ':' :: '-' :: rest =>
    let default := rest.takeWhile (· ≠ '}')
    match rest.drop default.length with
    | '}' :: behind => some (⟨String.ofList name, String.ofList default⟩, behind)
    | _ => none
  | _ => none

theorem length_of_read {text behind : List Char} {r : Reference}
    (h : read? text = some (r, behind)) : behind.length < text.length := by
  unfold read? at h
  simp only at h
  split at h
  · rename_i rest hd
    have hl := congrArg List.length hd
    simp only [List.length_drop, List.length_cons] at hl
    simp only [Option.some.injEq, Prod.mk.injEq] at h
    rw [← h.2]
    omega
  · rename_i rest hd
    have hl := congrArg List.length hd
    simp only [List.length_drop, List.length_cons] at hl
    split at h
    · rename_i behind' hd'
      have hl' := congrArg List.length hd'
      simp only [List.length_drop, List.length_cons] at hl'
      simp only [Option.some.injEq, Prod.mk.injEq] at h
      rw [← h.2]
      omega
    · simp at h
  · simp at h

/-- A text with other texts in the place of its references. -/
def expand (text : Reference → String) : List Char → List Char
  | '$' :: '{' :: rest =>
    match _h : read? rest with
    | some (r, behind) => (text r).toList ++ expand text behind
    | none => '$' :: '{' :: expand text rest
  | c :: rest => c :: expand text rest
  | [] => []
termination_by source => source.length
decreasing_by
  · have := length_of_read _h
    simp only [List.length_cons]
    omega
  · simp only [List.length_cons]
    omega
  · simp

end Reference

/-- The variables of a file so far; a name may be there without a text. -/
abbrev FileVariables := OrderedMap (Option String)

namespace Assignment

/-- The text of a variable that is referred to. One without a text stands for an empty text. -/
def referred (environment : OrderedMap String) (known : FileVariables) (r : Reference) : String :=
  match known.get? r.name with
  | some text => text.getD ""
  | none => (environment.get? r.name).getD r.default

/-- Makes an assignment; a name keeps its first place and its last text. -/
def resolve (environment : OrderedMap String) (known : FileVariables) (a : Assignment) :
    FileVariables :=
  known.insert a.name <| a.text.map fun text =>
    String.ofList (Reference.expand (referred environment known) text.toList)

/-- The variables that a list of assignments leaves. -/
def resolveAll (environment : OrderedMap String) (assignments : List Assignment) : FileVariables :=
  assignments.foldl (resolve environment) .empty

end Assignment

end TargetedConfig
