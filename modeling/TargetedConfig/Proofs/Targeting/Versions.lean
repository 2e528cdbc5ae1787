import TargetedConfig.Proofs.Targeting.Faults
import TargetedConfig.Proofs.Version.Reading

/-!
# Comparing versions

A version comparison takes one target. It is refused unless both texts are versions, and otherwise
answers by the lexicographic order of their tuples.
-/

namespace TargetedConfig.Comparison

open Version

variable {r : Relation} {signal target : String} {targets : List String}
  {v w : List (List Char)}

theorem compare_version_of_written (hv : Written signal v) (hw : Written target w) :
    compare (.version r) signal [target] =
      .ok (.ok (r.holds (compareSegments (v.map value) (w.map value)))) := by
  rw [compare, versions, parse?_eq_some_iff.2 ⟨v, hv, rfl⟩, parse?_eq_some_iff.2 ⟨w, hw, rfl⟩]

private theorem refusedAs_of_unreadable (h : (¬∃ v, Written signal v) ∨ ¬∃ w, Written target w) :
    RefusedAs (.version r) signal [target] .invalidSemanticVersion := by
  rw [← parse?_eq_none_iff, ← parse?_eq_none_iff] at h
  exact compare_of_dataFault (.version h)

/-- A version comparison is refused for its targets when there is not exactly one. -/
theorem refusedAs_arity_iff :
    RefusedAs (.version r) signal targets .invalidTargetArity ↔ targets.length ≠ 1 := by
  refine ⟨?_, fun h => compare_of_dataFault (.versionArity h)⟩
  rintro h hl
  obtain ⟨target, rfl⟩ := List.length_eq_one_iff.1 hl
  by_cases hr : (¬∃ v, Written signal v) ∨ ¬∃ w, Written target w
  · cases h.code_eq (refusedAs_of_unreadable hr)
  · rw [not_or, not_not, not_not] at hr
    obtain ⟨⟨v, hv⟩, w, hw⟩ := hr
    obtain ⟨refusal, -, h⟩ := h
    rw [compare_version_of_written hv hw] at h
    cases h

/-- A version comparison with one target is refused for the texts when one of them is no version. -/
theorem refusedAs_version_iff :
    RefusedAs (.version r) signal [target] .invalidSemanticVersion ↔
      (¬∃ v, Written signal v) ∨ ¬∃ w, Written target w := by
  refine ⟨?_, refusedAs_of_unreadable⟩
  rintro ⟨refusal, -, h⟩
  by_contra hr
  rw [not_or, not_not, not_not] at hr
  obtain ⟨⟨v, hv⟩, w, hw⟩ := hr
  rw [compare_version_of_written hv hw] at h
  cases h

theorem compares_of_written (hv : Written signal v) (hw : Written target w) :
    (compareSegments (v.map value) (w.map value)).Compares
      (tuple (v.map value)) (tuple (w.map value)) := by
  refine compares_compareSegments ?_ ?_
  · simpa using hv.few
  · simpa using hw.few

/-- The answer depends on the tuples alone. -/
private theorem compareSegments_congr {signal' target' : String} {v' w' : List (List Char)}
    (hv : Written signal v) (hw : Written target w) (hv' : Written signal' v')
    (hw' : Written target' w') (h : Respelled v v') (k : Respelled w w') :
    compareSegments (v'.map value) (w'.map value) =
      compareSegments (v.map value) (w.map value) := by
  have hs := compares_of_written hv' hw'
  rw [← h.tuple_eq, ← k.tuple_eq] at hs
  exact hs.inj (compares_of_written hv hw)

/-- A version comparison is refused for its targets when there is not exactly one, and for the texts
when one of them is no version. Otherwise it is answered by the lexicographic order of two tuples:
the complementary relation answers the opposite, one of less, equal and greater is true, and neither
leading zeros nor zero segments at the end matter. -/
theorem compare_version (r : Relation) (signal : String) (targets : List String) :
    (RefusedAs (.version r) signal targets .invalidTargetArity ↔ targets.length ≠ 1) ∧
    ∀ target, targets = [target] →
      (RefusedAs (.version r) signal targets .invalidSemanticVersion ↔
        (¬∃ v, Written signal v) ∨ ¬∃ w, Written target w) ∧
      ∀ v w, Written signal v → Written target w →
        ∃ answer, compare (.version r) signal targets = .ok (.ok answer) ∧
          (answer = true ↔ r.Relates (tuple (v.map value)) (tuple (w.map value))) ∧
          compare (.version r.complement) signal targets = .ok (.ok !answer) ∧
          (∃! s, s ∈ [Relation.less, .equal, .greater] ∧
            compare (.version s) signal targets = .ok (.ok true)) ∧
          ∀ signal' target' v' w', Written signal' v' → Written target' w' →
            Respelled v v' → Respelled w w' →
              compare (.version r) signal' [target'] = .ok (.ok answer) := by
  refine ⟨refusedAs_arity_iff, ?_⟩
  rintro target rfl
  refine ⟨refusedAs_version_iff, fun v w hv hw => ?_⟩
  refine ⟨_, compare_version_of_written hv hw,
    Relation.holds_iff_relates (compares_of_written hv hw) r, ?_, ?_, ?_⟩
  · rw [compare_version_of_written hv hw, Relation.holds_complement]
  · simp only [compare_version_of_written hv hw, Except.ok.injEq]
    exact Relation.existsUnique_holds _
  · intro signal' target' v' w' hv' hw' h k
    rw [compare_version_of_written hv' hw', compareSegments_congr hv hw hv' hw' h k]

theorem compare_version_padded :
    Written "1.02.0.9" [['1'], ['0', '2'], ['0'], ['9']] ∧ Written "1.10" [['1'], ['1', '0']] ∧
      ∃ answer, compare (.version .less) "1.02.0.9" ["1.10"] = .ok (.ok answer) ∧
        (answer = true ↔ tuple [1, 2, 0, 9] < tuple [1, 10]) ∧
        compare (.version .less) "1.2.0.9" ["1.10.0"] = .ok (.ok answer) := by
  have hv : Written "1.02.0.9" [['1'], ['0', '2'], ['0'], ['9']] := by decide
  have hw : Written "1.10" [['1'], ['1', '0']] := by decide
  have hv' : Written "1.2.0.9" [['1'], ['2'], ['0'], ['9']] := by decide
  have hw' : Written "1.10.0" [['1'], ['1', '0'], ['0']] := by decide
  obtain ⟨-, one⟩ := compare_version .less "1.02.0.9" ["1.10"]
  obtain ⟨-, answered⟩ := one "1.10" rfl
  obtain ⟨answer, ha, ordered, -, -, respelled⟩ := answered _ _ hv hw
  refine ⟨hv, hw, answer, ha, ordered, respelled _ _ _ _ hv' hw' ?_ (.trailing _)⟩
  exact .symm (.leading [['1']] ['2'] [['0'], ['9']])

end TargetedConfig.Comparison
