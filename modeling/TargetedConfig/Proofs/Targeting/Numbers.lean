import Mathlib.Tactic.NormNum
import TargetedConfig.Proofs.Binary64.Literal
import TargetedConfig.Proofs.Binary64.Monotone
import TargetedConfig.Proofs.Relation
import TargetedConfig.Targeting.Comparison

/-!
# Comparing numbers

A number comparison rounds both texts before it compares them. The answer never contradicts the
order of the rational numbers that the texts stand for, and on integers of at most 53 bits it is the
comparison of these integers.
-/

namespace TargetedConfig

namespace Binary64

theorem compares_swap (r : Relation) (x y : Option Int) :
    compares r.swap y x = compares r x y := by
  have hn : (r.swap == .notEqual) = (r == .notEqual) := by cases r <;> rfl
  cases x with
  | none => cases y <;> exact hn
  | some a =>
    cases y with
    | none => exact hn
    | some b => rw [compares, compares, ← Int.compare_swap a b, Relation.holds_swap]

theorem compares_some (r : Relation) (a b : Int) :
    compares r (some a) (some b) = decide (r.Relates a b) := by
  rw [Bool.eq_iff_iff, decide_eq_true_iff]
  exact r.holds_compare a b

theorem compares_of_none {x y : Option Int} (h : x = none ∨ y = none) (r : Relation) :
    compares r x y = decide (r = .notEqual) := by
  rcases h with rfl | rfl
  · rfl
  · cases x <;> rfl

end Binary64

namespace Literal

theorem rank_toBinary64_eq_none_iff {l : Literal} : l.toBinary64.rank = none ↔ l = .nan := by
  cases l with
  | nan => exact ⟨fun _ => rfl, fun _ => rfl⟩
  | infinity negative => simp only [toBinary64, Binary64.rank_infinite, reduceCtorEq]
  | decimal d => simp only [toBinary64, Binary64.rank_ofDecimal_eq, reduceCtorEq]

end Literal

namespace Comparison

open Literal (Denotes)

variable {s t : String} {l m : Literal} {d e : Decimal}

theorem compare_numeric_of_denotes (hs : Denotes s l) (ht : Denotes t m) (r : Relation) :
    compare (.numeric r) s [t] =
      .ok (.ok (Binary64.compares r l.toBinary64.rank m.toBinary64.rank)) := by
  rw [compare, numbers, Binary64.parse?_eq_some_iff.2 ⟨l, hs, rfl⟩,
    Binary64.parse?_eq_some_iff.2 ⟨m, ht, rfl⟩]

section Decimals

variable (hs : Denotes s (.decimal d)) (ht : Denotes t (.decimal e))
include hs ht

theorem compare_ranks {a b : Int} (ha : (Binary64.ofDecimal d).rank = some a)
    (hb : (Binary64.ofDecimal e).rank = some b) (r : Relation) :
    compare (.numeric r) s [t] = .ok (.ok (decide (r.Relates a b))) := by
  rw [compare_numeric_of_denotes hs ht, Literal.toBinary64, Literal.toBinary64, ha, hb,
    Binary64.compares_some]

theorem compare_of_toRat_le (h : d.toRat ≤ e.toRat) :
    compare (.numeric .lessEqual) s [t] = .ok (.ok true) ∧
      compare (.numeric .greater) s [t] = .ok (.ok false) := by
  obtain ⟨a, b, ha, hb, hab⟩ := Binary64.rank_ofDecimal_mono h
  have hle : Relation.lessEqual.Relates a b := hab
  have hgt : ¬Relation.greater.Relates a b := not_lt.2 hab
  rw [compare_ranks hs ht ha hb, compare_ranks hs ht ha hb, decide_eq_true hle,
    decide_eq_false hgt]
  exact ⟨rfl, rfl⟩

theorem compare_of_toRat_eq (h : d.toRat = e.toRat) :
    compare (.numeric .equal) s [t] = .ok (.ok true) := by
  obtain ⟨a, b, ha, hb, -⟩ := Binary64.rank_ofDecimal_mono h.le
  have heq : Relation.equal.Relates a b := by
    rw [Binary64.rank_ofDecimal_congr h, hb] at ha
    exact (Option.some.inj ha).symm
  rw [compare_ranks hs ht ha hb, decide_eq_true heq]

theorem compare_integers {a b : Int} (ha : d.toRat = a) (hb : e.toRat = b) (hm : |a| ≤ 2 ^ 53)
    (hn : |b| ≤ 2 ^ 53) (r : Relation) :
    compare (.numeric r) s [t] = .ok (.ok (decide (r.Relates a b))) := by
  have hu : (0 : Int) < Binary64.unitsOfOne := Int.natCast_pos.2 Binary64.unitsOfOne_pos
  rw [compare_ranks hs ht (Binary64.rank_ofDecimal_int ha hm) (Binary64.rank_ofDecimal_int hb hn),
    decide_eq_decide.2 (Relation.relates_map_iff (strictMono_mul_right_of_pos hu) r a b)]

end Decimals

/-- Number comparisons never reverse the order of the rational numbers that their texts stand for,
however long these are and even where they overflow or vanish. -/
theorem compare_numeric (s t : String) :
    (∀ text, (Binary64.parse? text).isSome = true ↔ ∃! l, Denotes text l) ∧
    (∀ d e, Denotes s (.decimal d) → Denotes t (.decimal e) →
      (d.toRat ≤ e.toRat →
        compare (.numeric .lessEqual) s [t] = .ok (.ok true) ∧
        compare (.numeric .greater) s [t] = .ok (.ok false)) ∧
      (d.toRat = e.toRat → compare (.numeric .equal) s [t] = .ok (.ok true)) ∧
      ∀ a b : Int, d.toRat = a → e.toRat = b → |a| ≤ 2 ^ 53 → |b| ≤ 2 ^ 53 →
        ∀ r, compare (.numeric r) s [t] = .ok (.ok (decide (r.Relates a b)))) ∧
    ∀ l m, Denotes s l → Denotes t m →
      (∀ r, compare (.numeric r) s [t] = compare (.numeric r.swap) t [s]) ∧
      (l ≠ .nan → m ≠ .nan →
        (∃! r, r ∈ [Relation.less, .equal, .greater] ∧
          compare (.numeric r) s [t] = .ok (.ok true)) ∧
        ∀ r, ∃ answer, compare (.numeric r) s [t] = .ok (.ok answer) ∧
          compare (.numeric r.complement) s [t] = .ok (.ok !answer)) ∧
      (l = .nan ∨ m = .nan →
        ∀ r, compare (.numeric r) s [t] = .ok (.ok (decide (r = .notEqual)))) := by
  refine ⟨fun text => ?_, fun d e hs ht => ?_, fun l m hs ht => ⟨fun r => ?_, fun hl hm => ?_, ?_⟩⟩
  · simp only [Option.isSome_iff_exists, Binary64.parse?_eq_some_iff]
    constructor
    · rintro ⟨_, l, hl, -⟩
      exact ⟨l, hl, fun m hm => hm.unique hl⟩
    · rintro ⟨l, hl, -⟩
      exact ⟨_, l, hl, rfl⟩
  · exact ⟨compare_of_toRat_le hs ht, compare_of_toRat_eq hs ht,
      fun a b ha hb hm hn => compare_integers hs ht ha hb hm hn⟩
  · rw [compare_numeric_of_denotes hs ht, compare_numeric_of_denotes ht hs,
      Binary64.compares_swap]
  · obtain ⟨a, ha⟩ := Option.ne_none_iff_exists'.1 (mt Literal.rank_toBinary64_eq_none_iff.1 hl)
    obtain ⟨b, hb⟩ := Option.ne_none_iff_exists'.1 (mt Literal.rank_toBinary64_eq_none_iff.1 hm)
    simp only [compare_numeric_of_denotes hs ht, ha, hb, Binary64.compares, Except.ok.injEq]
    exact ⟨Relation.existsUnique_holds _, fun r => ⟨_, rfl, r.holds_complement _⟩⟩
  · intro hn r
    rw [← Literal.rank_toBinary64_eq_none_iff, ← @Literal.rank_toBinary64_eq_none_iff m] at hn
    rw [compare_numeric_of_denotes hs ht, Binary64.compares_of_none hn]

theorem compare_numeric_rounded :
    let d : Decimal := ⟨false, 9007199254740992, 0⟩
    let e : Decimal := ⟨false, 90071992547409930, -1⟩
    Denotes " 9007199254740992f" (.decimal d) ∧ Denotes "9007199254740993.0" (.decimal e) ∧
      d.toRat < e.toRat ∧
      compare (.numeric .lessEqual) " 9007199254740992f" ["9007199254740993.0"] = .ok (.ok true) ∧
      compare (.numeric .greater) " 9007199254740992f" ["9007199254740993.0"] =
        .ok (.ok false) := by
  intro d e
  have hd : Denotes " 9007199254740992f" (.decimal d) :=
    Literal.read?_trim_eq_some_iff.1 (by decide)
  have he : Denotes "9007199254740993.0" (.decimal e) :=
    Literal.read?_trim_eq_some_iff.1 (by decide)
  have hlt : d.toRat < e.toRat := by norm_num [d, e, Decimal.toRat, Binary64.signFactor]
  obtain ⟨-, decimals, -⟩ := compare_numeric " 9007199254740992f" "9007199254740993.0"
  exact ⟨hd, he, hlt, (decimals d e hd he).1 hlt.le⟩

end Comparison

end TargetedConfig
