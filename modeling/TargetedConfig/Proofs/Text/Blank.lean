import Mathlib.Data.List.DropRight
import Mathlib.Data.List.TakeWhile
import TargetedConfig.Text.Blank

/-!
# Trimmed texts

Trimming splits a text into blanks, what is left, and blanks again. Blanks that are put around a
text make no difference, and a text whose ends are no blanks is trimmed already.
-/

namespace TargetedConfig.Text

variable {p : Char → Bool} {before text after : List Char}

theorem dropWhile_of_forall (h : ∀ c ∈ text, p c = false) : text.dropWhile p = text := by
  cases text with
  | nil => rfl
  | cons c text => rw [List.dropWhile_cons_of_neg (by simp [h c List.mem_cons_self])]

/-- What is dropped may stand at the ends or not. -/
theorem trim_surrounded (hb : ∀ c ∈ before, p c = true) (ha : ∀ c ∈ after, p c = true) :
    trim p (before ++ (text ++ after)) = trim p text := by
  have hr : ∀ c ∈ after.reverse, p c = true := fun c hc => ha c (List.mem_reverse.1 hc)
  have hd : after.dropWhile p = [] := by
    rw [← List.append_nil after, List.dropWhile_append_of_pos ha]
    rfl
  rw [trim, List.dropWhile_append_of_pos hb, List.dropWhile_append, trim]
  split
  · rename_i he
    rw [hd, List.isEmpty_iff.1 he]
  · rw [List.reverse_append, List.dropWhile_append_of_pos hr]

theorem trim_of_forall (h : ∀ c ∈ text, p c = false) : trim p text = text := by
  have hr : ∀ c ∈ text.reverse, p c = false := fun c hc => h c (List.mem_reverse.1 hc)
  rw [trim, dropWhile_of_forall h, dropWhile_of_forall hr, List.reverse_reverse]

theorem trim_append (hb : ∀ c ∈ before, p c = true) (ha : ∀ c ∈ after, p c = true)
    (ht : ∀ c ∈ text, p c = false) : trim p (before ++ (text ++ after)) = text := by
  rw [trim_surrounded hb ha, trim_of_forall ht]

theorem exists_of_trim (p : Char → Bool) (text : List Char) :
    ∃ before after, text = before ++ (trim p text ++ after) ∧ (∀ c ∈ before, p c = true) ∧
      ∀ c ∈ after, p c = true := by
  refine ⟨text.takeWhile p, ((text.dropWhile p).reverse.takeWhile p).reverse, ?_,
    fun c hc => List.all_eq_true.1 List.all_takeWhile c hc,
    fun c hc => List.all_eq_true.1 List.all_takeWhile c (List.mem_reverse.1 hc)⟩
  rw [trim, ← List.reverse_append, List.takeWhile_append_dropWhile, List.reverse_reverse,
    List.takeWhile_append_dropWhile]

theorem trim_eq_rdropWhile (p : Char → Bool) (text : List Char) :
    trim p text = (text.dropWhile p).rdropWhile p := rfl

/-- A text is trimmed already if there is nothing to drop at either end. -/
theorem trim_eq_self_iff :
    trim p text = text ↔ text.dropWhile p = text ∧ text.rdropWhile p = text := by
  rw [trim_eq_rdropWhile]
  constructor
  · intro h
    have hs : (text.dropWhile p).length ≤ text.length := (List.dropWhile_suffix p).length_le
    have hr := (List.rdropWhile_prefix p (text.dropWhile p)).length_le
    rw [h] at hr
    have hd := (List.dropWhile_suffix p).eq_of_length (Nat.le_antisymm hs hr)
    exact ⟨hd, by rwa [hd] at h⟩
  · rintro ⟨hd, hr⟩
    rw [hd, hr]

/-- A text without blanks at its ends has none of a smaller class there. -/
theorem trim_eq_self_of_imp {q : Char → Bool} (hq : ∀ c, q c = true → p c = true)
    (h : trim p text = text) : trim q text = text := by
  rw [trim_eq_self_iff, List.dropWhile_eq_self_iff, List.rdropWhile_eq_self_iff] at h ⊢
  exact ⟨fun hl hc => h.1 hl (hq _ hc), fun hl hc => h.2 hl (hq _ hc)⟩

end TargetedConfig.Text
