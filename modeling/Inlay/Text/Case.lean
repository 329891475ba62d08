/-
# `Inlay.Text.Case` — comparison and folding over the ASCII letters

Names of elements, attributes and options ignore the case of the letters
A to Z and of no others: `İ` and `ſ` equal only themselves.  Folding is to
lower case, and `sameLetters` compares folded texts, so it is an equivalence.
-/

namespace Inlay.Text

/-- The text with A to Z replaced by a to z. -/
def lower (s : String) : String := String.ofList (s.toList.map Char.toLower)

/-- Equality of texts up to the case of ASCII letters. -/
def sameLetters (s t : String) : Bool := s.toList.map Char.toLower == t.toList.map Char.toLower

theorem sameLetters_iff {s t : String} : sameLetters s t = true ↔ lower s = lower t := by
  simp [sameLetters, lower, String.ofList_inj]

/-- Folding leaves a character alone, or gives a letter from a to z for one from A to Z. -/
theorem toLower_cases (c : Char) : c.toLower = c ∨ 'a' ≤ c.toLower ∧ c.toLower ≤ 'z' := by
  unfold Char.toLower
  split
  · next h =>
      right
      simp only [Char.le_def, UInt32.le_iff_toNat_le, ge_iff_le, UInt32.toNat_add] at h ⊢
      simp at h ⊢
      omega
  · exact .inl rfl

theorem toLower_of_lower {c : Char} (h : 'a' ≤ c) : c.toLower = c := by
  unfold Char.toLower
  rw [dif_neg]
  simp only [Char.le_def, UInt32.le_iff_toNat_le, ge_iff_le] at h ⊢
  simp at h ⊢
  omega

theorem toLower_toLower (c : Char) : c.toLower.toLower = c.toLower := by
  rcases toLower_cases c with h | ⟨h, -⟩
  · rw [h, h]
  · exact toLower_of_lower h

/-- A folded character is none of A to Z. -/
theorem isUpper_toLower (c : Char) : c.toLower.isUpper = false := by
  refine decide_eq_false fun hupper => ?_
  unfold Char.toLower at hupper
  split at hupper
  · next h =>
      simp only [ge_iff_le, UInt32.le_iff_toNat_le, UInt32.toNat_add] at h hupper
      simp at h hupper
      omega
  · next h => exact h hupper

theorem lower_lower (s : String) : lower (lower s) = lower s := by
  simp only [lower, String.toList_ofList, List.map_map, Function.comp_def, toLower_toLower]

theorem sameLetters_lower (s t : String) : sameLetters s (lower t) = sameLetters s t := by
  rw [Bool.eq_iff_iff, sameLetters_iff, sameLetters_iff, lower_lower]

end Inlay.Text
