/-
# `Inlay.Proofs.Template.Span` — the character that an error points at

An error names a line and a column, which are words of 64 bits and may be any.
The span of the error is a character of the source, or the empty span at its end.
Counting lines and columns from one, and a zero as a one, let

    start of the line   the characters of the lines before it, each with its
                        line feed                            (`lineStart_eq_sum`)
    place               the start of the line, and the columns before the column

The span begins at the place if it is in the source, and else at the end.  That
is so as long as the place is a word.  The start of a line is one past the source
at most (`lineStart_le`), but a column may come near the largest word, and the sum
is a sum of words: for a place of 2⁶⁴ or more there is no span, but a failure
(`span_begins_at_place_iff`).  Nowhere else does the span miss, and it never
leaves the source.
-/
import Inlay.Template.Error
import Mathlib.Algebra.BigOperators.Group.List.Basic
import Mathlib.Algebra.GroupWithZero.Nat

namespace Inlay.CompileError

variable {cs : List Char} {line column : UInt64}

/-! ## Lines -/

/-- The lines are the parts between line feeds. -/
theorem lines_eq_splitOn (cs : List Char) : lines cs = cs.splitOn '\n' := by
  induction cs with
  | nil => rfl
  | cons c cs ih =>
      obtain ⟨l, more, hsplit⟩ := List.exists_cons_of_ne_nil
        (List.splitOnP_ne_nil (· == '\n') cs)
      rw [List.splitOn] at ih ⊢
      rw [lines, ih, List.splitOnP_cons_eq_if_modifyHead, hsplit]
      by_cases hc : c = '\n' <;> simp [hc]

/-- The characters before a line: the lines before it, each with one line feed. -/
theorem lineStart_eq_sum (cs : List Char) (line : Nat) :
    lineStart cs line = (((cs.splitOn '\n').take (line - 1)).map (·.length + 1)).sum := by
  rw [lineStart, lines_eq_splitOn, List.sum_eq_foldl, List.foldl_map]

/-- All lines with a line feed each are the text and one line feed more. -/
theorem sum_lines (cs : List Char) :
    ((cs.splitOn '\n').map (·.length + 1)).sum = cs.length + 1 := by
  rw [← lines_eq_splitOn]
  induction cs with
  | nil => rfl
  | cons c cs ih =>
      rw [lines]
      cases hlines : lines cs with
      | nil =>
          rw [hlines] at ih
          cases ih
      | cons l more =>
          rw [hlines, List.map_cons, List.sum_cons] at ih
          by_cases hc : c = '\n'
          · simp only [hc, if_true, List.map_cons, List.sum_cons, List.length_nil,
              List.length_cons]
            omega
          · simp only [hc, if_false, List.map_cons, List.sum_cons, List.length_cons]
            omega

/-- A line begins in the source or at its end, or one past it if there is no such line. -/
theorem lineStart_le (cs : List Char) (line : Nat) : lineStart cs line ≤ cs.length + 1 := by
  have hsplit := List.sum_take_add_sum_drop ((cs.splitOn '\n').map (·.length + 1)) (line - 1)
  rw [sum_lines] at hsplit
  rw [lineStart_eq_sum, List.map_take]
  exact Nat.le.intro hsplit

/-! ## The place -/

theorem addWords_eq_ok_iff {m n : Nat} : addWords m n = .ok (m + n) ↔ m + n < 2 ^ 64 := by
  unfold addWords
  split
  · next h => exact iff_of_true rfl h
  · next h => exact iff_of_false nofun h

theorem addWords_eq_error_iff {m n : Nat} : addWords m n = .error .sum ↔ 2 ^ 64 ≤ m + n := by
  unfold addWords
  split
  · next h => exact iff_of_false nofun (Nat.not_le_of_lt h)
  · next h => exact iff_of_true rfl (Nat.le_of_not_lt h)

/-- At a place that is a word the span begins, or at the end of the source before it. -/
theorem span?_of_place {source message : String} {n : Nat}
    (h : place source.toList line column = .ok n) :
    (CompileError.syntax_ line column message).span? source =
      .ok (some ⟨min n source.toList.length,
        min (min n source.toList.length + 1) source.toList.length⟩) := by
  have hend : max source.toList.length (min n source.toList.length) = source.toList.length :=
    Nat.max_eq_left (Nat.min_le_right _ _)
  simp only [span?, h, bind, Except.bind, hend]
  rfl

/-- Without a place there is no span. -/
theorem span?_of_no_place {source message : String} {bad : Overflow}
    (h : place source.toList line column = .error bad) :
    (CompileError.syntax_ line column message).span? source = .error bad := by
  simp only [span?, h]
  rfl

/-- The span of a syntax error begins at the place of the line and column, cut to the source, and
it is one character of the source, or nothing at the end, exactly if the place is a word.  Exactly
if it is none, the sum fails. -/
theorem span_begins_at_place_iff (source : String) (line column : UInt64) (message : String) :
    let cs := source.toList
    let before := (((cs.splitOn '\n').take (max line.toNat 1 - 1)).map (·.length + 1)).sum
    let exact := before + (max column.toNat 1 - 1)
    before ≤ cs.length + 1 ∧
    ((∃ start stop,
        (CompileError.syntax_ line column message).span? source = .ok (some ⟨start, stop⟩) ∧
        start = min exact cs.length ∧ stop = min (start + 1) cs.length ∧
        start ≤ stop ∧ stop ≤ cs.length) ↔ exact < 2 ^ 64) ∧
    ((CompileError.syntax_ line column message).span? source = .error .sum ↔ 2 ^ 64 ≤ exact) := by
  intro cs before exact
  have hbefore : lineStart cs line.toNat = before := by
    have hline : max line.toNat 1 - 1 = line.toNat - 1 := by omega
    rw [lineStart_eq_sum, ← hline]
  have hplace : place cs line column = addWords before (max column.toNat 1 - 1) := by
    have hcolumn : max column.toNat 1 - 1 = column.toNat - 1 := by omega
    rw [place, hbefore, ← hcolumn]
  refine ⟨hbefore ▸ lineStart_le cs line.toNat, ?_⟩
  rcases Nat.lt_or_ge exact (2 ^ 64) with hword | hlarge
  · have hspan : (CompileError.syntax_ line column message).span? source =
        .ok (some ⟨min exact cs.length, min (min exact cs.length + 1) cs.length⟩) :=
      span?_of_place (hplace.trans (addWords_eq_ok_iff.mpr hword))
    constructor
    · refine iff_of_true ⟨_, _, hspan, rfl, rfl, ?_, Nat.min_le_right _ _⟩ hword
      exact Nat.le_min.mpr ⟨Nat.le_succ _, Nat.min_le_right _ _⟩
    · rw [hspan]
      exact iff_of_false nofun (Nat.not_le_of_lt hword)
  · have hspan : (CompileError.syntax_ line column message).span? source = .error .sum :=
      span?_of_no_place (hplace.trans (addWords_eq_error_iff.mpr hlarge))
    constructor
    · refine iff_of_false ?_ (Nat.not_lt_of_le hlarge)
      rintro ⟨start, stop, h, -⟩
      rw [hspan] at h
      cases h
    · exact iff_of_true hspan hlarge

/-- The second line begins at 3, and the largest column would be far behind the source, where the
span is empty; but the sum fails. -/
theorem largest_column_fails :
    (CompileError.syntax_ 2 18446744073709551615 "bad").span? "ab\ncdef" = .error .sum ∧
    "ab\ncdef".toList.splitOn '\n' = ["ab".toList, "cdef".toList] ∧
    min ((2 + 1) + (18446744073709551615 - 1)) "ab\ncdef".toList.length = 7 := by
  refine ⟨?_, ?_, ?_⟩
  · decide
  · decide
  · decide

end Inlay.CompileError
