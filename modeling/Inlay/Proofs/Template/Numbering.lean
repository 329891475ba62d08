/-
# `Inlay.Proofs.Template.Numbering` — places by line and column, and back

A place of a source, from 0 to its length, has a line and a column:

    line     one, and one for each line feed before the place
    column   one, and one for each character behind the last of these line feeds

Characters are counted as they are: a carriage return is one, and so is a
character of several bytes.  The compiler marks places with the same two numbers,
though it takes a carriage return and a line feed together (`markAt_eq`): a
carriage return alone begins no line, and behind the line feed the column
starts over.

The span of an error goes the other way, from line and column to a place.  It
adds the lengths of the lines before, each with its line feed, and the columns
before.  What these are depends on where the last line feed before the place
stands (`beforeLine_cases`).  If there is none, the line begins at 0 and the column
is the place.  Otherwise what is before that line feed, cut into lines, is as many
lines as the line number says (`length_splitOn`), they make up all of it
(`sum_lines`), and the columns are what is behind.  Either way the two numbers
come back to the place (`lineStart_add_column`), and so no two places have both in
common.

The sum is a sum of words, and fails if the place is none.  As line and column are
together at most two more than the place (`lineAt_add_columnAt_le`), they are
words where the place behind it is one.
-/
import Inlay.Proofs.Template.Span
import Inlay.Template.Assembly
import Mathlib.Data.List.DropRight

namespace Inlay

variable {cs init last : List Char} {p : Nat}

namespace CompileError

/-! ## Lines and columns -/

/-- The line of a place, from one. -/
def lineAt (cs : List Char) (p : Nat) : Nat := (cs.take p).count '\n' + 1

/-- The characters behind the last line feed of a text, or all of them. -/
def lastLine (cs : List Char) : List Char := cs.rtakeWhile (· ≠ '\n')

/-- The column of a place, from one. -/
def columnAt (cs : List Char) (p : Nat) : Nat := (lastLine (cs.take p)).length + 1

/-- A text has no line feed, or a last one. -/
theorem beforeLine_cases (cs : List Char) :
    '\n' ∉ cs ∨ ∃ init last, cs = init ++ '\n' :: last ∧ '\n' ∉ last := by
  by_cases h : '\n' ∈ cs
  · obtain ⟨last, init, hreverse, hlast⟩ :=
      List.eq_append_cons_of_mem (List.mem_reverse.mpr h)
    refine .inr ⟨init.reverse, last.reverse, ?_, by simpa using hlast⟩
    rw [← List.reverse_reverse cs, hreverse, List.reverse_append, List.reverse_cons,
      List.append_assoc, List.singleton_append]
  · exact .inl h

theorem lastLine_of_no_line (h : '\n' ∉ last) : lastLine last = last := by
  refine List.rtakeWhile_eq_self_iff.mpr fun c hc => ?_
  have hne : c ≠ '\n' := by
    rintro rfl
    exact h hc
  simpa using hne

theorem lastLine_behind_line (h : '\n' ∉ last) : lastLine (init ++ '\n' :: last) = last := by
  have hall : ∀ c ∈ last.reverse, decide (c ≠ '\n') = true := by
    intro c hc
    have hne : c ≠ '\n' := by
      rintro rfl
      exact h (List.mem_reverse.mp hc)
    simpa using hne
  rw [lastLine, List.rtakeWhile, List.reverse_append, List.reverse_cons, List.append_assoc,
    List.takeWhile_append_of_pos hall]
  simp

/-- The last line does not depend on what is before a line feed. -/
theorem lastLine_append (before : List Char) (h : '\n' ∈ cs) :
    lastLine (before ++ cs) = lastLine cs := by
  rcases beforeLine_cases cs with hno | ⟨init, last, rfl, hlast⟩
  · exact absurd h hno
  · rw [← List.append_assoc, lastLine_behind_line hlast, lastLine_behind_line hlast]

/-- There is one line more than there are line feeds. -/
theorem length_splitOn (cs : List Char) : (cs.splitOn '\n').length = cs.count '\n' + 1 := by
  induction cs with
  | nil => rfl
  | cons c cs ih =>
      rw [List.splitOn] at ih ⊢
      rw [List.splitOnP_cons_eq_if_modifyHead]
      by_cases hc : c = '\n' <;> simp [hc, ih]

/-- The line behind a line feed begins there. -/
theorem lineStart_behind_line (init rest : List Char) :
    lineStart (init ++ '\n' :: rest) (init.count '\n' + 2) = init.length + 1 := by
  have hsplit : (init ++ '\n' :: rest).splitOn '\n' = init.splitOn '\n' ++ rest.splitOn '\n' :=
    List.splitOnP_append_cons init rest (by decide)
  have hbefore : ((init ++ '\n' :: rest).splitOn '\n').take (init.count '\n' + 2 - 1) =
      init.splitOn '\n' := by
    rw [hsplit]
    exact List.take_left' (length_splitOn init)
  rw [lineStart_eq_sum, hbefore, sum_lines]

/-- The line of a place begins as many characters before it as its column says. -/
theorem lineStart_add_column (hp : p ≤ cs.length) :
    lineStart cs (lineAt cs p) + (columnAt cs p - 1) = p := by
  have hlength : (cs.take p).length = p := List.length_take_of_le hp
  rw [lineAt, columnAt, Nat.add_sub_cancel]
  rcases beforeLine_cases (cs.take p) with hno | ⟨init, last, hbefore, hlast⟩
  · rw [List.count_eq_zero.mpr hno, lastLine_of_no_line hno, hlength, lineStart_eq_sum]
    simp
  -- The line feed before the place is the last one there, but need not be the last of the source.
  · have hcs : cs = init ++ '\n' :: (last ++ cs.drop p) := by
      rw [← List.cons_append, ← List.append_assoc, ← hbefore, List.take_append_drop]
    have hcount : (cs.take p).count '\n' + 1 = init.count '\n' + 2 := by
      rw [hbefore, List.count_append, List.count_cons_self, List.count_eq_zero.mpr hlast]
    rw [hcount, hbefore, lastLine_behind_line hlast]
    rw [hbefore, List.length_append, List.length_cons] at hlength
    have hstart : lineStart cs (init.count '\n' + 2) = init.length + 1 := by
      rw [hcs]
      exact lineStart_behind_line init _
    omega

/-- Line feeds and the characters behind the last one are different characters. -/
theorem lineAt_add_columnAt_le (cs : List Char) (p : Nat) :
    lineAt cs p + columnAt cs p ≤ p + 2 := by
  have hlength : (cs.take p).length ≤ p := by
    rw [List.length_take]
    exact Nat.min_le_left _ _
  have hcount : ∀ pre : List Char, pre.count '\n' ≤ pre.length := fun _ => List.count_le_length
  rw [lineAt, columnAt]
  rcases beforeLine_cases (cs.take p) with hno | ⟨init, last, hbefore, hlast⟩
  · rw [List.count_eq_zero.mpr hno, lastLine_of_no_line hno]
    omega
  · rw [hbefore, lastLine_behind_line hlast, List.count_append, List.count_cons_self,
      List.count_eq_zero.mpr hlast]
    rw [hbefore, List.length_append, List.length_cons] at hlength
    have := hcount init
    omega

end CompileError

/-! ## Marks -/

namespace Template

open CompileError

/-- Behind a line feed the column is counted from 1. -/
theorem column_behind_line (before rest : List Char) :
    (if '\n' ∈ rest then (lastLine rest).length + 1 else 1 + rest.length) =
      (lastLine (before ++ '\n' :: rest)).length + 1 := by
  by_cases h : '\n' ∈ rest
  · rw [if_pos h, ← lastLine_append (before ++ ['\n']) h, List.append_assoc,
      List.singleton_append]
  · rw [if_neg h, lastLine_behind_line h, Nat.add_comm]

/-- Counting on from a mark: line feeds add to its line, and characters to its column, or else they
are counted from the last line feed. -/
theorem markAt_go_eq (m : Mark) (cs : List Char) :
    markAt.go m cs = ⟨m.line + cs.count '\n',
      if '\n' ∈ cs then (lastLine cs).length + 1 else m.column + cs.length⟩ := by
  fun_induction markAt.go m cs with
  | case1 m => simp
  | case2 m rest ih =>
      have hcount : ('\r' :: '\n' :: rest).count '\n' = rest.count '\n' + 1 := by simp
      have hmem : '\n' ∈ '\r' :: '\n' :: rest := by simp
      rw [ih, hcount, column_behind_line ['\r'] rest, if_pos hmem, Nat.add_assoc, Nat.add_comm 1]
      rfl
  | case3 m rest ih =>
      have hcount : ('\n' :: rest).count '\n' = rest.count '\n' + 1 := by simp
      have hmem : '\n' ∈ '\n' :: rest := List.mem_cons_self
      rw [ih, hcount, column_behind_line [] rest, if_pos hmem, Nat.add_assoc, Nat.add_comm 1]
      rfl
  | case4 m c rest hpair hc ih =>
      have hcount : (c :: rest).count '\n' = rest.count '\n' := List.count_cons_of_ne hc
      have hmem : '\n' ∈ c :: rest ↔ '\n' ∈ rest :=
        List.mem_cons.trans (or_iff_right (Ne.symm hc))
      rw [ih, hcount]
      congr 1
      by_cases h : '\n' ∈ rest
      · rw [if_pos h, if_pos (hmem.mpr h), ← List.singleton_append, lastLine_append [c] h]
      · rw [if_neg h, if_neg (mt hmem.mp h), List.length_cons, Nat.add_assoc, Nat.add_comm 1]

/-- The mark of a place is its line and column. -/
theorem markAt_eq (cs : List Char) (p : Nat) :
    markAt cs.toArray p = ⟨lineAt cs p, columnAt cs p⟩ := by
  have hbefore : (cs.toArray.extract 0 p).toList = cs.take p := by simp
  rw [markAt, hbefore, markAt_go_eq, lineAt, columnAt, Nat.add_comm 1]
  congr 1
  by_cases h : '\n' ∈ cs.take p
  · rw [if_pos h]
  · rw [if_neg h, lastLine_of_no_line h, Nat.add_comm 1]

end Template

/-! ## Spans -/

namespace CompileError

/-- Line and column bring an error back to the place they are of, if that is a word. -/
theorem span?_at_iff (source message : String) {line column : UInt64}
    (hp : p ≤ source.toList.length) (hline : line.toNat = lineAt source.toList p)
    (hcolumn : column.toNat = columnAt source.toList p) :
    (CompileError.syntax_ line column message).span? source =
      .ok (some ⟨p, min (p + 1) source.toList.length⟩) ↔ p < 2 ^ 64 := by
  have hsum : lineStart source.toList line.toNat + (column.toNat - 1) = p := by
    rw [hline, hcolumn, lineStart_add_column hp]
  rcases Nat.lt_or_ge p (2 ^ 64) with hword | hlarge
  · have hplace : place source.toList line column = .ok p := by
      rw [place, addWords_eq_ok_iff.mpr (hsum ▸ hword), hsum]
    refine iff_of_true ?_ hword
    rw [span?_of_place hplace, Nat.min_eq_left hp]
  · have hplace : place source.toList line column = .error .sum :=
      addWords_eq_error_iff.mpr (hsum ▸ hlarge)
    refine iff_of_false ?_ (Nat.not_lt_of_le hlarge)
    rw [span?_of_no_place hplace]
    intro h
    cases h

/-- Line and column of a place are words if the place behind it is. -/
theorem toNat_lineAt_columnAt (cs : List Char) (hp : p + 1 < 2 ^ 64) :
    (UInt64.ofNat (lineAt cs p)).toNat = lineAt cs p ∧
      (UInt64.ofNat (columnAt cs p)).toNat = columnAt cs p := by
  have hsum := lineAt_add_columnAt_le cs p
  have hline : 0 < lineAt cs p := Nat.succ_pos _
  have hcolumn : 0 < columnAt cs p := Nat.succ_pos _
  rw [UInt64.toNat_ofNat', UInt64.toNat_ofNat']
  exact ⟨Nat.mod_eq_of_lt (by omega), Nat.mod_eq_of_lt (by omega)⟩

/-- Spans undo line and column.  An error at the line and column of a place points at the character
there, or at the end of the source, exactly if the place is a word, as all places of a source in
memory are; then line and column are words as well.  No two places have the same line and column.
A fault that the compiler marks at a place points there. -/
theorem span_inverts_numbering (source message : String) :
    let cs := source.toList
    (∀ p ≤ cs.length, ∀ line column : UInt64,
      line.toNat = lineAt cs p → column.toNat = columnAt cs p →
        ((CompileError.syntax_ line column message).span? source =
          .ok (some ⟨p, min (p + 1) cs.length⟩) ↔ p < 2 ^ 64)) ∧
    (∀ p, p + 1 < 2 ^ 64 → ∃ line column : UInt64,
      line.toNat = lineAt cs p ∧ column.toNat = columnAt cs p) ∧
    (∀ p ≤ cs.length, ∀ q ≤ cs.length,
      lineAt cs p = lineAt cs q → columnAt cs p = columnAt cs q → p = q) ∧
    ∀ (f : Template.Fault) p, p ≤ cs.length → p + 1 < 2 ^ 64 →
      (f.at (Template.markAt cs.toArray p)).span? source =
        .ok (some ⟨p, min (p + 1) cs.length⟩) := by
  intro cs
  refine ⟨fun p hp line column hline hcolumn => span?_at_iff source message hp hline hcolumn,
    fun p hp => ⟨_, _, toNat_lineAt_columnAt cs hp⟩, ?_, ?_⟩
  · intro p hp q hq hline hcolumn
    rw [← lineStart_add_column hp, hline, hcolumn, lineStart_add_column hq]
  · intro f p hp hword
    obtain ⟨hline, hcolumn⟩ := toNat_lineAt_columnAt cs hword
    rw [Template.markAt_eq]
    exact (span?_at_iff source f.message hp hline hcolumn).mpr (Nat.lt_of_succ_lt hword)

/-- A carriage return is a character of its line, and a letter of two bytes is one character.  The
third line is empty, and the source ends in the fourth. -/
theorem places_of_four_lines :
    "a\r\nbé\n\nc".toList.length = 8 ∧
    (CompileError.syntax_ 1 2 "bad").span? "a\r\nbé\n\nc" = .ok (some ⟨1, 2⟩) ∧
    (CompileError.syntax_ 2 2 "bad").span? "a\r\nbé\n\nc" = .ok (some ⟨4, 5⟩) ∧
    (CompileError.syntax_ 4 2 "bad").span? "a\r\nbé\n\nc" = .ok (some ⟨8, 8⟩) ∧
    (Template.Fault.badSyntax.at (Template.markAt "a\r\nbé\n\nc".toList.toArray 6)).span?
      "a\r\nbé\n\nc" = .ok (some ⟨6, 7⟩) := by
  obtain ⟨hspan, -, -, hmark⟩ := span_inverts_numbering "a\r\nbé\n\nc" "bad"
  refine ⟨by decide, ?_, ?_, ?_, ?_⟩
  · exact (hspan 1 (by decide) 1 2 (by decide) (by decide)).mpr (by decide)
  · exact (hspan 4 (by decide) 2 2 (by decide) (by decide)).mpr (by decide)
  · exact (hspan 8 (by decide) 4 2 (by decide) (by decide)).mpr (by decide)
  · exact hmark .badSyntax 6 (by decide) (by decide)

end CompileError

end Inlay
