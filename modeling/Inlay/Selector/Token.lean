/-
# `Inlay.Selector.Token` — the tokens of a selector

White space belongs to the token it surrounds: to `>`, `,` and `=`, to what
stands behind `[` and to what stands before `]`.  A bare run of it is a token
of its own, the descendant combinator.  At each place the longest token wins,
so a run of white space before `>` is part of that token.

    child   ws* > ws*        star     *
    comma   ws* , ws*        hash     # name
    equals  ws* = ws*        dot      . name
    open    [ ws*            name     A-Z a-z 0-9 _ - and U+0080 and above
    close   ws* ]            quoted   " no " "   or   ' no ' '
    space   ws+

`scan?` takes one token and never nothing (`length_scan?`), hence `tokens`
ends with the text.
-/
import Inlay.Text.Blank

namespace Inlay.Selector

inductive Token
  | child
  | comma
  | space
  | star
  | openBracket
  | closeBracket
  | equals
  | hash (name : String)
  | dot (name : String)
  | name (s : String)
  | quoted (s : String)
  deriving Repr, DecidableEq

/-- A character of names. -/
def isNameChar (c : Char) : Bool :=
  c.isAlphanum || c = '_' || c = '-' || '\u0080' ≤ c

/-- The characters behind a run of markup spaces. -/
def dropSpace (cs : List Char) : List Char := cs.dropWhile Text.isSpace

theorem length_dropSpace_le (cs : List Char) : (dropSpace cs).length ≤ cs.length :=
  (List.dropWhile_sublist _).length_le

/-- A name and what stands behind it; a name is not empty. -/
def scanName? (cs : List Char) : Option (String × List Char) :=
  match cs.takeWhile isNameChar with
  | [] => none
  | n => some (String.ofList n, cs.dropWhile isNameChar)

/-- The text up to a closing quote and what stands behind the quote. -/
def scanQuoted? (quote : Char) (cs : List Char) : Option (String × List Char) :=
  match cs.dropWhile (· ≠ quote) with
  | [] => none
  | _ :: rest => some (String.ofList (cs.takeWhile (· ≠ quote)), rest)

/-- A token that may have white space before it, from its mark; else the white space itself,
if there was any. -/
def scanMark? (spaced : Bool) (behind : List Char) : Option (Token × List Char) :=
  match behind with
  | '>' :: rest => some (.child, dropSpace rest)
  | ',' :: rest => some (.comma, dropSpace rest)
  | '=' :: rest => some (.equals, dropSpace rest)
  | ']' :: rest => some (.closeBracket, rest)
  | _ => if spaced then some (.space, behind) else none

/-- The token at the beginning of a text and what stands behind it. -/
def scan? (cs : List Char) : Option (Token × List Char) :=
  match cs with
  | [] => none
  | '*' :: rest => some (.star, rest)
  | '[' :: rest => some (.openBracket, dropSpace rest)
  | '#' :: rest => (scanName? rest).map fun (n, r) => (.hash n, r)
  | '.' :: rest => (scanName? rest).map fun (n, r) => (.dot n, r)
  | '"' :: rest => (scanQuoted? '"' rest).map fun (s, r) => (.quoted s, r)
  | '\'' :: rest => (scanQuoted? '\'' rest).map fun (s, r) => (.quoted s, r)
  | c :: rest =>
    if isNameChar c then (scanName? cs).map fun (n, r) => (.name n, r)
    else if Text.isSpace c then scanMark? true (dropSpace rest)
    else scanMark? false cs

theorem length_scanName?_le {cs r : List Char} {n : String} (h : scanName? cs = some (n, r)) :
    r.length < cs.length := by
  simp only [scanName?] at h
  split at h
  · simp at h
  · next n' hn =>
    have hne : cs.takeWhile isNameChar ≠ [] := by
      intro h0; exact hn h0
    have hlen := congrArg List.length (List.takeWhile_append_dropWhile (p := isNameChar) (l := cs))
    rw [List.length_append] at hlen
    have hpos := List.length_pos_iff.mpr hne
    simp only [Option.some.injEq, Prod.mk.injEq] at h
    rw [← h.2]
    omega

theorem length_scanQuoted?_le {q : Char} {cs r : List Char} {s : String}
    (h : scanQuoted? q cs = some (s, r)) : r.length < cs.length := by
  simp only [scanQuoted?] at h
  split at h
  · simp at h
  · next x rest hx =>
    have hle := (List.dropWhile_sublist (l := cs) (fun x => decide (x ≠ q))).length_le
    simp only [Option.some.injEq, Prod.mk.injEq] at h
    rw [← h.2]
    rw [hx, List.length_cons] at hle
    omega

theorem length_scanMark?_lt {b : Bool} {cs r : List Char} {t : Token}
    (h : scanMark? b cs = some (t, r)) : r.length < cs.length ∨ (b = true ∧ r = cs) := by
  unfold scanMark? at h
  have hd := length_dropSpace_le
  split at h
  · next rest =>
    simp only [Option.some.injEq, Prod.mk.injEq] at h
    left; rw [← h.2, List.length_cons]; have := hd rest; omega
  · next rest =>
    simp only [Option.some.injEq, Prod.mk.injEq] at h
    left; rw [← h.2, List.length_cons]; have := hd rest; omega
  · next rest =>
    simp only [Option.some.injEq, Prod.mk.injEq] at h
    left; rw [← h.2, List.length_cons]; have := hd rest; omega
  · simp only [Option.some.injEq, Prod.mk.injEq] at h
    left; rw [← h.2, List.length_cons]; omega
  · split at h
    · next hb =>
      simp only [Option.some.injEq, Prod.mk.injEq] at h
      exact .inr ⟨hb, h.2.symm⟩
    · simp at h

/-- A token takes at least one character. -/
theorem length_scan? {cs r : List Char} {t : Token} (h : scan? cs = some (t, r)) :
    r.length < cs.length := by
  have hd := length_dropSpace_le
  unfold scan? at h
  split at h
  · simp at h
  · simp only [Option.some.injEq, Prod.mk.injEq] at h; rw [← h.2, List.length_cons]; omega
  · next rest =>
    simp only [Option.some.injEq, Prod.mk.injEq] at h
    rw [← h.2, List.length_cons]; have := hd rest; omega
  · obtain ⟨⟨n, r'⟩, hn, he⟩ := Option.map_eq_some_iff.1 h
    simp only [Prod.mk.injEq] at he
    rw [← he.2, List.length_cons]; have := length_scanName?_le hn; omega
  · obtain ⟨⟨n, r'⟩, hn, he⟩ := Option.map_eq_some_iff.1 h
    simp only [Prod.mk.injEq] at he
    rw [← he.2, List.length_cons]; have := length_scanName?_le hn; omega
  · obtain ⟨⟨n, r'⟩, hn, he⟩ := Option.map_eq_some_iff.1 h
    simp only [Prod.mk.injEq] at he
    rw [← he.2, List.length_cons]; have := length_scanQuoted?_le hn; omega
  · obtain ⟨⟨n, r'⟩, hn, he⟩ := Option.map_eq_some_iff.1 h
    simp only [Prod.mk.injEq] at he
    rw [← he.2, List.length_cons]; have := length_scanQuoted?_le hn; omega
  · next c rest _ _ _ _ _ _ =>
    split at h
    · obtain ⟨⟨n, r'⟩, hn, he⟩ := Option.map_eq_some_iff.1 h
      simp only [Prod.mk.injEq] at he
      rw [← he.2]; exact length_scanName?_le hn
    · split at h
      · have := hd rest
        rcases length_scanMark?_lt h with h | ⟨-, rfl⟩ <;> rw [List.length_cons] <;> omega
      · rcases length_scanMark?_lt h with h | ⟨h, -⟩
        · exact h
        · simp at h

/-- A token and the place, in characters, where it starts. -/
structure Placed where
  token : Token
  start : Nat
  deriving Repr, DecidableEq

/-- Split a text into tokens, counting from `start`; or the place where no token begins. -/
def tokens (start : Nat) (cs : List Char) : Except Nat (List Placed) :=
  if cs.isEmpty then .ok []
  else
    match _h : scan? cs with
    | none => .error start
    | some (t, rest) =>
      match tokens (start + (cs.length - rest.length)) rest with
      | .error e => .error e
      | .ok more => .ok (⟨t, start⟩ :: more)
termination_by cs.length
decreasing_by exact length_scan? _h

end Inlay.Selector
