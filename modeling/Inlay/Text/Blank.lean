/-
# `Inlay.Text.Blank` — the two notions of blank, and trimming

Two sets of characters count as blank in this library, and they must not be
confused:

    isBlank   the Unicode property White_Space: what trimming removes from
              selectors, action words, option names and template keys
    isSpace   tab, line feed, form feed, carriage return and space: what
              separates the tokens of markup and the words of a class list

Every space of markup is blank, but U+00A0 is blank and no space.  Trimming keeps
everything between the first and the last character that is not blank.
-/

namespace Inlay.Text

/-- The Unicode property White_Space. -/
def isBlank (c : Char) : Bool :=
  ('\u0009' ≤ c && c ≤ '\u000d') || c = ' ' || c = '\u0085' || c = '\u00a0' || c = '\u1680' ||
    ('\u2000' ≤ c && c ≤ '\u200a') || c = '\u2028' || c = '\u2029' || c = '\u202f' ||
    c = '\u205f' || c = '\u3000'

/-- The white space of markup: tab, line feed, form feed, carriage return, space. -/
def isSpace (c : Char) : Bool :=
  c = ' ' || c = '\t' || c = '\n' || c = '\r' || c = '\u000c'

/-- The characters from the first that is not blank. -/
def dropBlank (cs : List Char) : List Char := cs.dropWhile isBlank

/-- The characters up to the last that satisfies no `p`. -/
def dropTrailing (p : Char → Bool) (cs : List Char) : List Char :=
  (cs.reverse.dropWhile p).reverse

/-- The text without its leading blanks. -/
def trimLeft (s : String) : String := String.ofList (dropBlank s.toList)

/-- The text without its trailing blanks. -/
def trimRight (s : String) : String := String.ofList (dropTrailing isBlank s.toList)

/-- The text without leading and trailing blanks. -/
def trim (s : String) : String :=
  String.ofList (dropTrailing isBlank (dropBlank s.toList))

/-- Between characters that are not blank everything is kept. -/
theorem trim_eq_self {s : String} {a b : Char} {cs : List Char} (hs : s.toList = a :: (cs ++ [b]))
    (ha : isBlank a = false) (hb : isBlank b = false) : trim s = s := by
  have hfront : dropBlank s.toList = s.toList := by
    rw [hs, dropBlank, List.dropWhile_cons_of_neg (by simp [ha])]
  have hback : dropTrailing isBlank s.toList = s.toList := by
    rw [hs, dropTrailing, ← List.cons_append, List.reverse_append, List.reverse_singleton,
      List.singleton_append, List.dropWhile_cons_of_neg (by simp [hb]), List.reverse_cons,
      List.reverse_reverse]
  rw [trim, hfront, hback, String.ofList_toList]

/-- A text of blanks only, the empty text among them. -/
def isAllBlank (s : String) : Bool := s.toList.all isBlank

/-- Bytes that the characters take in UTF-8. -/
def utf8Length (cs : List Char) : Nat := cs.foldl (fun n c => n + c.utf8Size) 0

end Inlay.Text
