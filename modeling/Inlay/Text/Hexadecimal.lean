/-
# `Inlay.Text.Hexadecimal` — numbers and ranges to the base sixteen

A table of characters is a list of lines; each line holds ranges with a space
between them, and a range is one number or two with a hyphen between them.
-/

namespace Inlay.Text

/-- A hexadecimal number in lower case. -/
def hexadecimal (s : String) : Nat :=
  s.toList.foldl (fun acc c => acc * 16 + (if c.isDigit then c.toNat - 48 else c.toNat - 87)) 0

/-- The ranges of a table, each with its first and last number. -/
def ranges (table : List String) : List (Nat × Nat) :=
  (table.flatMap fun line => line.splitOn " ").map fun entry =>
    match entry.splitOn "-" with
    | [a, b] => (hexadecimal a, hexadecimal b)
    | _ => (hexadecimal entry, hexadecimal entry)

/-- A character whose number is in one of the ranges. -/
def inRanges (c : Char) (rs : List (Nat × Nat)) : Bool :=
  rs.any fun (a, b) => a ≤ c.toNat && c.toNat ≤ b

end Inlay.Text
