/-
# `Inlay.Toml.Place` — lines and columns of a text

A place in a text is the number of characters before it.  Its line is one more
than the line feeds before it, its column one more than the characters between
the line's beginning and the place; before a character that is not ASCII the
column counts bytes.

The end of the text is placed behind its last character, on that character's
line, also where it is a line feed.
-/
import Inlay.Text.Blank

namespace Inlay.Toml

def isAscii (c : Char) : Bool := c.toNat < 128

/-- The characters behind the last line feed. -/
def lastLine (cs : List Char) : List Char := (cs.reverse.takeWhile (· ≠ '\n')).reverse

/-- Line and column of a place. -/
def lineAndColumn (text : List Char) (place : Nat) : Nat × Nat :=
  let safe := min place (text.length - 1)
  let before := text.take safe
  let line := before.count '\n' + 1
  let row := lastLine before
  let column := if (text[place]?.map isAscii).getD true then row.length else Text.utf8Length row
  (line, column + (place - safe) + 1)

end Inlay.Toml
