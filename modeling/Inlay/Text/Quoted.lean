/-
# `Inlay.Text.Quoted` — a text in double quotes, for messages

    \t  \r  \n  \0      tab, carriage return, line feed, zero
    \"  \\              the quote and the backslash
    \u{e9}              any other character that is not printable
-/
import Inlay.Text.Printable

namespace Inlay.Text

/-- A character as a quoted text shows it. -/
def showChar (c : Char) : List Char :=
  if c = '\t' then ['\\', 't']
  else if c = '\r' then ['\\', 'r']
  else if c = '\n' then ['\\', 'n']
  else if c = '\x00' then ['\\', '0']
  else if c = '"' || c = '\\' then ['\\', c]
  else if isPrintable c then [c]
  else ['\\', 'u', '\x7b'] ++ Nat.toDigits 16 c.toNat ++ ['\x7d']

/-- The text in double quotes. -/
def quote (s : String) : String :=
  String.ofList ('"' :: s.toList.flatMap showChar ++ ['"'])

end Inlay.Text
