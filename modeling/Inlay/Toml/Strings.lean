/-
# `Inlay.Toml.Strings` — blanks, comments, line ends and strings

    blank       spaces and tabs
    comment     # and what follows on the line, control characters excepted
    line end    LF or CR LF
    "…"         a string with escapes
    '…'         a string of the characters that stand there
    triple      the same over several lines; a line end behind the opening
                quotes is no part of it, and up to two quotes may stand before
                the closing ones

A bad escape is refused behind its letter, or at a letter that is not ASCII;
the digits of a code are refused at the first of them.  In a string over
several lines a backslash at the end of a line takes all blanks and line ends
that follow.
-/
import Inlay.Toml.Read

namespace Inlay.Toml

open Read

/-! ## Character classes -/

def isBlank (c : Char) : Bool := c = ' ' || c = '\t'

/-- A tab, or a character that is no control character. -/
def isPlain (c : Char) : Bool := c = '\t' || (' ' ≤ c && c ≠ '\u007f')

/-- What may stand between single quotes. -/
def isLiteral (c : Char) : Bool := isPlain c && c ≠ '\''

/-- What may stand between double quotes without escape. -/
def isUnescaped (c : Char) : Bool := isPlain c && c ≠ '"' && c ≠ '\\'

def isHexDigit (c : Char) : Bool :=
  c.isDigit || ('a' ≤ c && c ≤ 'f') || ('A' ≤ c && c ≤ 'F')

/-- The value of a digit to a base of at most sixteen. -/
def digitValue (c : Char) : Nat :=
  if c.isDigit then c.toNat - 48 else if 'a' ≤ c then c.toNat - 87 else c.toNat - 55

/-- The value of digits to a base; underscores do not count. -/
def valueOf (base : Nat) (cs : List Char) : Nat :=
  (cs.filter (· ≠ '_')).foldl (fun n c => n * base + digitValue c) 0

/-! ## Blanks and comments -/

def blank : Read Unit := do
  let _ ← run isBlank 0 none

def newline : Read Unit := orElse (text "\n") (text "\r\n")

def comment : Read Unit := do
  char '#'
  let _ ← run isPlain 0 none

/-- The end of a line or of the text. -/
def lineEnd : Read Unit := orElse newline done

/-- What may follow on a line. -/
def trailing : Read Unit := do
  blank
  let _ ← opt comment
  lineEnd

/-- A comment or a line end, whichever the next character begins; nothing before others. -/
def gapPart : Read Bool := do
  blank
  match ← next? with
  | some '#' =>
    comment
    newline
    pure true
  | some '\n' =>
    newline
    pure true
  | some '\r' =>
    char '\r'
    char '\n'
    pure true
  | _ => pure false

/-- Blanks, comments and line ends, `n` lines at the most. -/
def gapUpTo : Nat → Read Unit
  | 0 => pure ()
  | n + 1 => do
    if ← gapPart then gapUpTo n else pure ()

def gap : Read Unit := fun c => gapUpTo (c.rest.length + 1) c

/-! ## Escapes -/

/-- A character by its code in `n` hexadecimal digits. -/
def code (n : Nat) : Read Char :=
  checked (run isHexDigit 0 (some n)) fun cs =>
    let v := valueOf 16 cs
    if cs.length = n && (v < 0xd800 || (0xdfff < v && v < 0x110000)) then some (Char.ofNat v)
    else none

/-- The next character is no letter of an escape. -/
def badEscape : Read Char := fun c =>
  match c.rest with
  | x :: rest => if x.toNat < 128 then .cut ⟨rest, c.place + 1⟩ else .cut c
  | [] => .back c

/-- What follows a backslash. -/
def escapeLetter : Read Char := do
  match ← next? with
  | some 'b' => letter 'b' '\u0008'
  | some 't' => letter 't' '\t'
  | some 'n' => letter 'n' '\n'
  | some 'f' => letter 'f' '\u000c'
  | some 'r' => letter 'r' '\r'
  | some '"' => letter '"' '"'
  | some '\\' => letter '\\' '\\'
  | some 'u' =>
    char 'u'
    must (code 4)
  | some 'U' =>
    char 'U'
    must (code 8)
  | _ => badEscape
where
  letter (x stands : Char) : Read Char := do
    char x
    pure stands

def escape : Read Char := do
  char '\\'
  escapeLetter

/-! ## Strings on one line -/

/-- A row of characters as they stand, or one by its escape. -/
def basicPart : Read (List Char) :=
  orElse (run isUnescaped 1 none) (do pure [← escape])

def basicString : Read String := do
  char '"'
  let parts ← many basicPart
  must (char '"')
  pure (String.ofList parts.flatten)

def literalString : Read String := do
  char '\''
  let cs ← run isLiteral 0 none
  must (char '\'')
  pure (String.ofList cs)

/-! ## Strings over several lines -/

/-- A backslash, the rest of its line and the blank lines behind it. -/
def joinedLine : Read Unit := do
  char '\\'
  blank
  newline
  let _ ← many (orElse newline (do let _ ← run isBlank 1 none))

def lineBreak : Read (List Char) := do
  newline
  pure ['\n']

/-- A part of a string with escapes. -/
def longBasicPart : Read (List Char) :=
  first [
    run isUnescaped 1 none,
    do
      joinedLine
      let _ ← many joinedLine
      pure [],
    do pure [← escape],
    lineBreak]

/-- A part of a string without escapes. -/
def longLiteralPart : Read (List Char) :=
  orElse (do pure [← one isLiteral]) lineBreak

/-- Two quotes or one, if what follows them matches. -/
def quotesBefore (quote : Char) (follows : Read Unit) : Read (List Char) :=
  orElse (of [quote, quote]) (of [quote])
where
  of (qs : List Char) : Read (List Char) := do
    text (String.ofList qs)
    ahead follows
    pure qs

/-- The content of a string between triple quotes. -/
def longContent (quote : Char) (part : Read (List Char)) : Read (List Char) := do
  let begun ← many part
  let more ← many do
    let qs ← quotesBefore quote (do let _ ← part)
    let parts ← many part
    pure (qs ++ parts.flatten)
  let final ← opt (quotesBefore quote (text (String.ofList [quote, quote, quote])))
  pure (begun.flatten ++ more.flatten ++ final.getD [])

def longString (quote : Char) (part : Read (List Char)) : Read String := do
  let quotes := text (String.ofList [quote, quote, quote])
  quotes
  let _ ← opt newline
  let cs ← must (longContent quote part)
  must quotes
  pure (String.ofList cs)

/-- A string of any of the four forms. -/
def string : Read String :=
  first [longString '"' longBasicPart, basicString, longString '\'' longLiteralPart, literalString]

end Inlay.Toml
