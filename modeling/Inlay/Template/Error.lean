/-
# `Inlay.Template.Error` — why a template cannot be compiled

A fault with a place makes a syntax error, one without an invalid template.
The span of a syntax error is the character at its line and column, in
characters from the beginning of the source.  A line or column beyond the
source is cut to its end; a line or column of zero counts as one.

Lines, columns and the place before the cut are 64-bit words.  Where the
beginning of the line and the column together pass the largest word there is no
place, and asking for the span fails.  All other numbers are of characters of
the source, and these are fewer than words can count.
-/
import Inlay.Text.Quoted
import Inlay.Template.Basic

namespace Inlay

inductive CompileError
  | syntax_ (line column : UInt64) (message : String)
  | invalid (message : String)
  deriving Repr, DecidableEq

namespace CompileError

def message : CompileError → String
  | .syntax_ _ _ m => m
  | .invalid m => m

/-- The message with its place, if there is one. -/
def display : CompileError → String
  | .syntax_ line column m =>
    "Template error at line " ++ toString line.toNat ++ ", column " ++ toString column.toNat ++
      ": " ++ m
  | .invalid m => "Template error: " ++ m

/-- The lines of a text; the last one has no line feed behind it. -/
def lines : List Char → List (List Char)
  | [] => [[]]
  | c :: cs =>
    match lines cs with
    | [] => [[c]]
    | line :: more => if c = '\n' then [] :: line :: more else (c :: line) :: more

/-- The characters before a line, each line with its line feed. -/
def lineStart (source : List Char) (line : Nat) : Nat :=
  ((lines source).take (line - 1)).foldl (fun n l => n + (l.length + 1)) 0

/-- What fails about a sum of words. -/
inductive Overflow
  | sum
  deriving Repr, DecidableEq

/-- The sum of two words, if it is a word. -/
def addWords (m n : Nat) : Except Overflow Nat :=
  if m + n < UInt64.size then .ok (m + n) else .error .sum

/-- The place of a line and column, which may lie beyond the source. -/
def place (source : List Char) (line column : UInt64) : Except Overflow Nat :=
  addWords (lineStart source line.toNat) (column.toNat - 1)

/-- The characters of the source from the first number up to the second. -/
structure Span where
  start : Nat
  stop : Nat
  deriving Repr, DecidableEq

/-- The character that a syntax error points at. -/
def span? (e : CompileError) (source : String) : Except Overflow (Option Span) :=
  match e with
  | .invalid _ => .ok none
  | .syntax_ line column _ => do
    let cs := source.toList
    let start := min (← place cs line column) cs.length
    return some ⟨start, min (start + 1) (max cs.length start)⟩

end CompileError

namespace Template

/-- What is wrong with a template. -/
inductive Fault
  | badSyntax
  | blockMismatch (opened closed : String)
  | decoratorMismatch (opened closed : String)
  | badArgument (written : String)
  deriving Repr, DecidableEq

def Fault.message : Fault → String
  | .badSyntax => "invalid handlebars syntax"
  | .blockMismatch o c =>
    "helper " ++ Text.quote o ++ " was opened, but " ++ Text.quote c ++ " is closing"
  | .decoratorMismatch o c =>
    "decorator " ++ Text.quote o ++ " was opened, but " ++ Text.quote c ++ " is closing"
  | .badArgument s => "invalid parameter " ++ Text.quote s

def Fault.at (f : Fault) (m : Mark) : CompileError :=
  .syntax_ (.ofNat m.line) (.ofNat m.column) f.message

end Template

end Inlay
