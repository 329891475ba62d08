/-
# `Inlay.Template.Report` — a compile error shown in its source

    Error: message
       ╭─[file:line:column]
       │
     3 │ the line, the character at fault in red
       │     ┬
       │     ╰── message
    ───╯

The frame is grey, all other text of the line light grey, and every character
is coloured on its own.  Where the error points at no character, as at the end
of the source, a bar stands in the place of the underline.  An empty source has
no line to show.

Here a line ends at a line feed, a carriage return or both together, and at
the other line and page separators of Unicode.  Blanks at the end of a line are
not shown.  A tab reaches to the next multiple of four characters.
-/
import Inlay.Text.Blank
import Inlay.Text.Width
import Inlay.Template.Error

namespace Inlay.CompileError

/-! ## Colours -/

/-- A text in a colour of the terminal. -/
def paint (colour text : String) : String := "\x1b[" ++ colour ++ "m" ++ text ++ "\x1b[0m"

def red : String := "31"

/-- The frame, its part beside lines that are not numbered, and what is not at fault. -/
def frameColour : String := "38;5;246"

def sideColour : String := "38;5;240"

def plainColour : String := "38;5;249"

/-! ## Lines -/

/-- A character that ends a line of a report. -/
def endsReportLine (c : Char) : Bool :=
  c = '\r' || c = '\n' || c = '\u000b' || c = '\u000c' || c = '\u0085' || c = '\u2028' ||
    c = '\u2029'

/-- The lines of a source, each with what ends it. -/
def reportLines : List Char → List (List Char)
  | [] => []
  | '\r' :: '\n' :: rest => ['\r', '\n'] :: reportLines rest
  | c :: rest =>
    if endsReportLine c then [c] :: reportLines rest
    else
      match rest, reportLines rest with
      | _ :: _, line :: more => (c :: line) :: more
      | _, more => [c] :: more

/-- The line of a place, from zero, the line's text and the place within it; the end of the source
belongs to its last line. -/
def locate (n : Nat) : List (List Char) → Nat → Option (Nat × List Char × Nat)
  | [], _ => none
  | [line], place => some (n, line, place)
  | line :: more, place =>
    if place < line.length then some (n, line, place) else locate (n + 1) more (place - line.length)

/-- What is drawn for the character at a place of its line, and how many columns it takes. -/
def drawn (c : Char) (place : Nat) : Char × Nat :=
  if c = '\t' then (' ', 4 - place % 4)
  else if Text.isBlank c then (' ', 1)
  else (c, Text.width c)

/-! ## The report -/

/-- The line of the source, the characters of the span in red. -/
def sourceLine (cs : List Char) (start stop : Nat) : String :=
  String.join (cs.zipIdx.map fun (c, i) =>
    let colour := if start ≤ i && i < stop then red else plainColour
    let (c, width) := drawn c i
    let one := paint colour (String.singleton c)
    if c = ' ' then String.join (List.replicate width one) else one)

/-- A row below the line: `mark` gives what is drawn at a place, first and further columns. -/
def arrowRow (cs : List Char) (length : Nat) (mark : Nat → String × String) : String :=
  String.join ((List.range length).map fun i =>
    let width := match cs[i]? with
      | some c => (drawn c i).2
      | none => 1
    let (first, more) := mark i
    String.join (List.replicate (min width 1) first) ++ String.join (List.replicate (width - 1) more))

/-- The report of an error at a span of a source. -/
def reportAt (e : CompileError) (span : Span) (source filename : String) : String :=
  let heading := paint red "Error:" ++ " " ++ e.message ++ "\n"
  match locate 0 (reportLines source.toList) span.start with
  | none => heading
  | some (n, line, start) =>
    let stop := start + (span.stop - span.start)
    let cs := Text.dropTrailing Text.isBlank line
    let number := toString (n + 1)
    let frame (s : String) := paint frameColour s
    let indent := String.ofList (List.replicate (number.length + 2) ' ')
    let side := " " ++ paint sideColour
      (String.ofList (List.replicate (number.length + 1) ' ') ++ "│") ++ " "
    let place := (start + stop) / 2
    let length := stop + 2
    let blank := (" ", " ")
    let under := arrowRow cs length fun i =>
      if start ≤ i && i < stop then
        (paint red (if i = place then "┬" else "─"), paint red "─")
      else if i = place then (paint red "│", paint red " ")
      else blank
    let arrow := arrowRow cs length fun i =>
      if i = place then (paint red "╰", paint red "─")
      else if place < i then (paint red "─", paint red "─")
      else blank
    heading ++
      indent ++ frame "╭" ++ frame "─" ++ frame "[" ++ filename ++ ":" ++ number ++ ":" ++
        toString (start + 1) ++ frame "]" ++ "\n" ++
      indent ++ frame "│" ++ "\n" ++
      " " ++ frame (number ++ " │") ++ " " ++ sourceLine cs start stop ++ "\n" ++
      side ++ under ++ "\n" ++
      side ++ arrow ++ " " ++ e.message ++ "\n" ++
      frame (String.ofList (List.replicate (number.length + 2) '─') ++ "╯") ++ "\n"

/-- The report of an error in a source; without a place it points at the beginning. -/
def report (e : CompileError) (source filename : String) : Except Overflow String := do
  let span := (← e.span? source).getD ⟨0, 0⟩
  return e.reportAt span source filename

end Inlay.CompileError
