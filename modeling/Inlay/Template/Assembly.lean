/-
# `Inlay.Template.Assembly` — from the parts of a source to a template

The grammar leaves the parts of a source in a row: text, comments and tags.
`compile` puts them together from left to right.

*White space.*  The blanks between two parts belong to no part; they are text
as well.  A tag that stands alone on its line takes the line with it: the
blanks before it are dropped from the text before, and the blanks behind it and
one line feed from the text behind.  Blocks, `else`, decorators and comments do
so; a partial leaves the blanks before it, which become the indent of all its
lines.  A tilde drops all white space on its side.

*Nesting.*  A block is closed by its own name.  `else` with a call is a block
of its own, the only element of the alternative before it, so a chain of them
is a nest of alternatives (`nest`).
-/
import Inlay.Text.Blank
import Inlay.Data.Reader
import Inlay.Template.Grammar
import Inlay.Template.Error

namespace Inlay

namespace Template

open Grammar (Derivation)

/-! ## Reading tags -/

/-- The text of a source between two places. -/
def slice (source : Array Char) (start stop : Nat) : String :=
  String.ofList (source.extract start stop).toList

/-- The steps of a path; the key `this` stands for the value at hand and is no step. -/
def steps (source : Array Char) : List (Derivation Phrase) → List Step
  | [] => []
  | n :: rest =>
    match n.rule with
    | .pathRoot => .root :: steps source rest
    | .pathUp => .up :: steps source rest
    | .pathKey | .pathRawKey =>
      let k := slice source n.start n.stop
      if k = "this" then steps source rest else .key k :: steps source rest
    | _ => steps source rest

/-- Behind `@` a path names a variable, so many blocks further out as it has `..`; without a name
it is the value at hand. -/
def pathOf (source : Array Char) (n : Derivation Phrase) : Path :=
  let raw := slice source n.start n.stop
  let all := steps source n.parts
  match n.parts with
  | first :: _ =>
    if first.rule = .pathScope then
      match all.dropWhile (· = .up) with
      | .key name :: _ => .variable (all.takeWhile (· = .up)).length name raw
      | _ => .data [] raw
    else .data all raw
  | [] => .data all raw

/-- The value of a literal.  Texts may stand in single quotes. -/
def literalOf (source : Array Char) (n : Derivation Phrase) : Except Fault Data.Value :=
  let written := slice source n.start n.stop
  let text := match n.parts with
    | [.mk .string _ _ [.mk .singleQuoted start stop _]] =>
      "\"" ++ ((slice source start stop).replace "\\'" "'").replace "\"" "\\\"" ++ "\""
    | _ => written
  match Data.Value.read text with
  | .ok v => .ok v
  | .error _ => .error (.badArgument written)

mutual

/-- An argument from the part that was read for it. -/
def argumentOf (source : Array Char) : Derivation Phrase → Except Fault Argument
  | .mk .argument _ _ parts => firstOf source parts
  | .mk .path start stop parts => .ok (.path (pathOf source (.mk .path start stop parts)))
  | .mk .literal start stop parts => (literalOf source (.mk .literal start stop parts)).map .literal
  | .mk .call _ _ parts => (callOf source parts).map .call
  | .mk _ start stop _ => .ok (.word (slice source start stop))

def firstOf (source : Array Char) : List (Derivation Phrase) → Except Fault Argument
  | [] => .ok (.word "")
  | n :: _ => argumentOf source n

/-- A call from its name and what follows. -/
def callOf (source : Array Char) : List (Derivation Phrase) → Except Fault Call
  | [] => .ok (.mk (.word "") [] [])
  | n :: rest => do
    let name ← argumentOf source n
    let (inputs, options) ← inputsOf source rest
    .ok (.mk name inputs (options.foldl (fun acc o => Data.putField o.1 o.2 acc) []))

def inputsOf (source : Array Char) :
    List (Derivation Phrase) → Except Fault (List Argument × List (String × Argument))
  | [] => .ok ([], [])
  | .mk .argument _ _ parts :: rest => do
    let a ← firstOf source parts
    let (inputs, options) ← inputsOf source rest
    .ok (a :: inputs, options)
  | .mk .option _ _ parts :: rest => do
    let o ← optionOf source parts
    let (inputs, options) ← inputsOf source rest
    .ok (inputs, o :: options)
  | _ :: rest => inputsOf source rest

def optionOf (source : Array Char) : List (Derivation Phrase) → Except Fault (String × Argument)
  | [] => .ok ("", .word "")
  | key :: rest => do
    let a ← firstOf source rest
    .ok (slice source key.start key.stop, a)

end

/-- What stands in a tag. -/
structure Tag where
  call : Call
  names : List String
  trimBefore : Bool
  trimAfter : Bool

/-- Read a tag; the mark of an `else` with a call is not part of the call. -/
def tagOf (source : Array Char) (n : Derivation Phrase) : Except Fault Tag := do
  let content := n.parts.filter fun p =>
    !(p.rule == .trimBefore || p.rule == .trimAfter || p.rule == .names ||
      (p.rule == .otherwiseMark && n.rule == .otherwiseCall))
  let call ← callOf source content
  let names := (n.parts.filter (·.rule == .names)).flatMap fun p =>
    p.parts.map fun w => slice source w.start w.stop
  .ok ⟨call, names, n.parts.any (·.rule == .trimBefore), n.parts.any (·.rule == .trimAfter)⟩

/-! ## White space -/

/-- A blank within a line. -/
def isLineBlank (c : Char) : Bool := c = ' ' || c = '\t'

def isLineEnd (c : Char) : Bool := c = '\n' || c = '\r'

/-- Only blanks stand before a place in its line. -/
def startsLine (before : List Char) : Bool :=
  match before.reverse.dropWhile isLineBlank with
  | [] => true
  | c :: _ => isLineEnd c

/-- Only blanks stand behind a place in its line, and the line ends. -/
def endsLine (behind : List Char) : Bool :=
  match behind.dropWhile isLineBlank with
  | [] => false
  | c :: _ => isLineEnd c

/-- The text without its leading blanks and one line feed behind them. -/
def dropLineRest (s : String) : String :=
  match s.toList.dropWhile isLineBlank with
  | '\r' :: '\n' :: rest => String.ofList rest
  | '\n' :: rest => String.ofList rest
  | rest => String.ofList rest

def dropTrailingBlanks (s : String) : String :=
  String.ofList (Text.dropTrailing isLineBlank s.toList)

/-- The place of a character of the source; a carriage return before a line feed belongs to it. -/
def markAt (source : Array Char) (place : Nat) : Mark :=
  go ⟨1, 1⟩ (source.extract 0 place).toList
where
  go (m : Mark) : List Char → Mark
    | [] => m
    | '\r' :: '\n' :: rest => go ⟨m.line + 1, 1⟩ rest
    | '\n' :: rest => go ⟨m.line + 1, 1⟩ rest
    | _ :: rest => go ⟨m.line, m.column + 1⟩ rest

/-! ## Putting the parts together -/

abbrev Row := List (Element × Option Mark)

/-- A finished part of a block: the call that guards it, if it has one, and its elements. -/
structure Branch where
  guard : Option (Tag × Bool)
  body : Template

/-- A block that is not closed yet. -/
structure OpenBlock where
  tag : Tag
  ownLine : Bool
  mark : Mark
  branches : List Branch
  guard : Option (Tag × Bool)
  around : Row

/-- The work so far: the elements of the innermost body, last first, the blocks around it, the
place behind the last part, and what the next text loses. -/
structure Work where
  row : Row
  blocks : List OpenBlock
  behind : Nat
  trimAll : Bool
  trimLine : Bool

namespace Work

def push (w : Work) (e : Element) (m : Mark) : Work := { w with row := (e, some m) :: w.row }

/-- Change the text that the row ends with, if it ends with one. -/
def editLast (w : Work) (f : String → String) : Work :=
  match w.row with
  | (.text s, m) :: rest => { w with row := (.text (f s), m) :: rest }
  | _ => w

def body (w : Work) : Template := .mk none w.row.reverse

/-- The text in front of a part that no part took. -/
def takeGap (w : Work) (source : Array Char) (start : Nat) : Work :=
  if start = w.behind || w.trimAll then w
  else
    let s := slice source w.behind start
    { w.push (.text (if w.trimLine then dropLineRest s else s)) (markAt source start) with
      trimLine := false }

/-- A text without the backslashes that keep braces from being a tag. -/
def plain (source : Array Char) (start stop : Nat) (escapes : List (Derivation Phrase)) : String :=
  let skipped := escapes.map (·.start)
  let cs := (source.extract start stop).toList
  if skipped.isEmpty then String.ofList cs
  else String.ofList ((cs.zipIdx start).filterMap fun (c, i) =>
    if skipped.contains i then none else some c)

/-- What is left of a text behind a tag. -/
def trimmed (w : Work) (s : String) : String :=
  if w.trimAll then Text.trimLeft s
  else if w.trimLine then dropLineRest s
  else s

/-- A tag at its place: a tilde before it trims the text before. -/
def enter (w : Work) (t : Tag) : Work :=
  { (if t.trimBefore then w.editLast Text.trimRight else w) with trimAll := t.trimAfter }

/-- Whether a part stands alone on its line; then the text behind it loses the rest of the line,
and the text before it the blanks, unless they are kept as an indent. -/
def standAlone (w : Work) (source : Array Char) (start stop : Nat) (keepIndent : Bool) : Work :=
  let before := (source.extract 0 start).toList
  let behind := (source.extract stop source.size).toList
  if endsLine behind then
    let leads := startsLine before
    { (if leads && !keepIndent then w.editLast dropTrailingBlanks else w) with trimLine := leads }
  else { w with trimLine := false }

/-- Open a block. -/
def openBlock (w : Work) (t : Tag) (m : Mark) : Work :=
  { w with
    row := []
    blocks := ⟨t, w.trimLine && !t.trimBefore, m, [], none, w.row⟩ :: w.blocks }

/-- Finish a part of the innermost block and begin the next one, behind `guard`. -/
def otherwise (w : Work) (guard : Option (Tag × Bool)) : Work :=
  match w.blocks with
  | [] => w
  | b :: rest =>
    { w with
      row := []
      blocks := { b with branches := ⟨b.guard, w.body⟩ :: b.branches, guard } :: rest }

end Work

/-- The alternatives of a block, outermost first, as a nest. -/
def nest : List Branch → Option Template
  | [] => none
  | ⟨none, body⟩ :: _ => some body
  | ⟨some (t, ownLine), body⟩ :: rest =>
    some (.mk none [(.block t.call t.names ownLine body (nest rest), none)])

namespace Work

/-- Close the innermost block with what `make` builds from it and its finished branches. -/
def close (w : Work) (make : OpenBlock → Template → List Branch → Except CompileError Element) :
    Except CompileError Work :=
  match w.blocks with
  | [] => .ok w
  | b :: rest =>
    match (⟨b.guard, w.body⟩ :: b.branches).reverse with
    | [] => .ok w
    | first :: more => do
      let e ← make b first.body more
      .ok { w with row := (e, some b.mark) :: b.around, blocks := rest }

end Work

/-- The name of a call, for a message. -/
def shownName (c : Call) : String := (c.name.ownName?).getD "(...)"

/-- A closing tag must repeat the name that the block was opened with. -/
def checkName (fault : String → String → Fault) (m : Mark) (opened closed : Call) :
    Except CompileError Unit :=
  if opened.name.ownName? = closed.name.ownName? then .ok ()
  else .error ((fault (shownName opened) (shownName closed)).at m)

/-- Take the next part of the source. -/
def step (source : Array Char) (w : Work) (n : Derivation Phrase) : Except CompileError Work := do
  let start := n.start
  let stop := n.stop
  let m := markAt source start
  let reading {α : Type} (r : Except Fault α) : Except CompileError α :=
    r.mapError fun f => .invalid f.message
  let next ← match n.rule with
    | .text =>
      let s := Work.plain source w.behind stop n.parts
      .ok { w.push (.text (w.trimmed s)) m with trimLine := false }
    | .verbatim =>
      let s := Work.plain source start stop n.parts
      .ok { w.push (.text (w.trimmed s)) m with trimLine := false }
    | .comment | .longComment =>
      let w := (w.takeGap source start).standAlone source start stop false
      .ok (w.push .comment m)
    | .value | .unescaped => do
      let t ← reading (tagOf source n)
      .ok (((w.takeGap source start).enter t).push (.value (n.rule == .value) t.call) m)
    | .decorator => do
      let t ← reading (tagOf source n)
      let w := ((w.takeGap source start).enter t).standAlone source start stop false
      .ok (w.push (.decorator t.call none) m)
    | .inclusion => do
      let t ← reading (tagOf source n)
      let w := ((w.takeGap source start).enter t).standAlone source start stop true
      let blanks := ((source.extract 0 start).toList.reverse.takeWhile isLineBlank).reverse
      let indent := if t.trimBefore || blanks.isEmpty then none else some (String.ofList blanks)
      .ok (w.push (.inclusion t.call indent none) m)
    | .blockOpen | .verbatimOpen | .decoratorOpen | .inclusionOpen => do
      let t ← reading (tagOf source n)
      .ok ((((w.takeGap source start).enter t).standAlone source start stop false).openBlock t m)
    | .otherwise => do
      let t ← reading (tagOf source n)
      .ok ((((w.takeGap source start).enter t).standAlone source start stop false).otherwise none)
    | .otherwiseCall => do
      let t ← reading (tagOf source n)
      let w := ((w.takeGap source start).enter t).standAlone source start stop false
      .ok (w.otherwise (some (t, w.trimLine && !t.trimBefore)))
    | .blockClose | .verbatimClose => do
      let t ← reading (tagOf source n)
      let w := ((w.takeGap source start).enter t).standAlone source start stop false
      w.close fun b body more => do
        checkName .blockMismatch m b.tag.call t.call
        .ok (.block b.tag.call b.tag.names b.ownLine body (nest more))
    | .decoratorClose => do
      let t ← reading (tagOf source n)
      let w := ((w.takeGap source start).enter t).standAlone source start stop false
      w.close fun b body _ => do
        checkName .decoratorMismatch m b.tag.call t.call
        .ok (.decorator b.tag.call (some body))
    | .inclusionClose => do
      let t ← reading (tagOf source n)
      let w := ((w.takeGap source start).enter t).standAlone source start stop false
      w.close fun b body _ => do
        checkName .decoratorMismatch m b.tag.call t.call
        .ok (.inclusion b.tag.call none (some body))
    | _ => .ok (w.takeGap source start)
  .ok { next with behind := stop }

mutual

/-- The parts of a source in a row, those of nested bodies among them. -/
def row : Derivation Phrase → List (Derivation Phrase)
  | .mk .body _ _ parts => rows parts
  | n => [n]

def rows : List (Derivation Phrase) → List (Derivation Phrase)
  | [] => []
  | n :: ns => row n ++ rows ns

end

/-- Compile a source into a template with a title. -/
def compile (title : String) (source : String) : Except CompileError Template := do
  let cs := source.toList
  let chars := cs.toArray
  match parts cs with
  | .error place => .error (Fault.badSyntax.at (markAt chars place))
  | .ok nodes =>
    let w ← (rows nodes).foldlM (step chars) ⟨[], [], 0, false, false⟩
    .ok (.mk (some title) w.row.reverse)

end Template

end Inlay
