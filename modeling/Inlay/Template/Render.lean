/-
# `Inlay.Template.Render` — rendering a template with data

The elements are rendered in order, each adding to the text written so far.
The rendering knows

    blocks      the blocks around, innermost first
    partials    the partials that decorators have defined
    bodies      the bodies of the inclusions around, and how many of the inner
                ones are out of reach
    plain       whether values are written without escaping
    indent      what stands before each line within an indented partial

A fault gets the place of the innermost element that has one, and the title of
the innermost template that has one.  A partial changes none of what is known
outside of it; what it leaves is its text and where in a line the text ends.

Each call takes one unit of fuel, of which `render` gives `depthLimit`; only a
partial that includes itself without end can use it up.
-/
import Inlay.Template.Helper

namespace Inlay

namespace Template

open Data (Value)

/-! ## State -/

structure Rendering where
  out : String
  blocks : List Block
  partials : List (String × Template)
  bodies : List Template
  outOfReach : Nat
  title : Option String
  plain : Bool
  indent : Option String
  /-- Something was written since the innermost block began. -/
  written : Bool
  /-- The text ends with a line. -/
  lineEnded : Bool
  /-- The next text begins with the indent. -/
  indentNext : Bool

/-- A fault, where it arose and in which template. -/
structure Failure where
  fault : RenderFault
  mark : Option Mark
  title : Option String
  deriving Repr, DecidableEq

abbrev Render := StateT Rendering (Except Failure)

def fail {α : Type} (f : RenderFault) : Render α := throw ⟨f, none, none⟩

def lift {α : Type} : Except RenderFault α → Render α
  | .ok a => pure a
  | .error f => fail f

/-- Complete the place and the title of a failure. -/
def Failure.within (f : Failure) (mark : Option Mark) (title : Option String) : Failure :=
  { f with mark := f.mark <|> mark, title := f.title <|> title }

def annotate {α : Type} (mark : Option Mark) (title : Option String) (r : Render α) : Render α :=
  fun s => (r s).mapError (·.within mark title)

/-- The indent behind every line feed but a last one and those before an empty line. -/
def indentLines (indent : List Char) : List Char → List Char
  | [] => []
  | '\n' :: rest =>
    match rest with
    | [] => ['\n']
    | c :: _ =>
      if c = '\n' || c = '\r' then '\n' :: indentLines indent rest
      else '\n' :: indent ++ indentLines indent rest
  | c :: rest => c :: indentLines indent rest

/-- Write a text, indented within an indented partial. -/
def write (s : String) : Render Unit := modify fun r =>
  if s.isEmpty then r
  else
    let cs := s.toList
    let lineEnd (c : Option Char) : Bool := c = some '\n' || c = some '\r'
    let text := match r.indent with
      | none => s
      | some indent =>
        let body := String.ofList (indentLines indent.toList cs)
        if r.indentNext && !lineEnd cs.head? then indent ++ body else body
    let ended := lineEnd cs.getLast?
    { r with out := r.out ++ text, written := true, lineEnded := ended, indentNext := ended }

/-- Write a value as the tag demands. -/
def writeValue (v : Value) : Render Unit := do
  let s := shown v
  write (if (← get).plain then s else escape s)

/-- Run a block with its own account of what was written. -/
def asBlock (ownLine : Bool) (r : Render Unit) : Render Unit := do
  let before ← get
  set { before with
    written := false
    indentNext := before.indentNext || (ownLine && before.lineEnded) }
  r
  modify fun s =>
    if s.written then { s with indentNext := s.lineEnded }
    else { s with written := before.written, indentNext := before.indentNext }

/-- Run with one more block around. -/
def inBlock (b : Block) (r : Render Unit) : Render Unit := do
  modify fun s => { s with blocks := b :: s.blocks }
  r
  modify fun s => { s with blocks := s.blocks.tail }

/-! ## Rendering -/

/-- What a rendering starts from. -/
structure Source where
  template : Template
  data : Value

/-- The name of the body that an inclusion hands to its partial. -/
def bodyName : String := "@partial-block"

/-- The variables of a member of a list or record, `i` of `n`. -/
def memberVariables (i n : Nat) (key : Option String) : List (String × Value) :=
  let fixed : List (String × Value) :=
    [("first", .bool (i = 0)), ("last", .bool (i + 1 = n)), ("index", .number (.int i))]
  match key with
  | some k => fixed ++ [("key", .string k)]
  | none => fixed

/-- The block of a member, with the names for the member and its key. -/
def memberBlock (f : Found) (names : List String) (i n : Nat) (key : String) (keyValue : Value)
    (isRecord : Bool) (v : Value) : Block :=
  let named : List (String × Named) := match names with
    | [] => []
    | [item] => [(item, f.memberName v)]
    | item :: k :: _ =>
      if item = k then [(k, .value keyValue)]
      else [(item, f.memberName v), (k, .value keyValue)]
  { f.memberBlock key v with
    names := named
    locals := memberVariables i n (if isRecord then some key else none) }

/-- The members of a list or record with their blocks. -/
def memberBlocks (f : Found) (names : List String) : List Block :=
  match f.value with
  | .array items => items.zipIdx.map fun (v, i) =>
      memberBlock f names i items.length (toString i) (.number (.int i)) false v
  | .object fields => fields.zipIdx.map fun ((k, v), i) =>
      memberBlock f names i fields.length k (.string k) true v
  | _ => []

/-- A list or a record. -/
def hasMembers : Value → Bool
  | .array _ | .object _ => true
  | _ => false

/-- The block of `with`, which may name its value. -/
def withBlock (f : Found) (names : List String) : Block :=
  match names with
  | [item] => { f.block with names := [(item, f.memberName f.value)] }
  | _ => f.block

/-- The blocks inside a partial: those around it, or only one if it is given a value or options. -/
def partialBlocks (data : Value) (blocks : List Block) (g : Given) : Except RenderFault (List Block) :=
  let chosen : Option Block := match g.inputs with
    | .inData _ path :: _ => some ⟨path, none, [], []⟩
    | _ => none
  if g.options.isEmpty then
    .ok (match chosen with
      | some b => [b]
      | none => blocks)
  else
    let b := chosen.getD (blocks.headD Block.outermost)
    match findPath data [b] [] with
    | .error key => .error (.badIndex key)
    | .ok f =>
      let base := match f.value with
        | .object fields => fields
        | _ => []
      let merged := g.options.foldl (fun acc o => Data.putField o.1 o.2.value acc) base
      .ok [{ b with value := some (.object merged) }]

/-- A block helper that is called for a value shows nothing, but demands what it needs. -/
def checkSilent (h : Helper) (g : Given) : Except RenderFault Unit :=
  match h with
  | .ifHolds _ => (g.input "if" 0).map fun _ => ()
  | .each => (g.input "each" 0).map fun _ => ()
  | .within => (g.input "with" 0).map fun _ => ()
  | .log => checkLevel g
  | _ => .ok ()

mutual

/-- The name that an argument gives to a call. -/
def nameOf (src : Source) (fuel : Nat) (a : Argument) : Render String :=
  match fuel with
  | 0 => fail .tooDeep
  | fuel + 1 =>
    match a with
    | .word s => pure s
    | .path p => pure p.raw
    | .literal v => pure (shown v)
    | .call c => do pure (shown (← find src fuel (.call c)).value)
termination_by structural fuel

/-- What an argument denotes. -/
def find (src : Source) (fuel : Nat) (a : Argument) : Render Found :=
  match fuel with
  | 0 => fail .tooDeep
  | fuel + 1 =>
    match a with
    | .word _ => pure .missing
    | .path p => do lift ((p.find src.data (← get).blocks).mapError .badIndex)
    | .literal v => pure (.apart v)
    | .call c => do
      let name ← nameOf src fuel c.name
      let g ← given src fuel c
      match Helper.named? name with
      | none => fail (.helperNotFound name)
      | some h =>
        match ← lift (h.answer? g) with
        | some f => pure f
        | none => do
          lift (checkSilent h g)
          pure (.apart (.string ""))
termination_by structural fuel

/-- Everything that a call is given. -/
def given (src : Source) (fuel : Nat) (c : Call) : Render Given :=
  match fuel with
  | 0 => fail .tooDeep
  | fuel + 1 => do
    let inputs ← c.inputs.mapM fun a => find src fuel a
    let options ← c.options.mapM fun (k, a) => do pure (k, ← find src fuel a)
    pure ⟨inputs, options⟩
termination_by structural fuel

end

/-- The one decorator defines a partial. -/
def decorate (src : Source) (fuel : Nat) (c : Call) (body : Option Template) : Render Unit := do
  let name ← nameOf src fuel c.name
  let g ← given src fuel c
  if name ≠ "inline" then fail (.decoratorNotFound name)
  match (← lift (g.input "inline" 0)).value, body with
  | .string partialName, some t =>
    modify fun s => { s with partials := (partialName, t) :: s.partials }
  | .string _, none => fail .bodyRequired
  | _, _ => fail .textRequired

mutual

def renderAll (src : Source) (fuel : Nat) (title : Option String) :
    List (Element × Option Mark) → Render Unit :=
  match fuel with
  | 0 => fun _ => fail .tooDeep
  | fuel + 1 => fun elements => elements.forM fun (e, mark) =>
      annotate mark title (renderElement src fuel e)
termination_by structural fuel

/-- Render a template; one without a title hides the title of the template around it. -/
def renderTemplate (src : Source) (fuel : Nat) (t : Template) : Render Unit :=
  match fuel with
  | 0 => fail .tooDeep
  | fuel + 1 => do
    modify fun s => { s with title := t.title }
    renderAll src fuel t.title t.elements
termination_by structural fuel

def renderElement (src : Source) (fuel : Nat) (e : Element) : Render Unit :=
  match fuel with
  | 0 => fail .tooDeep
  | fuel + 1 =>
    match e with
    | .text s => write s
    | .comment => pure ()
    | .value escaped c => do
      if !escaped then modify fun s => { s with plain := true }
      renderValue src fuel c
      if !escaped then modify fun s => { s with plain := false }
    | .block c names ownLine body otherwise =>
      renderHelper src fuel c names ownLine (some body) otherwise
    | .decorator c body => decorate src fuel c body
    | .inclusion c indent body => includePartial src fuel c indent body
termination_by structural fuel

/-- A bare name is a helper, or else a path; anything with inputs is a helper. -/
def renderValue (src : Source) (fuel : Nat) (c : Call) : Render Unit :=
  match fuel with
  | 0 => fail .tooDeep
  | fuel + 1 => do
    let isHelper : Bool ← if c.isBare then do
        pure (Helper.named? (← nameOf src fuel c.name)).isSome
      else pure true
    if isHelper then renderHelper src fuel c [] false none none
    else
      match ← find src fuel c.name with
      | .missing => pure ()
      | f => writeValue f.value
termination_by structural fuel

/-- Call a helper, with the bodies that a block has for it. -/
def renderHelper (src : Source) (fuel : Nat) (c : Call) (names : List String) (ownLine : Bool)
    (body otherwise : Option Template) : Render Unit :=
  match fuel with
  | 0 => fail .tooDeep
  | fuel + 1 => do
    let name ← nameOf src fuel c.name
    let g ← given src fuel c
    match Helper.named? name with
    | none => fail (.helperNotFound name)
    | some h => asBlock ownLine (callHelper src fuel h g names body otherwise)
termination_by structural fuel

def callHelper (src : Source) (fuel : Nat) (h : Helper) (g : Given) (names : List String)
    (body otherwise : Option Template) : Render Unit :=
  match fuel with
  | 0 => fail .tooDeep
  | fuel + 1 =>
    let branch (holds : Bool) : Render Unit :=
      match (if holds then body else otherwise) with
      | some t => renderTemplate src fuel t
      | none => pure ()
    match h with
    | .ifHolds wanted => do
      let x ← lift (g.input "if" 0)
      branch (isTrue g.includesZero x.value == wanted)
    | .each => do
      let f ← lift (g.input "each" 0)
      match body with
      | none => pure ()
      | some t =>
        if hasMembers f.value && (isTrue false f.value || otherwise.isNone) then
          (memberBlocks f names).forM fun b => inBlock b (renderTemplate src fuel t)
        else branch false
    | .within => do
      let f ← lift (g.input "with" 0)
      if isTrue false f.value then inBlock (withBlock f names) (branch true)
      else branch false
    | .raw => branch true
    | .log => lift (checkLevel g)
    | h => do
      match body, ← lift (h.truth? g) with
      | some _, some b => branch b
      | _, _ =>
        match ← lift (h.answer? g) with
        | some f => writeValue f.value
        | none => pure ()
termination_by structural fuel

/-- Render a partial: one that a decorator defined, the template itself, or else the body that
stands in the inclusion. -/
def includePartial (src : Source) (fuel : Nat) (c : Call) (indent : Option String)
    (body : Option Template) : Render Unit :=
  match fuel with
  | 0 => fail .tooDeep
  | fuel + 1 => do
    let name ← nameOf src fuel c.name
    let g ← given src fuel c
    if let some t := body then
      t.elements.forM fun (e, mark) =>
        match e with
        | .decorator c inner => annotate mark t.title (decorate src fuel c inner)
        | _ => pure ()
    let before ← get
    if before.title = some name then fail .includesItself
    let isBody := name = bodyName
    let defined : Option Template :=
      if isBody then before.bodies[before.outOfReach]?
      else (before.partials.find? (·.1 = name)).map (·.2)
    let registered : Option Template :=
      if src.template.title = some name then some src.template else none
    match defined <|> registered <|> body with
    | none => fail (if isBody then .bodyNotFound else .partialNotFound name)
    | some t =>
      let blocks ← lift (partialBlocks src.data before.blocks g)
      set { before with
        blocks
        bodies := body.toList ++ before.bodies
        outOfReach := if isBody then before.outOfReach + 1 else before.outOfReach - 1
        indent := match before.indent, indent with
          | some a, some b => some (a ++ b)
          | a, b => a <|> b }
      renderTemplate src fuel t
      modify fun s => { before with
        out := s.out
        written := s.written
        lineEnded := s.lineEnded
        indentNext := s.indentNext }
termination_by structural fuel

end

/-- Calls within calls that a rendering may make. -/
def depthLimit : Nat := 8000

/-- The text of a failure. -/
def Failure.message (f : Failure) : String :=
  match f.mark with
  | some m => "Error rendering \"" ++ f.title.getD "Unnamed template" ++ "\" line " ++
      toString m.line ++ ", col " ++ toString m.column ++ ": " ++ f.fault.message
  | none => f.fault.message

/-- The text that a template makes of data. -/
def render (t : Template) (data : Value) : Except Failure String :=
  let start : Rendering :=
    ⟨"", [Block.outermost], [], [], 0, none, false, none, false, false, false⟩
  match renderTemplate ⟨t, data⟩ depthLimit t start with
  | .ok (_, s) => .ok s.out
  | .error f => .error f

end Template

end Inlay
