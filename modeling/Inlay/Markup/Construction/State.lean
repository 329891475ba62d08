/-
# `Inlay.Markup.Construction.State` — the state of tree construction

Tree construction reads events, holds a stack of open elements (the current
one first) and a list of the formatting elements that are to be opened again
(the latest first), and writes a draft.  The rules for an event depend on the
insertion mode.

This module holds the state and what all rules share: opening and closing
elements, the scopes of the stack, and the place where a node goes.  In a
table, content that cannot stand there is fostered: it goes before the table.

A rule answers with the new state and, if the event is to be handled again
under the new mode, with the event.
-/
import Inlay.Text.Blank
import Inlay.Markup.Draft
import Inlay.Markup.Token

namespace Inlay.Markup

/-- What tree construction reacts to: a run of characters is split into white space, U+0000 and
other text. -/
inductive Event
  | space (s : String)
  | word (s : String)
  | null
  | startTag (tag : Tag)
  | endTag (tag : Tag)
  | comment (s : String)
  | eof
  deriving Repr

/-- The insertion modes. -/
inductive Mode
  | initial | beforeHtml | beforeHead | inHead | afterHead | inBody | text
  | inTable | inTableText | inCaption | inColumnGroup | inTableBody | inRow | inCell
  | inSelect | inSelectInTable | inTemplate
  | afterBody | inFrameset | afterFrameset | afterAfterBody | afterAfterFrameset
  deriving Repr, DecidableEq

/-- An entry of the list of formatting elements. -/
inductive Entry
  | marker
  | element (node : Nat) (tag : Tag)
  deriving Repr

structure Site where
  draft : Draft
  mode : Mode
  /-- How the text that follows is to be read. -/
  textMode : TextMode
  /-- The mode to return to from text. -/
  returnMode : Mode
  /-- The modes of the open templates, the innermost first. -/
  templateModes : List Mode
  /-- Text in a table whose place is not decided yet, the latest first. -/
  pending : List Event
  /-- The open elements, the current one first. -/
  stack : List Nat
  /-- The formatting elements, the latest first. -/
  formatting : List Entry
  head : Option Nat
  form : Option Nat
  /-- Whether a frameset may still replace the body. -/
  framesAllowed : Bool
  fostering : Bool
  /-- Whether a line feed that comes next is dropped. -/
  dropNewline : Bool
  /-- Whether the oldest layout rules are in force. -/
  quirks : Bool
  /-- The element whose content is parsed, if only a fragment is. -/
  context : Option Nat
  /-- Whether a script has just ended. -/
  scriptEnded : Bool

/-- The answer of a rule. -/
abbrev Answer := Site × Option Event

namespace Site

/-- Done with the event. -/
def done (s : Site) : Answer := (s, none)

/-- Handle the event again under a mode. -/
def again (s : Site) (mode : Mode) (e : Event) : Answer := ({ s with mode := mode }, some e)

def isFragment (s : Site) : Bool := s.context.isSome

/-! ## The stack of open elements -/

def name (s : Site) (n : Nat) : Name := s.draft.name n

def current? (s : Site) : Option Nat := s.stack.head?

/-- Whether the name of the current element has a property. -/
def currentIs (s : Site) (p : Name → Bool) : Bool := (s.current?.map fun n => p (s.name n)).getD false

def currentNamed (s : Site) (tag : String) : Bool := s.currentIs (·.isHtml tag)

/-- The element in whose vocabulary text is read: the current one, or the context of a fragment
while only its root is open. -/
def adjustedCurrent? (s : Site) : Option Nat :=
  match s.stack, s.context with
  | [_], some c => some c
  | n :: _, _ => some n
  | [], _ => none

def adjustedName (s : Site) : Name := (s.adjustedCurrent?.map s.name).getD ⟨.html, ""⟩

/-- Whether text is read in a foreign vocabulary. -/
def inForeign (s : Site) : Bool := s.adjustedName.vocabulary ≠ .html

def pop (s : Site) : Site := { s with stack := s.stack.drop 1 }

def push (s : Site) (n : Nat) : Site := { s with stack := n :: s.stack }

/-- The innermost `html` element. -/
def rootElement (s : Site) : Nat := s.stack.getLast?.getD 0

/-- Whether an element with a property is open inside the nearest boundary. -/
def inScope (s : Site) (bound : Name → Bool) (p : Nat → Bool) : Bool :=
  go s.stack
where
  go : List Nat → Bool
    | [] => false
    | n :: rest => p n || (!bound (s.name n) && go rest)

def inScopeNamed (s : Site) (bound : Name → Bool) (tag : String) : Bool :=
  s.inScope bound fun n => (s.name n).isHtml tag

/-- Whether an element of that name is open at all. -/
def isOpen (s : Site) (tag : String) : Bool := s.stack.any fun n => (s.name n).isHtml tag

/-- Close elements while their names have a property. -/
def popWhile (s : Site) (p : Name → Bool) : Site :=
  { s with stack := s.stack.dropWhile fun n => p (s.name n) }

/-- Close elements up to and with the first whose name has a property. -/
def popThrough (s : Site) (p : Name → Bool) : Site :=
  { s with stack := (s.stack.dropWhile fun n => !p (s.name n)).drop 1 }

def popThroughNamed (s : Site) (tag : String) : Site := s.popThrough (·.isHtml tag)

/-- Close elements until the current one bounds. -/
def popTo (s : Site) (bound : Name → Bool) : Site := s.popWhile (!bound ·)

/-- Close the elements that end silently. -/
def closeImplied (s : Site) : Site := s.popWhile Name.impliesEnd

def closeImpliedExcept (s : Site) (tag : String) : Site :=
  s.popWhile fun n => n.impliesEnd && !n.isHtml tag

/-- Drop an element from the stack, wherever it stands. -/
def dropFromStack (s : Site) (n : Nat) : Site := { s with stack := s.stack.erase n }

/-- Close a paragraph and what is open in it. -/
def closeParagraph (s : Site) : Site := (s.closeImpliedExcept "p").popThroughNamed "p"

/-- Close the paragraph that new content would not fit into. -/
def closeParagraphInScope (s : Site) : Site :=
  if s.inScopeNamed Name.boundsButtonScope "p" then s.closeParagraph else s

/-- The second open element, if it is the body. -/
def body? (s : Site) : Option Nat :=
  match s.stack.reverse with
  | _ :: n :: _ => if (s.name n).isHtml "body" then some n else none
  | _ => none

/-! ## The place where a node goes -/

/-- A parent and a place among its children. -/
structure Place where
  parent : Nat
  index : Nat

/-- The end of a node; of its contents if it is a template. -/
def endOf (s : Site) (n : Nat) : Place :=
  let holder := match (s.draft.element? n).bind (·.contents) with
    | some c => c
    | none => n
  ⟨holder, (s.draft.children holder).length⟩

/-- The place of fostered content: before the innermost open table, or in the innermost open
template if that is further in. -/
def fosterPlace (s : Site) : List Nat → Place
  | [] => s.endOf s.rootElement
  | n :: rest =>
    if (s.name n).isHtml "template" then s.endOf n
    else if (s.name n).isHtml "table" then
      match s.draft.parent? n with
      | some p => ⟨p, (s.draft.children p).idxOf n⟩
      | none =>
        let outer := rest.head?.getD s.rootElement
        ⟨outer, (s.draft.children outer).length⟩
    else fosterPlace s rest

/-- The place for a new node, under the current element or another one. -/
def placeFor (s : Site) (target : Option Nat) : Place :=
  let target := (target.orElse fun _ => s.current?).getD Draft.document
  if s.fostering && (s.name target).fosters then s.fosterPlace s.stack else s.endOf target

def insertNode (s : Site) (n : Nat) (target : Option Nat) : Site :=
  let p := s.placeFor target
  { s with draft := s.draft.insertAt p.parent p.index n }

def insertText (s : Site) (text : String) : Site :=
  let p := s.placeFor none
  { s with draft := s.draft.insertText p.parent p.index text }

/-- A comment at the end of a node. -/
def commentIn (s : Site) (parent : Nat) (text : String) : Site :=
  let (draft, n) := s.draft.add (.comment text)
  { s with draft := draft.append parent n }

def insertComment (s : Site) (text : String) : Site :=
  let (draft, n) := s.draft.add (.comment text)
  { s with draft := draft }.insertNode n none

/-! ## New elements -/

/-- The attributes of a tag as attributes without prefix. -/
def plainAttributes (tag : Tag) : List Attribute := tag.attributes.map fun (k, v) => ⟨none, k, v⟩

/-- Insert an element without opening it. -/
def place (s : Site) (name : Name) (attributes : List Attribute) : Site × Nat :=
  let (draft, n) := s.draft.addElement name attributes
  ({ s with draft := draft }.insertNode n none, n)

/-- Insert an element of the first vocabulary and open it. -/
def openElement (s : Site) (tag : Tag) : Site × Nat :=
  let (s, n) := s.place ⟨.html, tag.name⟩ (plainAttributes tag)
  (s.push n, n)

def open_ (s : Site) (tag : Tag) : Site := (s.openElement tag).1

/-- Insert an element that holds nothing. -/
def void (s : Site) (tag : Tag) : Site := (s.place ⟨.html, tag.name⟩ (plainAttributes tag)).1

/-- Insert and open an element that is not written. -/
def phantom (s : Site) (tag : String) : Site := s.open_ ⟨tag, [], false⟩

/-- Insert and open the root element. -/
def createRoot (s : Site) (attributes : List Attribute) : Site :=
  let (draft, n) := s.draft.addElement ⟨.html, "html"⟩ attributes
  { s with draft := draft.append Draft.document n, stack := n :: s.stack }

/-- Open an element whose content hides markup. -/
def openHiding (s : Site) (tag : Tag) (textMode : TextMode) : Site :=
  let s := s.open_ tag
  { s with returnMode := s.mode, mode := .text, textMode := textMode }

/-- Forget the formatting elements back to the last marker. -/
def clearFormatting (s : Site) : Site :=
  { s with formatting :=
      (s.formatting.dropWhile fun | .marker => false | .element .. => true).drop 1 }

def mark (s : Site) : Site := { s with formatting := .marker :: s.formatting }

/-- A hidden input may stand in a table and leaves room for frames. -/
def isHiddenInput (tag : Tag) : Bool :=
  match tag.attributes.find? (·.1 = "type") with
  | some (_, v) => String.ofList (v.toList.map Char.toLower) = "hidden"
  | none => false

/-! ## The mode that fits the stack -/

/-- The mode for a select: in a table or not. -/
def selectMode (s : Site) : List Nat → Mode
  | [] => .inSelect
  | n :: rest =>
    if (s.name n).isHtml "template" then .inSelect
    else if (s.name n).isHtml "table" then .inSelectInTable
    else selectMode s rest

/-- The mode for the innermost open element that decides it; the outermost one is replaced by the
context of a fragment. -/
def fittingModeFrom (s : Site) : List Nat → Mode
  | [] => .inBody
  | n :: rest =>
    let last := rest.isEmpty
    let node := if last then s.context.getD n else n
    let name := s.name node
    if name.vocabulary ≠ .html then fittingModeFrom s rest
    else
      match name.tag with
      | "select" => s.selectMode rest
      | "tr" => .inRow
      | "tbody" | "thead" | "tfoot" => .inTableBody
      | "caption" => .inCaption
      | "colgroup" => .inColumnGroup
      | "table" => .inTable
      | "template" => s.templateModes.head?.getD .inBody
      | "body" => .inBody
      | "frameset" => .inFrameset
      | "html" => if s.head.isNone then .beforeHead else .afterHead
      | "td" | "th" => if last then .inBody else .inCell
      | "head" => if last then .inBody else .inHead
      | _ => fittingModeFrom s rest

def fittingMode (s : Site) : Mode := s.fittingModeFrom s.stack

end Site

end Inlay.Markup
