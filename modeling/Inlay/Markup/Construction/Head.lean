/-
# `Inlay.Markup.Construction.Head` — before the body

The modes up to the body.  Whatever does not belong there opens, unwritten,
the elements that are missing, and is handled again by the next mode.  The
rules for the head also serve later modes for the elements of the head.
-/
import Inlay.Markup.Construction.State

namespace Inlay.Markup.Site

/-- End tags that are not ignored before the body. -/
def endsHead (tag : String) : Bool := ["head", "body", "html", "br"].contains tag

/-- A further `html` tag only adds the attributes that the root lacks. -/
def mergeRoot (s : Site) (tag : Tag) : Answer :=
  if s.isOpen "template" then s.done
  else { s with draft := s.draft.addMissing s.rootElement (plainAttributes tag) }.done

/-- A comment beside the root. -/
def commentBesideRoot (s : Site) (text : String) : Answer := (s.commentIn Draft.document text).done

def initial (s : Site) (e : Event) : Answer :=
  match e with
  | .space _ => s.done
  | .comment text => s.commentBesideRoot text
  | e => { s with quirks := true }.again .beforeHtml e

def beforeHtml (s : Site) (e : Event) : Answer :=
  let missing := (s.createRoot []).again .beforeHead e
  match e with
  | .space _ => s.done
  | .comment text => s.commentBesideRoot text
  | .startTag tag =>
    if tag.name = "html" then
      { s.createRoot (plainAttributes tag) with mode := .beforeHead }.done
    else missing
  | .endTag tag => if endsHead tag.name then missing else s.done
  | _ => missing

def beforeHead (s : Site) (e : Event) : Answer :=
  let missing :=
    let (s, n) := s.openElement ⟨"head", [], false⟩
    { s with head := some n }.again .inHead e
  match e with
  | .space _ => s.done
  | .comment text => (s.insertComment text).done
  | .startTag tag =>
    if tag.name = "html" then s.mergeRoot tag
    else if tag.name = "head" then
      let (s, n) := s.openElement tag
      { s with head := some n, mode := .inHead }.done
    else missing
  | .endTag tag => if endsHead tag.name then missing else s.done
  | _ => missing

/-- Open a template: its contents have a list of formatting elements and a mode of their own. -/
def openTemplate (s : Site) (tag : Tag) : Answer :=
  { (s.open_ tag).mark with
    framesAllowed := false
    mode := .inTemplate
    templateModes := .inTemplate :: s.templateModes }.done

/-- Close the innermost template. -/
def leaveTemplate (s : Site) : Site :=
  let s := (s.popThroughNamed "template").clearFormatting
  let s := { s with templateModes := s.templateModes.drop 1 }
  { s with mode := s.fittingMode }

def closeTemplate (s : Site) : Answer :=
  if s.isOpen "template" then (s.popWhile Name.impliesEndThoroughly).leaveTemplate.done
  else s.done

/-- Start tags of elements that belong to the head. -/
def belongsToHead (tag : String) : Bool :=
  ["base", "basefont", "bgsound", "link", "meta", "noframes", "script", "style", "template",
   "title"].contains tag

/-- The start tag of an element of the head. -/
def headElement (s : Site) (tag : Tag) : Answer :=
  match tag.name with
  | "title" => (s.openHiding tag .rcdata).done
  | "noframes" | "style" | "noscript" => (s.openHiding tag .rawtext).done
  | "script" => (s.openHiding tag .script).done
  | "template" => s.openTemplate tag
  | _ => (s.void tag).done

def inHead (s : Site) (e : Event) : Answer :=
  let missing := s.pop.again .afterHead e
  match e with
  | .space text => (s.insertText text).done
  | .comment text => (s.insertComment text).done
  | .startTag tag =>
    if tag.name = "html" then s.mergeRoot tag
    else if belongsToHead tag.name || tag.name = "noscript" then s.headElement tag
    else if tag.name = "head" then s.done
    else missing
  | .endTag tag =>
    match tag.name with
    | "head" => { s.pop with mode := .afterHead }.done
    | "template" => s.closeTemplate
    | "body" | "html" | "br" => missing
    | _ => s.done
  | _ => missing

def afterHead (s : Site) (e : Event) : Answer :=
  let missing := (s.phantom "body").again .inBody e
  match e with
  | .space text => (s.insertText text).done
  | .comment text => (s.insertComment text).done
  | .startTag tag =>
    if tag.name = "html" then s.mergeRoot tag
    else if tag.name = "body" then
      { s.open_ tag with framesAllowed := false, mode := .inBody }.done
    else if tag.name = "frameset" then { s.open_ tag with mode := .inFrameset }.done
    else if belongsToHead tag.name then
      -- the head is opened once more for the element
      match s.head with
      | none => s.done
      | some n =>
        let (s, more) := (s.push n).headElement tag
        (s.dropFromStack n, more)
    else if tag.name = "head" then s.done
    else missing
  | .endTag tag =>
    match tag.name with
    | "template" => s.closeTemplate
    | "body" | "html" | "br" => missing
    | _ => s.done
  | _ => missing

/-- Text of an element that hides markup, and its end. -/
def inText (s : Site) (e : Event) : Answer :=
  match e with
  | .space text | .word text => (s.insertText text).done
  | .endTag tag =>
    { s.pop with mode := s.returnMode, scriptEnded := tag.name = "script" }.done
  | .eof => s.pop.again s.returnMode e
  | _ => s.done

end Inlay.Markup.Site
