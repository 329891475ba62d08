/-
# `Inlay.Markup.Construction.Outer` — templates, framesets, and behind the body

The first tag in a template tells what its contents are parts of.  Behind the
body only comments and white space have a place of their own; anything else
goes back into the body.
-/
import Inlay.Markup.Construction.Table

namespace Inlay.Markup.Site

/-- Read the contents of the innermost template under a mode. -/
def templateAs (s : Site) (mode : Mode) (e : Event) : Answer :=
  { s with templateModes := mode :: s.templateModes.drop 1 }.again mode e

def inTemplate (s : Site) (e : Event) : Answer :=
  match e with
  | .space _ | .word _ | .comment _ => s.inBody e
  | .null => s.done
  | .startTag tag =>
    let name := tag.name
    if belongsToHead name then s.headElement tag
    else if name = "caption" || name = "colgroup" || isRowGroup name then s.templateAs .inTable e
    else if name = "col" then s.templateAs .inColumnGroup e
    else if name = "tr" then s.templateAs .inTableBody e
    else if name = "td" || name = "th" then s.templateAs .inRow e
    else s.templateAs .inBody e
  | .endTag tag => if tag.name = "template" then s.closeTemplate else s.done
  | .eof => s.templateEof

def afterBody (s : Site) (e : Event) : Answer :=
  let back := s.again .inBody e
  match e with
  | .space _ => s.inBody e
  | .comment text => (s.commentIn s.rootElement text).done
  | .startTag tag => if tag.name = "html" then s.mergeRoot tag else back
  | .endTag tag =>
    if tag.name = "html" then
      (if s.isFragment then s else { s with mode := .afterAfterBody }).done
    else back
  | .eof => s.done
  | _ => back

def afterAfterBody (s : Site) (e : Event) : Answer :=
  let back := s.again .inBody e
  match e with
  | .space _ => s.inBody e
  | .comment text => s.commentBesideRoot text
  | .startTag tag => if tag.name = "html" then s.mergeRoot tag else back
  | .eof => s.done
  | _ => back

def inFrameset (s : Site) (e : Event) : Answer :=
  match e with
  | .space text => (s.insertText text).done
  | .comment text => (s.insertComment text).done
  | .startTag tag =>
    match tag.name with
    | "html" => s.mergeRoot tag
    | "frameset" => (s.open_ tag).done
    | "frame" => (s.void tag).done
    | "noframes" => s.headElement tag
    | _ => s.done
  | .endTag tag =>
    if tag.name = "frameset" && s.stack.length ≠ 1 then
      let s := s.pop
      (if !s.isFragment && !s.currentNamed "frameset" then { s with mode := .afterFrameset }
        else s).done
    else s.done
  | _ => s.done

def afterFrameset (s : Site) (e : Event) : Answer :=
  match e with
  | .space text => (s.insertText text).done
  | .comment text => (s.insertComment text).done
  | .startTag tag =>
    match tag.name with
    | "html" => s.mergeRoot tag
    | "noframes" => s.headElement tag
    | _ => s.done
  | .endTag tag =>
    (if tag.name = "html" then { s with mode := .afterAfterFrameset } else s).done
  | _ => s.done

def afterAfterFrameset (s : Site) (e : Event) : Answer :=
  match e with
  | .space _ => s.inBody e
  | .comment text => s.commentBesideRoot text
  | .startTag tag =>
    match tag.name with
    | "html" => s.mergeRoot tag
    | "noframes" => s.headElement tag
    | _ => s.done
  | _ => s.done

end Inlay.Markup.Site
