/-
# `Inlay.Markup.Construction.Foreign` — svg and mathml

Inside an element of a foreign vocabulary new elements belong to that
vocabulary, and U+0000 is not dropped but replaced.  Some elements of the
first vocabulary cannot stand there: their tags close the foreign elements
first.  Inside the integration points the rules of the page hold again.
-/
import Inlay.Markup.Construction.Outer

namespace Inlay.Markup.Site

/-- Start tags that end foreign content. -/
def breaksOut (tag : Tag) : Bool :=
  ["b", "big", "blockquote", "body", "br", "center", "code", "dd", "div", "dl", "dt", "em",
   "embed", "h1", "h2", "h3", "h4", "h5", "h6", "head", "hr", "i", "img", "li", "listing", "menu",
   "meta", "nobr", "ol", "p", "pre", "ruby", "s", "small", "span", "strong", "strike", "sub",
   "sup", "table", "tt", "u", "ul", "var"].contains tag.name ||
  (tag.name = "font" &&
    tag.attributes.any fun (k, _) => ["color", "face", "size"].contains k)

/-- Whether an event is handled by the rules of this module. -/
def isForeign (s : Site) (e : Event) : Bool :=
  match e, s.adjustedCurrent? with
  | .eof, _ | _, none => false
  | e, some n =>
    let name := s.name n
    let isText := match e with
      | .space _ | .word _ | .null => true
      | _ => false
    let start? := match e with
      | .startTag tag => some tag.name
      | _ => none
    if name.vocabulary = .html then false
    else if name.isMathText &&
        (isText || (start?.map fun t => t ≠ "mglyph" && t ≠ "malignmark").getD false) then false
    else if name.isSvgEmbedding && (isText || start?.isSome) then false
    else if name = ⟨.mathml, "annotation-xml"⟩ then
      if start? = some "svg" then false
      else if isText || start?.isSome then !((s.draft.element? n).map (·.embeds)).getD false
      else true
    else true

/-- Close foreign elements up to an element of the page or an integration point. -/
def leaveForeign (s : Site) : Site :=
  s.popWhile fun n => !(n.vocabulary = .html || n.isMathText || n.isSvgEmbedding)

/-- Find the foreign element that an end tag closes; `none` says that an element of the page
stands first. -/
def closeForeign (s : Site) (tag : String) : Bool → List Nat → Option Site
  | _, [] | _, [_] => some s
  | first, n :: rest =>
    if !first && (s.name n).vocabulary = .html then none
    else if (s.name n).tag = tag then some { s with stack := rest }
    else closeForeign s tag false rest

/-- The rules of the page for an event under the current mode. -/
def byMode (s : Site) (e : Event) : Answer :=
  match s.mode with
  | .initial => s.initial e
  | .beforeHtml => s.beforeHtml e
  | .beforeHead => s.beforeHead e
  | .inHead => s.inHead e
  | .afterHead => s.afterHead e
  | .inBody => s.inBody e
  | .text => s.inText e
  | .inTable => s.inTable e
  | .inTableText => s.inTableText e
  | .inCaption => s.inCaption e
  | .inColumnGroup => s.inColumnGroup e
  | .inTableBody => s.inTableBody e
  | .inRow => s.inRow e
  | .inCell => s.inCell e
  | .inSelect => s.inSelect e
  | .inSelectInTable => s.inSelectInTable e
  | .inTemplate => s.inTemplate e
  | .afterBody => s.afterBody e
  | .inFrameset => s.inFrameset e
  | .afterFrameset => s.afterFrameset e
  | .afterAfterBody => s.afterAfterBody e
  | .afterAfterFrameset => s.afterAfterFrameset e

def foreignContent (s : Site) (e : Event) : Answer :=
  match e with
  | .null => (s.insertText "\ufffd").done
  | .space text => (s.insertText text).done
  | .word text => (s.insertText text).noFrames.done
  | .comment text => (s.insertComment text).done
  | .startTag tag =>
    if breaksOut tag then s.leaveForeign.byMode e
    else (s.foreignElement s.adjustedName.vocabulary tag).done
  | .endTag tag =>
    if tag.name = "br" || tag.name = "p" then s.leaveForeign.byMode e
    else
      match s.closeForeign tag.name true s.stack with
      | some s => s.done
      | none => s.byMode e
  | .eof => s.done

/-- Handle an event, as often as the rules ask; `n` bounds how often. -/
def react : Nat → Site → Event → Site
  | 0, s, _ => s
  | n + 1, s, e =>
    match if s.isForeign e then s.foreignContent e else s.byMode e with
    | (s, none) => s
    | (s, some e) => react n s e

end Inlay.Markup.Site
