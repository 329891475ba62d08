/-
# `Inlay.Markup.Construction.Body` — the body

Most elements are opened where they stand; the rules say which open elements
they close first, and how an end tag finds the element that it closes.

    block        closes an open paragraph
    heading      also closes an open heading
    list item    closes an open item of the same list
    formatting   is remembered, and opened again where blocks cut it off
    void         holds nothing
-/
import Inlay.Markup.Construction.Head
import Inlay.Markup.Construction.Formatting

namespace Inlay.Markup.Site

/-! ## Sets of tags -/

def isBlock (tag : String) : Bool :=
  ["address", "article", "aside", "blockquote", "center", "details", "dialog", "dir", "div", "dl",
   "fieldset", "figcaption", "figure", "footer", "header", "hgroup", "main", "menu", "nav", "ol",
   "p", "section", "summary", "ul"].contains tag

/-- Blocks that end with their own end tag. -/
def endsBlock (tag : String) : Bool :=
  ["address", "article", "aside", "blockquote", "button", "center", "details", "dialog", "dir",
   "div", "dl", "fieldset", "figcaption", "figure", "footer", "header", "hgroup", "listing",
   "main", "menu", "nav", "ol", "pre", "section", "summary", "ul"].contains tag

def isHeadingTag (tag : String) : Bool := ["h1", "h2", "h3", "h4", "h5", "h6"].contains tag

def isFormattingTag (tag : String) : Bool :=
  ["b", "big", "code", "em", "font", "i", "s", "small", "strike", "strong", "tt", "u"].contains tag

def isEmbedding (tag : String) : Bool := ["applet", "marquee", "object"].contains tag

/-- Elements that hold nothing and stand in a line. -/
def isInlineVoid (tag : String) : Bool :=
  ["area", "br", "embed", "img", "keygen", "wbr", "input"].contains tag

def isPlainVoid (tag : String) : Bool := ["param", "source", "track"].contains tag

/-- Parts of tables, and others that cannot stand in the body. -/
def isMisplaced (tag : String) : Bool :=
  ["caption", "col", "colgroup", "frame", "head", "tbody", "td", "tfoot", "th", "thead",
   "tr"].contains tag

/-! ## Text -/

/-- Text of the body. -/
def bodyText (s : Site) (text : String) : Site := s.reopen.insertText text

def noFrames (s : Site) : Site := { s with framesAllowed := false }

/-! ## Start tags -/

def bodyTag (s : Site) (tag : Tag) : Site :=
  match s.body? with
  | some n =>
    if s.isOpen "template" then s
    else { s with framesAllowed := false, draft := s.draft.addMissing n (plainAttributes tag) }
  | none => s

/-- A frameset replaces a body in which nothing was written yet. -/
def framesetTag (s : Site) (tag : Tag) : Site :=
  if !s.framesAllowed then s
  else
    match s.body? with
    | none => s
    | some n =>
      let s := { s with draft := s.draft.detach n, stack := s.stack.getLast?.toList }
      { s.open_ tag with mode := .inFrameset }

/-- The open item that a new item closes: the nearest of its kind, with no special element other
than an address, division or paragraph inside it. -/
def openItem? (s : Site) (kinds : List String) : List Nat → Option String
  | [] => none
  | n :: rest =>
    let name := s.name n
    if name.isOneOf kinds then some name.tag
    else if name.isSpecial && !name.isOneOf ["address", "div", "p"] then none
    else openItem? s kinds rest

def listItem (s : Site) (tag : Tag) : Site :=
  let kinds := if tag.name = "li" then ["li"] else ["dd", "dt"]
  let s := s.noFrames
  let s := match s.openItem? kinds s.stack with
    | some name => (s.closeImpliedExcept name).popThroughNamed name
    | none => s
  s.closeParagraphInScope.open_ tag

def formTag (s : Site) (tag : Tag) : Site :=
  let inTemplate := s.isOpen "template"
  if s.form.isSome && !inTemplate then s
  else
    let (s, n) := s.closeParagraphInScope.openElement tag
    if inTemplate then s else { s with form := some n }

def buttonTag (s : Site) (tag : Tag) : Site :=
  let s := if s.inScopeNamed Name.boundsScope "button" then s.closeImplied.popThroughNamed "button"
    else s
  (s.reopen.open_ tag).noFrames

def nobrTag (s : Site) (tag : Tag) : Site :=
  let s := s.reopen
  let s := if s.inScopeNamed Name.boundsScope "nobr" then (s.adopt "nobr").reopen else s
  s.openFormatting tag

def selectTag (s : Site) (tag : Tag) : Site :=
  let s := (s.reopen.open_ tag).noFrames
  let inTable := match s.mode with
    | .inTable | .inCaption | .inTableBody | .inRow | .inCell => true
    | _ => false
  { s with mode := if inTable then .inSelectInTable else .inSelect }

def voidTag (s : Site) (tag : Tag) : Site :=
  let s := s.reopen.void tag
  if tag.name = "input" && isHiddenInput tag then s else s.noFrames

/-- Open an element of a foreign vocabulary. -/
def foreignElement (s : Site) (vocabulary : Vocabulary) (tag : Tag) : Site :=
  let (s, n) := s.place ⟨vocabulary, tag.name⟩ (tag.attributes.map foreignAttribute)
  if tag.selfClosing then s else s.push n
where
  /-- Some attributes of foreign elements have a prefix. -/
  foreignAttribute (a : String × String) : Attribute :=
    let (key, value) := a
    if key = "xmlns" then ⟨some "", "xmlns", value⟩
    else if ["xlink:actuate", "xlink:arcrole", "xlink:href", "xlink:role", "xlink:show",
        "xlink:title", "xlink:type"].contains key then
      ⟨some "xlink", String.ofList (key.toList.drop 6), value⟩
    else if ["xml:base", "xml:lang", "xml:space"].contains key then
      ⟨some "xml", String.ofList (key.toList.drop 4), value⟩
    else if key = "xmlns:xlink" then ⟨some "xmlns", "xlink", value⟩
    else ⟨none, key, value⟩

def bodyStart (s : Site) (tag : Tag) : Answer :=
  let name := tag.name
  if name = "html" then s.mergeRoot tag
  else if belongsToHead name then s.headElement tag
  else if name = "body" then (s.bodyTag tag).done
  else if name = "frameset" then (s.framesetTag tag).done
  else if isBlock name then (s.closeParagraphInScope.open_ tag).done
  else if isHeadingTag name then
    let s := s.closeParagraphInScope
    let s := if s.currentIs Name.isHeading then s.pop else s
    (s.open_ tag).done
  else if name = "pre" || name = "listing" then
    { (s.closeParagraphInScope.open_ tag).noFrames with dropNewline := true }.done
  else if name = "form" then (s.formTag tag).done
  else if name = "li" || name = "dd" || name = "dt" then (s.listItem tag).done
  else if name = "plaintext" then
    { s.closeParagraphInScope.open_ tag with textMode := .plaintext }.done
  else if name = "button" then (s.buttonTag tag).done
  else if name = "a" then (s.closeMisnestedLink.reopen.openFormatting tag).done
  else if isFormattingTag name then (s.reopen.openFormatting tag).done
  else if name = "nobr" then (s.nobrTag tag).done
  else if isEmbedding name then (s.reopen.open_ tag).mark.noFrames.done
  else if name = "table" then
    let s := if s.quirks then s else s.closeParagraphInScope
    { (s.open_ tag).noFrames with mode := .inTable }.done
  else if isInlineVoid name then (s.voidTag tag).done
  else if isPlainVoid name then (s.void tag).done
  else if name = "hr" then (s.closeParagraphInScope.void tag).noFrames.done
  else if name = "image" then (s.voidTag { tag with name := "img" }).done
  else if name = "textarea" then
    { (s.noFrames.openHiding tag .rcdata) with dropNewline := true }.done
  else if name = "xmp" then
    (s.closeParagraphInScope.reopen.noFrames.openHiding tag .rawtext).done
  else if name = "iframe" then (s.noFrames.openHiding tag .rawtext).done
  else if name = "noembed" || name = "noscript" then (s.openHiding tag .rawtext).done
  else if name = "select" then (s.selectTag tag).done
  else if name = "optgroup" || name = "option" then
    let s := if s.currentNamed "option" then s.pop else s
    (s.reopen.open_ tag).done
  else if name = "rb" || name = "rtc" then
    let s := if s.inScopeNamed Name.boundsScope "ruby" then s.closeImplied else s
    (s.open_ tag).done
  else if name = "rp" || name = "rt" then
    let s := if s.inScopeNamed Name.boundsScope "ruby" then s.closeImpliedExcept "rtc" else s
    (s.open_ tag).done
  else if name = "math" then (s.foreignElement .mathml tag).done
  else if name = "svg" then (s.foreignElement .svg tag).done
  else if isMisplaced name then s.done
  else (s.reopen.open_ tag).done

/-! ## End tags -/

def formEnd (s : Site) : Site :=
  if s.isOpen "template" then
    if s.inScopeNamed Name.boundsScope "form" then s.closeImplied.popThroughNamed "form" else s
  else
    match s.form with
    | none => s
    | some n =>
      let s := { s with form := none }
      if s.inScope Name.boundsScope (· = n) then s.closeImplied.dropFromStack n else s

def bodyEnd (s : Site) (tag : Tag) : Answer :=
  let name := tag.name
  if name = "template" then s.closeTemplate
  else if name = "body" then
    if s.inScopeNamed Name.boundsScope "body" then { s with mode := .afterBody }.done else s.done
  else if name = "html" then
    if s.inScopeNamed Name.boundsScope "body" then s.again .afterBody (.endTag tag) else s.done
  else if endsBlock name then
    if s.inScopeNamed Name.boundsScope name then (s.closeImplied.popThroughNamed name).done
    else s.done
  else if name = "form" then s.formEnd.done
  else if name = "p" then
    let s := if s.inScopeNamed Name.boundsButtonScope "p" then s else s.phantom "p"
    s.closeParagraph.done
  else if name = "li" || name = "dd" || name = "dt" then
    let bound := if name = "li" then Name.boundsListScope else Name.boundsScope
    if s.inScopeNamed bound name then ((s.closeImpliedExcept name).popThroughNamed name).done
    else s.done
  else if isHeadingTag name then
    if s.inScope Name.boundsScope fun n => (s.name n).isHeading then
      (s.closeImplied.popThrough Name.isHeading).done
    else s.done
  else if isFormattingTag name || name = "a" || name = "nobr" then (s.adopt name).done
  else if isEmbedding name then
    if s.inScopeNamed Name.boundsScope name then
      (s.closeImplied.popThroughNamed name).clearFormatting.done
    else s.done
  else if name = "br" then (s.voidTag ⟨"br", [], tag.selfClosing⟩).done
  else (s.closeNamed name).done

/-- The end of the text in a template: the templates close from the inside out. -/
def templateEof (s : Site) : Answer :=
  if s.isOpen "template" then
    let s := s.leaveTemplate
    s.again s.mode .eof
  else s.done

def inBody (s : Site) (e : Event) : Answer :=
  match e with
  | .null => s.done
  | .space text => (s.bodyText text).done
  | .word text => (s.bodyText text).noFrames.done
  | .comment text => (s.insertComment text).done
  | .startTag tag => s.bodyStart tag
  | .endTag tag => s.bodyEnd tag
  | .eof => if s.templateModes.isEmpty then s.done else s.templateEof

end Inlay.Markup.Site
