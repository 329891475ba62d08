/-
# `Inlay.Markup.Names` — sets of element names

The rules of tree construction speak of sets of elements.  A name of markup
belongs to a vocabulary; most sets hold elements of the first vocabulary only,
and the boundaries of scopes hold a few foreign ones, where markup of the
first vocabulary may be embedded.

    integration points   mi mo mn ms mtext             (mathml)
                         foreignobject desc title      (svg)

Foreign names are kept in lower case, as names are stored in the end.
-/
import Inlay.Markup.Tree

namespace Inlay.Markup

/-- An element name with its vocabulary. -/
structure Name where
  vocabulary : Vocabulary
  tag : String
  deriving Repr, DecidableEq

namespace Name

def isHtml (n : Name) (tag : String) : Bool := n.vocabulary = .html && n.tag = tag

def isOneOf (n : Name) (tags : List String) : Bool := n.vocabulary = .html && tags.contains n.tag

/-- Elements of mathml whose text is read like text of the page. -/
def isMathText (n : Name) : Bool :=
  n.vocabulary = .mathml && ["mi", "mo", "mn", "ms", "mtext"].contains n.tag

/-- Elements of svg whose content is markup of the page. -/
def isSvgEmbedding (n : Name) : Bool :=
  n.vocabulary = .svg && ["foreignobject", "desc", "title"].contains n.tag

/-! ## Boundaries of scopes -/

def boundsScope (n : Name) : Bool :=
  n.isOneOf ["applet", "caption", "html", "table", "td", "th", "marquee", "object", "template"] ||
    n.isMathText || n.isSvgEmbedding

def boundsListScope (n : Name) : Bool := n.boundsScope || n.isOneOf ["ol", "ul"]

def boundsButtonScope (n : Name) : Bool := n.boundsScope || n.isOneOf ["button"]

def boundsTableScope (n : Name) : Bool := n.isOneOf ["html", "table", "template"]

def boundsSelectScope (n : Name) : Bool := !n.isOneOf ["optgroup", "option"]

/-! ## Sets of the rules -/

def boundsTableBody (n : Name) : Bool := n.isOneOf ["tbody", "tfoot", "thead", "template", "html"]

def boundsTableRow (n : Name) : Bool := n.isOneOf ["tr", "template", "html"]

def isCell (n : Name) : Bool := n.isOneOf ["td", "th"]

def isHeading (n : Name) : Bool := n.isOneOf ["h1", "h2", "h3", "h4", "h5", "h6"]

/-- Elements that an end tag further out closes silently. -/
def impliesEnd (n : Name) : Bool :=
  n.isOneOf ["dd", "dt", "li", "option", "optgroup", "p", "rb", "rp", "rt", "rtc"]

/-- The same for the end of a template. -/
def impliesEndThoroughly (n : Name) : Bool :=
  n.impliesEnd ||
    n.isOneOf ["caption", "colgroup", "tbody", "td", "tfoot", "th", "thead", "tr"]

/-- Elements in which misplaced content goes before the table. -/
def fosters (n : Name) : Bool := n.isOneOf ["table", "tbody", "tfoot", "thead", "tr"]

/-- Elements that an end tag of another name does not close. -/
def isSpecial (n : Name) : Bool :=
  n.isOneOf
    ["address", "applet", "area", "article", "aside", "base", "basefont", "bgsound", "blockquote",
     "body", "br", "button", "caption", "center", "col", "colgroup", "dd", "details", "dir", "div",
     "dl", "dt", "embed", "fieldset", "figcaption", "figure", "footer", "form", "frame", "frameset",
     "h1", "h2", "h3", "h4", "h5", "h6", "head", "header", "hgroup", "hr", "html", "iframe", "img",
     "input", "isindex", "li", "link", "listing", "main", "marquee", "menu", "meta", "nav",
     "noembed", "noframes", "noscript", "object", "ol", "p", "param", "plaintext", "pre", "script",
     "section", "select", "source", "style", "summary", "table", "tbody", "td", "template",
     "textarea", "tfoot", "th", "thead", "title", "tr", "track", "ul", "wbr", "xmp"]

end Name

end Inlay.Markup
