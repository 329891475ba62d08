/-
# `Inlay.Document.Writer` — documents as markup

`&`, `<`, `>` and U+00A0 in text, and `&`, `"` and U+00A0 in attribute values,
are written as references.  Text directly in an element whose content is raw
is written as it is.  Void elements have no end tag; elements inside one are
not written, but text and comments inside it are.

`outer` writes a node with its own tag.  `inner` writes what is in a node, and
knows the name of the node when it writes text; `outer` of a bare text does
not, and writes references.
-/
import Inlay.Document.Basic

namespace Inlay.Document

/-- Elements whose text is written as it is. -/
def isRawText (name : String) : Bool :=
  ["style", "script", "xmp", "iframe", "noembed", "noframes", "plaintext", "noscript"].contains name

/-- Elements that are written without content and end tag. -/
def isVoid (name : String) : Bool :=
  ["area", "base", "basefont", "bgsound", "br", "col", "embed", "frame", "hr", "img", "input",
   "keygen", "link", "meta", "param", "source", "track", "wbr"].contains name

def escapeTextChar (c : Char) : List Char :=
  if c = '&' then ['&', 'a', 'm', 'p', ';']
  else if c = '\u00a0' then ['&', 'n', 'b', 's', 'p', ';']
  else if c = '<' then ['&', 'l', 't', ';']
  else if c = '>' then ['&', 'g', 't', ';']
  else [c]

def escapeValueChar (c : Char) : List Char :=
  if c = '&' then ['&', 'a', 'm', 'p', ';']
  else if c = '\u00a0' then ['&', 'n', 'b', 's', 'p', ';']
  else if c = '"' then ['&', 'q', 'u', 'o', 't', ';']
  else [c]

/-- Text with references. -/
def escapeText (s : String) : String := String.ofList (s.toList.flatMap escapeTextChar)

/-- An attribute value with references. -/
def escapeValue (s : String) : String := String.ofList (s.toList.flatMap escapeValueChar)

/-- Text under a parent of the given name. -/
def writeText (parent : Option String) (s : String) : String :=
  if (parent.map isRawText).getD false then s else escapeText s

def writeAttributes (attributes : List (String × String)) : String :=
  String.join (attributes.map fun (k, v) => " " ++ k ++ "=\"" ++ escapeValue v ++ "\"")

/-- A node under a parent of the given name; `hidden` says that the parent is a void element, and
`fuel` bounds the depth. -/
def writeNode (d : Document) (fuel : Nat) (parent : Option String) (hidden : Bool) (id : NodeId) :
    String :=
  match fuel with
  | 0 => ""
  | fuel + 1 =>
    match d.kind? id with
    | none => ""
    | some .root => String.join ((d.children id).map (d.writeNode fuel parent hidden))
    | some (.text s) => writeText parent s
    | some (.comment s) => "<!--" ++ s ++ "-->"
    | some (.doctype name) => "<!DOCTYPE " ++ name ++ ">"
    | some (.element e) =>
      let bare := hidden || isVoid e.name
      let content := String.join ((d.children id).map (d.writeNode fuel (some e.name) bare))
      if hidden then content
      else
        let start := "<" ++ e.name ++ writeAttributes e.attributes ++ ">"
        if bare then start ++ content else start ++ content ++ "</" ++ e.name ++ ">"

/-- A node with its own tag. -/
def outer (d : Document) (id : NodeId) : String := d.writeNode (d.size + 1) none false id

/-- What is in a node. -/
def inner (d : Document) (id : NodeId) : String :=
  let name := (d.element? id).map (·.name)
  String.join ((d.children id).map (d.writeNode (d.size + 1) name false))

/-- The whole document. -/
def write (d : Document) : String := d.inner root

end Inlay.Document
