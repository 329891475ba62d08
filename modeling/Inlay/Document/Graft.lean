/-
# `Inlay.Document.Graft` — parsed markup in a document

`graftAll p ts` copies trees to the end of the node `p`, in order.

    element       an element with the same attributes, names in lower case,
                  its children, and behind them a template's contents
    text          joined to a text that stands just before it; nothing if empty
    comment       a comment
    doctype       a document type
    instruction   nothing
    document      its children

A fragment is parsed under the name of the element it is for, and `body`
stands for any other node.  The `html` element at its top is no part of it.
-/
import Inlay.Document.Basic
import Inlay.Markup.Parse

namespace Inlay.Document

open Markup (Tree)

mutual

/-- Copy a tree to the end of a node. -/
def graft (d : Document) (parent : NodeId) : Tree → Document
  | .document children => d.graftAll parent children
  | .doctype name =>
    let (d, id) := d.createDoctype name
    d.appendChild parent id
  | .text s => d.appendText parent s
  | .comment s =>
    let (d, id) := d.createComment s
    d.appendChild parent id
  | .instruction _ _ => d
  | .element _ name attributes children contents =>
    let (d, id) := d.createElement name
    let d := attributes.foldl (fun d a => d.setAttribute id a.key a.value) d
    let d := d.appendChild parent id
    (d.graftAll id children).graftAll id contents

/-- Copy trees to the end of a node, in order. -/
def graftAll (d : Document) (parent : NodeId) : List Tree → Document
  | [] => d
  | t :: rest => (d.graft parent t).graftAll parent rest

end

/-- The trees of a fragment without the element around them. -/
def unwrap (ts : List Tree) : List Tree :=
  ts.flatMap fun t =>
    match t with
    | .element _ name _ children _ => if name = "html" then children else [t]
    | t => [t]

/-- The element name under which the content of a node is parsed. -/
def contextOf (d : Document) (id : NodeId) : String :=
  match d.element? id with
  | some e => e.name
  | none => "body"

/-- Parse a text as content of a node and add it at the end. -/
def appendFragment (d : Document) (parent : NodeId) (text : String) : Document :=
  d.graftAll parent (unwrap (Markup.parseFragment (d.contextOf parent) text))

/-- The same, for identifiers that may name no node. -/
def appendMarkup (d : Document) (parent : NodeId) (text : String) : Document :=
  if d.contains parent then d.appendFragment parent text else d

/-- A whole page. -/
def ofPage (text : String) : Document := new.graftAll root (Markup.parseDocument text)

/-- Content of a body. -/
def ofFragment (text : String) : Document := new.appendFragment root text

/-- A page if the text looks like one, else content of a body. -/
def parse (text : String) : Document :=
  if Markup.isPage text then ofPage text else ofFragment text

end Inlay.Document
