/-
# `Inlay.Dispatch.Rendered` — the rendered nodes of a document

What a template renders hangs in a container: a `div` whose attribute
`data-template-id` holds the marker of the template's key.  The rendered nodes
below a node are its descendants of this shape, in document order; for a key
only those with its marker.  They are listed under the selector that finds them.
-/
import Inlay.Document.Selection
import Inlay.Dispatch.Cache

namespace Inlay

/-- The attribute that holds the marker. -/
def markerAttribute : String := "data-template-id"

namespace Document

/-- The marker of a container; nothing for other nodes. -/
def marker? (d : Document) (id : NodeId) : Option String :=
  match d.element? id with
  | some e => if e.name = "div" then e.attribute? markerAttribute else none
  | none => none

/-- The rendered nodes below a node, those of one key only if a key is given. -/
def renderedNodes (d : Document) (scope : NodeId) (key : Option String) : List NodeId :=
  (d.descendants scope).filter fun id =>
    match d.marker? id, key with
    | some m, some k => m = markerOf k
    | some _, none => true
    | none, _ => false

/-- The selector of rendered nodes. -/
def renderedSelector (key : Option String) : String :=
  match key with
  | some k => "div[" ++ markerAttribute ++ "=\"" ++ markerOf k ++ "\"]"
  | none => "div[" ++ markerAttribute ++ "]"

/-- The rendered nodes below a node, under their selector. -/
def rendered (d : Document) (scope : NodeId) (key : Option String) : Selection :=
  ⟨d.renderedNodes scope key, some (renderedSelector key)⟩

end Document

end Inlay
