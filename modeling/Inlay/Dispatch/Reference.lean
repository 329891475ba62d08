/-
# `Inlay.Dispatch.Reference` — how a call names its template

A template is named by a key, which is also the selector of the node that holds
its markup, or by a selection, whose key is the selector that it was made by
and whose first node holds the markup.  A blank key is no key.

Only a key that is given as such restricts `get` and `remove` to the nodes of
one template; a selection stands for the markup alone.
-/
import Inlay.Text.Blank
import Inlay.Document.Selection
import Inlay.Selector.Reader

namespace Inlay

inductive TemplateRef
  | key (k : String)
  | selection (s : Selection)
  | absent
  deriving Repr, DecidableEq

namespace TemplateRef

/-- A key that is not blank. -/
def proper (k : String) : Option String := if Text.isAllBlank k then none else some k

/-- The key that the template is kept under. -/
def key? : TemplateRef → Option String
  | .key k => proper k
  | .selection s => s.selector.bind proper
  | .absent => none

/-- The key that was given as such. -/
def concreteKey? : TemplateRef → Option String
  | .key k => proper k
  | _ => none

/-- The node that holds the markup of the template. -/
def source? (t : TemplateRef) (d : Document) : Option NodeId :=
  match t with
  | .key k => (d.select k).first?
  | .selection s => s.first?
  | .absent => none

end TemplateRef

end Inlay
