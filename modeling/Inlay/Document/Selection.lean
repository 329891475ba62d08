/-
# `Inlay.Document.Selection` — lists of nodes that remember their selector

A selection is a list of nodes together with the selector text that found
them, if a selector did.  The text is kept because it is the key under which
a template given by a selection is known.
-/
import Inlay.Document.Basic

namespace Inlay

structure Selection where
  nodes : List NodeId
  selector : Option String
  deriving Repr, DecidableEq

namespace Selection

/-- No nodes, found by no selector. -/
def empty : Selection := ⟨[], none⟩

instance : Inhabited Selection := ⟨empty⟩

/-- Nodes that no selector found. -/
def ofNodes (nodes : List NodeId) : Selection := ⟨nodes, none⟩

def ofNode (id : NodeId) : Selection := ofNodes [id]

def first? (s : Selection) : Option NodeId := s.nodes.head?

/-- Only the first node, under the same selector. -/
def first (s : Selection) : Selection := { s with nodes := s.nodes.take 1 }

theorem first?_first (s : Selection) : s.first.first? = s.first? := by
  cases h : s.nodes <;> simp [first, first?, h]

end Selection

end Inlay
