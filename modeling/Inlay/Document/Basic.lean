/-
# `Inlay.Document.Basic` — documents as stores of nodes

A document keeps its nodes in one array and names them by their place in it.
A node has a kind, the children in order, and the parent it hangs under, if
any.  Place 0 holds the root.  Nodes are only ever added: a node that was
taken out of the tree keeps its place and its subtree, and is merely not
reachable from the root any more.

An identifier may come from another document.  One that this document never
handed out names no node: reading it finds nothing, and changing it does
nothing.

    appendChild p c   moves c behind the last child of p, unless p or c is no
                      node, or c is p or an ancestor of p
    remove c          takes c from its parent
    descendants n     the nodes below n in document order

Climbing to the root and listing a subtree both end after as many steps as
there are nodes; the bound is the size of the store.
-/
import Inlay.Document.Element

namespace Inlay

/-- The name of a node: its place in the store that handed it out. -/
structure NodeId where
  index : Nat
  deriving Repr, DecidableEq

/-- What a node is. -/
inductive NodeKind
  | root
  | element (e : Element)
  | text (s : String)
  | comment (s : String)
  | doctype (name : String)
  deriving Repr, DecidableEq

structure Node where
  kind : NodeKind
  parent : Option NodeId
  children : List NodeId
  deriving Repr, DecidableEq

/-- A store of nodes; the root is the first of them. -/
structure Document where
  nodes : Array Node
  deriving Repr, DecidableEq

namespace Document

/-- The document that holds only its root. -/
def new : Document := ⟨#[⟨.root, none, []⟩]⟩

instance : Inhabited Document := ⟨new⟩

def root : NodeId := ⟨0⟩

/-! ## Reading -/

def size (d : Document) : Nat := d.nodes.size

def node? (d : Document) (id : NodeId) : Option Node := d.nodes[id.index]?

/-- Whether an identifier names a node of this document. -/
def contains (d : Document) (id : NodeId) : Bool := id.index < d.nodes.size

def kind? (d : Document) (id : NodeId) : Option NodeKind := (d.node? id).map (·.kind)

def element? (d : Document) (id : NodeId) : Option Element :=
  match d.kind? id with
  | some (.element e) => some e
  | _ => none

def parent? (d : Document) (id : NodeId) : Option NodeId := (d.node? id).bind (·.parent)

def children (d : Document) (id : NodeId) : List NodeId :=
  match d.node? id with
  | some n => n.children
  | none => []

def attribute? (d : Document) (id : NodeId) (name : String) : Option String :=
  (d.element? id).bind (·.attribute? name)

/-! ## Changing one node -/

def modifyNode (d : Document) (id : NodeId) (f : Node → Node) : Document :=
  ⟨d.nodes.modify id.index f⟩

/-- Change the element at a node; nodes of other kinds stay as they are. -/
def modifyElement (d : Document) (id : NodeId) (f : Element → Element) : Document :=
  d.modifyNode id fun n =>
    match n.kind with
    | .element e => { n with kind := .element (f e) }
    | _ => n

def setAttribute (d : Document) (id : NodeId) (name value : String) : Document :=
  d.modifyElement id (·.setAttribute name value)

/-! ## New nodes -/

/-- Add a node that hangs nowhere. -/
def create (d : Document) (kind : NodeKind) : Document × NodeId :=
  (⟨d.nodes.push ⟨kind, none, []⟩⟩, ⟨d.nodes.size⟩)

def createElement (d : Document) (name : String) : Document × NodeId :=
  d.create (.element (.ofName name))

def createText (d : Document) (s : String) : Document × NodeId := d.create (.text s)

def createComment (d : Document) (s : String) : Document × NodeId := d.create (.comment s)

def createDoctype (d : Document) (name : String) : Document × NodeId := d.create (.doctype name)

/-! ## Climbing -/

/-- The first `n` nodes on the way up from a node. -/
def climb (d : Document) : Nat → NodeId → List NodeId
  | 0, _ => []
  | n + 1, id =>
    match d.parent? id with
    | none => []
    | some p => p :: d.climb n p

/-- The proper ancestors of a node, nearest first. -/
def ancestors (d : Document) (id : NodeId) : List NodeId := d.climb d.size id

/-- Whether `a` is a proper ancestor of `id`. -/
def isAncestor (d : Document) (a id : NodeId) : Bool := (d.ancestors id).contains a

/-- Whether a node is the root or below it. -/
def isAttached (d : Document) (id : NodeId) : Bool := id = root || d.isAncestor root id

/-! ## Moving nodes -/

/-- Take a node from its parent. -/
def remove (d : Document) (id : NodeId) : Document :=
  match d.parent? id with
  | none => d
  | some p =>
    (d.modifyNode id ({ · with parent := none })).modifyNode p fun n =>
      { n with children := n.children.filter (· ≠ id) }

/-- Hang a node behind the last child of another, wherever it hung before. -/
def hang (d : Document) (parent child : NodeId) : Document :=
  ((d.remove child).modifyNode child ({ · with parent := some parent })).modifyNode parent fun n =>
    { n with children := n.children ++ [child] }

/-- Move `child` to the end of `parent`, unless that would be no tree. -/
def appendChild (d : Document) (parent child : NodeId) : Document :=
  if d.contains parent && d.contains child && parent ≠ child && !d.isAncestor child parent then
    d.hang parent child
  else d

/-- Add text at the end of a node, joined to a text that is there already. -/
def appendText (d : Document) (parent : NodeId) (s : String) : Document :=
  if s.isEmpty || !d.contains parent then d
  else
    match (d.children parent).getLast?.map fun last => (last, d.kind? last) with
    | some (last, some (.text t)) => d.modifyNode last ({ · with kind := .text (t ++ s) })
    | _ =>
      let (d, id) := d.createText s
      d.appendChild parent id

/-! ## Subtrees -/

/-- Visit the nodes of a stack and what is below them, `n` at the most. -/
def visit (d : Document) : Nat → List NodeId → List NodeId
  | 0, _ => []
  | _, [] => []
  | n + 1, id :: rest => id :: d.visit n (d.children id ++ rest)

/-- The nodes below a node, in document order. -/
def descendants (d : Document) (id : NodeId) : List NodeId := d.visit d.size (d.children id)

/-- The characters that a node contributes to the text of a document. -/
def ownText (d : Document) (id : NodeId) : String :=
  match d.kind? id with
  | some (.text s) => s
  | _ => ""

/-- The text of a node and of all nodes below it. -/
def textContent (d : Document) (id : NodeId) : String :=
  String.join (d.ownText id :: (d.descendants id).map d.ownText)

end Document

end Inlay
