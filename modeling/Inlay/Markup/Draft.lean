/-
# `Inlay.Markup.Draft` — a tree under construction

Tree construction moves nodes about, so it works on a store of nodes named by
their place; place 0 is the document itself.  When it is done the store is
read off as trees.  Text that meets a text before it joins that text.  The
contents of a template are children of a node of their own.
-/
import Inlay.Markup.Names

namespace Inlay.Markup

/-- An element of a draft; `contents` names the node that holds a template's contents, and
`embeds` marks the annotations whose content is markup of the page. -/
structure Drawn where
  name : Name
  attributes : List Attribute
  contents : Option Nat
  embeds : Bool
  deriving Repr

inductive DraftKind
  | holder
  | doctype (name : String)
  | element (e : Drawn)
  | text (s : String)
  | comment (s : String)
  deriving Repr

structure DraftNode where
  kind : DraftKind
  parent : Option Nat
  children : List Nat
  deriving Repr

structure Draft where
  nodes : Array DraftNode

namespace Draft

def empty : Draft := ⟨#[⟨.holder, none, []⟩]⟩

/-- The place of the document. -/
def document : Nat := 0

def kind (d : Draft) (n : Nat) : DraftKind := (d.nodes[n]?.map (·.kind)).getD .holder

def parent? (d : Draft) (n : Nat) : Option Nat := d.nodes[n]?.bind (·.parent)

def children (d : Draft) (n : Nat) : List Nat := (d.nodes[n]?.map (·.children)).getD []

def element? (d : Draft) (n : Nat) : Option Drawn :=
  match d.kind n with
  | .element e => some e
  | _ => none

/-- The name of an element; a name of no element for other nodes. -/
def name (d : Draft) (n : Nat) : Name := ((d.element? n).map (·.name)).getD ⟨.html, ""⟩

def add (d : Draft) (kind : DraftKind) : Draft × Nat :=
  (⟨d.nodes.push ⟨kind, none, []⟩⟩, d.nodes.size)

def modify (d : Draft) (n : Nat) (f : DraftNode → DraftNode) : Draft := ⟨d.nodes.modify n f⟩

/-- Whether the content of an annotation is markup of the page. -/
def embedsMarkup (name : Name) (attributes : List Attribute) : Bool :=
  name = ⟨.mathml, "annotation-xml"⟩ &&
    attributes.any fun a =>
      a.scope.isNone && a.name = "encoding" &&
        ["text/html", "application/xhtml+xml"].contains (String.ofList (a.value.toList.map Char.toLower))

/-- Add an element; a template gets a node for its contents. -/
def addElement (d : Draft) (name : Name) (attributes : List Attribute) : Draft × Nat :=
  let embeds := embedsMarkup name attributes
  if name.isHtml "template" then
    let (d, holder) := d.add .holder
    d.add (.element ⟨name, attributes, some holder, embeds⟩)
  else d.add (.element ⟨name, attributes, none, embeds⟩)

/-- Take a node from its parent. -/
def detach (d : Draft) (n : Nat) : Draft :=
  match d.parent? n with
  | none => d
  | some p =>
    (d.modify n ({ · with parent := none })).modify p fun x =>
      { x with children := x.children.filter (· ≠ n) }

/-- Hang a node under a parent at a place among the children. -/
def insertAt (d : Draft) (parent index n : Nat) : Draft :=
  ((d.detach n).modify n ({ · with parent := some parent })).modify parent fun x =>
    { x with children := x.children.take index ++ n :: x.children.drop index }

def append (d : Draft) (parent n : Nat) : Draft := d.insertAt parent (d.children parent).length n

/-- Put text at a place among the children, joined to a text just before it. -/
def insertText (d : Draft) (parent index : Nat) (s : String) : Draft :=
  let before := if index = 0 then none else (d.children parent)[index - 1]?
  match before.map fun b => (b, d.kind b) with
  | some (b, .text _) =>
    d.modify b fun x =>
      match x.kind with
      | .text t => { x with kind := .text (t ++ s) }
      | _ => x
  | _ =>
    let (d, n) := d.add (.text s)
    d.insertAt parent index n

/-- Move all children of a node to the end of another. -/
def moveChildren (d : Draft) (source target : Nat) : Draft :=
  (d.children source).foldl (fun d n => d.append target n) d

/-- Add the attributes whose names an element does not have. -/
def addMissing (d : Draft) (n : Nat) (attributes : List Attribute) : Draft :=
  d.modify n fun x =>
    match x.kind with
    | .element e =>
      let new := attributes.filter fun a =>
        !e.attributes.any fun b => b.scope = a.scope && b.name = a.name
      { x with kind := .element { e with attributes := e.attributes ++ new } }
    | _ => x

/-- The tree below and with a node; `fuel` bounds its depth. -/
def tree (d : Draft) (fuel : Nat) (n : Nat) : Tree :=
  match fuel with
  | 0 => .text ""
  | fuel + 1 =>
    match d.kind n with
    | .holder => .document ((d.children n).map (d.tree fuel))
    | .doctype name => .doctype name
    | .text s => .text s
    | .comment s => .comment s
    | .element e =>
      .element e.name.vocabulary e.name.tag e.attributes ((d.children n).map (d.tree fuel))
        (match e.contents with
          | none => []
          | some holder => (d.children holder).map (d.tree fuel))

/-- The trees of the document. -/
def trees (d : Draft) : List Tree := (d.children document).map (d.tree d.nodes.size)

end Draft

end Inlay.Markup
