/-
# `Inlay.Selector.Basic` — selectors and what they match

A selector is a group of alternatives.  Each alternative is a row of compound
selectors joined by combinators and read from right to left: the last compound
describes the node itself, the others describe nodes above it.

    A > B     the parent of the node matches A
    A   B     some proper ancestor of the node matches A

and, in a longer row, the node found for A must have matching nodes above it
in turn.  `climbs` follows one row upwards and tries every ancestor for a
descendant combinator.  A compound is the conjunction of its parts.
-/
import Inlay.Document.Basic

namespace Inlay

inductive Combinator
  | descendant
  | child
  deriving Repr, DecidableEq

/-- A condition on one attribute. -/
inductive AttributeTest
  | present (name : String)
  | equals (name value : String)
  deriving Repr, DecidableEq

/-- The conditions that one node must meet; `tag` may be `*`. -/
structure Compound where
  tag : Option String
  id : Option String
  classes : List String
  attributes : List AttributeTest
  deriving Repr, DecidableEq

/-- A row of compounds; each further one comes with the combinator before it. -/
structure Complex where
  first : Compound
  rest : List (Combinator × Compound)
  deriving Repr, DecidableEq

structure Selector where
  groups : List Complex
  deriving Repr, DecidableEq

def AttributeTest.holds (t : AttributeTest) (e : Element) : Bool :=
  match t with
  | .present name => (e.attribute? name).isSome
  | .equals name value => e.attribute? name = some value

namespace Compound

/-- The conditions on an element. -/
def holds (c : Compound) (e : Element) : Bool :=
  (match c.tag with
    | none => true
    | some tag => tag = "*" || Text.sameLetters e.name tag) &&
  (match c.id with
    | none => true
    | some wanted => e.attribute? "id" = some wanted) &&
  c.classes.all e.hasClass && c.attributes.all (·.holds e)

/-- A compound matches the elements that meet its conditions, and no other node. -/
def matchesNode (c : Compound) (d : Document) (id : NodeId) : Bool :=
  match d.element? id with
  | none => false
  | some e => c.holds e

/-- Whether nothing is asked. -/
def isEmpty (c : Compound) : Bool :=
  c.tag.isNone && c.id.isNone && c.classes.isEmpty && c.attributes.isEmpty

end Compound

namespace Complex

/-- The compounds above the last one, nearest first, each with the combinator that leads to it;
and the last one. -/
def upward (first : Compound) :
    List (Combinator × Compound) → List (Combinator × Compound) → List (Combinator × Compound) × Compound
  | acc, [] => (acc, first)
  | acc, (k, c) :: rest => upward c ((k, first) :: acc) rest

/-- Follow a row upwards from a node. -/
def climbs (d : Document) : List (Combinator × Compound) → NodeId → Bool
  | [], _ => true
  | (.child, c) :: rest, id =>
    match d.parent? id with
    | none => false
    | some p => c.matchesNode d p && climbs d rest p
  | (.descendant, c) :: rest, id =>
    (d.ancestors id).any fun p => c.matchesNode d p && climbs d rest p

def matchesNode (c : Complex) (d : Document) (id : NodeId) : Bool :=
  let (above, subject) := upward c.first [] c.rest
  subject.matchesNode d id && climbs d above id

end Complex

/-- A group matches what one of its alternatives matches. -/
def Selector.matchesNode (s : Selector) (d : Document) (id : NodeId) : Bool :=
  s.groups.any (·.matchesNode d id)

end Inlay
