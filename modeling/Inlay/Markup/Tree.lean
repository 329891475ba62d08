/-
# `Inlay.Markup.Tree` — what markup says

The result of parsing: a finite ordered tree.  Elements belong to one of three
vocabularies and carry their attributes in source order; some attributes of
foreign elements have a prefix.  A template element keeps what it holds apart
from its children.  `instruction` and `document` nodes complete the picture;
the parser of this library makes none of them below the top.
-/

namespace Inlay.Markup

/-- The vocabulary that an element belongs to. -/
inductive Vocabulary
  | html
  | svg
  | mathml
  deriving Repr, DecidableEq

structure Attribute where
  scope : Option String
  name : String
  value : String
  deriving Repr, DecidableEq

inductive Tree
  | document (children : List Tree)
  | doctype (name : String)
  | text (s : String)
  | comment (s : String)
  | instruction (target content : String)
  | element (vocabulary : Vocabulary) (name : String) (attributes : List Attribute)
      (children : List Tree) (contents : List Tree)
  deriving Repr

instance : Inhabited Tree := ⟨.text ""⟩

/-- The name under which an attribute is stored. -/
def Attribute.key (a : Attribute) : String :=
  match a.scope with
  | none => a.name
  | some scope => scope ++ ":" ++ a.name

end Inlay.Markup
