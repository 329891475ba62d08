/-
# `Inlay.Document.Element` — names and attributes

An element has a name and attributes.  The attributes are a map from names to
values that ignores the case of ASCII letters and remembers the order in which
names were first set:

    attribute? n        the value set last for a name equal to n, if any
    setAttribute n v    a new name goes to the end, in lower case;
                        a known name keeps its place and takes the new value

The value of `class` is read as words between markup spaces.
-/
import Inlay.Text.Blank
import Inlay.Text.Case

namespace Inlay

/-- An element's name and its attributes in the order of their first setting. -/
structure Element where
  name : String
  attributes : List (String × String)
  deriving Repr, DecidableEq

namespace Element

/-- An element without attributes; its name is put in lower case. -/
def ofName (name : String) : Element := ⟨Text.lower name, []⟩

/-- The value stored under a name, up to case. -/
def lookup (name : String) : List (String × String) → Option String
  | [] => none
  | (k, v) :: rest => if Text.sameLetters k name then some v else lookup name rest

/-- Replace the value under a name, or add the name in lower case at the end. -/
def assign (name value : String) : List (String × String) → List (String × String)
  | [] => [(Text.lower name, value)]
  | (k, v) :: rest =>
    if Text.sameLetters k name then (k, value) :: rest else (k, v) :: assign name value rest

def attribute? (e : Element) (name : String) : Option String := lookup name e.attributes

def setAttribute (e : Element) (name value : String) : Element :=
  { e with attributes := assign name value e.attributes }

/-- The words between markup spaces. -/
def words (cs : List Char) : List (List Char) :=
  (cs.splitOnP Text.isSpace).filter (!·.isEmpty)

/-- Whether the value of `class` has the given word. -/
def hasClass (e : Element) (word : String) : Bool :=
  match e.attribute? "class" with
  | none => false
  | some value => (words value.toList).contains word.toList

end Element

end Inlay
