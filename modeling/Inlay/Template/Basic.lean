/-
# `Inlay.Template.Basic` — templates as data

A template is a row of elements, each with its place in the source:

    text        written as it is
    value       a value or the answer of a helper, escaped or not
    block       a call with a body and perhaps an alternative
    decorator   a call that changes what the rest of the template sees
    inclusion   a partial, perhaps with a body that it may include in turn
    comment     nothing

A path goes through the data by keys.  It starts at the value at hand, at the
whole data (`root`) or further out by one block for each `up`; a path behind
`@` names a variable of a block instead.
-/
import Inlay.Data.Value

namespace Inlay

/-- A place in a source: line and column, both from one; columns count characters. -/
structure Mark where
  line : Nat
  column : Nat
  deriving Repr, DecidableEq

namespace Template

inductive Step
  | key (name : String)
  | up
  | root
  deriving Repr, DecidableEq

/-- A path as it is written and what it means. -/
inductive Path
  | data (steps : List Step) (raw : String)
  | variable (level : Nat) (name : String) (raw : String)
  deriving Repr, DecidableEq

def Path.raw : Path → String
  | .data _ raw => raw
  | .variable _ _ raw => raw

mutual

/-- What a call is given; also the name of a call, which may itself be looked up or computed. -/
inductive Argument
  | word (s : String)
  | path (p : Path)
  | literal (v : Data.Value)
  | call (c : Call)

/-- A name, the inputs in order and the inputs by key. -/
inductive Call
  | mk (name : Argument) (inputs : List Argument) (options : List (String × Argument))

end

namespace Call

def name : Call → Argument | .mk n _ _ => n
def inputs : Call → List Argument | .mk _ i _ => i
def options : Call → List (String × Argument) | .mk _ _ o => o

/-- A name without any input. -/
def isBare (c : Call) : Bool := c.inputs.isEmpty && c.options.isEmpty

end Call

/-- The name that an argument is by itself, before any data is known. -/
def Argument.ownName? : Argument → Option String
  | .word s => some s
  | .path p => some p.raw
  | .literal _ => none
  | .call _ => none

end Template

mutual

inductive Template.Element
  | text (s : String)
  | value (escaped : Bool) (call : Template.Call)
  | block (call : Template.Call) (names : List String) (ownLine : Bool) (body : Template)
      (otherwise : Option Template)
  | decorator (call : Template.Call) (body : Option Template)
  | inclusion (call : Template.Call) (indent : Option String) (body : Option Template)
  | comment

/-- The elements in order, each with its place; bodies of blocks have no title. -/
inductive Template
  | mk (title : Option String) (elements : List (Template.Element × Option Mark))

end

namespace Template

def title : Template → Option String | .mk t _ => t
def elements : Template → List (Element × Option Mark) | .mk _ es => es

end Template

end Inlay
