/-
# `Inlay.Dispatch.Action` — the words that name an action

    get  find              the rendered nodes
    compiled  store        the compiled templates
    clear  empty  remove   take rendered nodes away
    any other word         render a template and add it

Blanks around a word and the case of its ASCII letters do not matter.  Blanks
alone name no action.
-/
import Inlay.Text.Blank
import Inlay.Text.Case

namespace Inlay

inductive Action
  | get
  | compiled
  | remove
  | add
  deriving Repr, DecidableEq

namespace Action

/-- The action that a word names. -/
def named? (word : String) : Option Action :=
  match Text.lower (Text.trim word) with
  | "" => none
  | "get" | "find" => some .get
  | "compiled" | "store" => some .compiled
  | "clear" | "empty" | "remove" => some .remove
  | _ => some .add

def name : Action → String
  | .get => "get"
  | .compiled => "compiled"
  | .remove => "remove"
  | .add => "add"

end Action

end Inlay
