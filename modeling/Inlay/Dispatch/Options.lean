/-
# `Inlay.Dispatch.Options` — options of a call, and partial options

Options are complete; overrides leave open what they do not say.

    o.merge p        the options p says, and those of o where it says nothing
    p.followedBy q   what q says, else what p says

Merging twice is merging once with both: `merge_followedBy`.

Overrides may also be read from a loose value.  A flag that is no truth value
says nothing; a removal or output type that is no known name says the default.
-/
import Inlay.Text.Blank
import Inlay.Text.Case
import Inlay.Data.Value

namespace Inlay

/-- Which rendered nodes are taken away. -/
inductive Removal
  | none
  | same
  | all
  deriving Repr, DecidableEq

namespace Removal

/-- The removal of a name. -/
def named? (s : String) : Option Removal :=
  match Text.lower (Text.trim s) with
  | "none" => some .none
  | "same" => some .same
  | "all" => some .all
  | _ => Option.none

def name : Removal → String
  | .none => "none"
  | .same => "same"
  | .all => "all"

end Removal

/-- What becomes of a rendered fragment. -/
inductive Output
  /-- It is added to the target in a container of its own. -/
  | append
  /-- It is answered as a document. -/
  | html
  /-- It is answered as text. -/
  | raw
  /-- The same as `raw`. -/
  | compiled
  deriving Repr, DecidableEq

namespace Output

/-- The output of a name. -/
def named? (s : String) : Option Output :=
  match Text.lower (Text.trim s) with
  | "append" => some .append
  | "html" => some .html
  | "raw" => some .raw
  | "compiled" => some .compiled
  | _ => none

def name : Output → String
  | .append => "append"
  | .html => "html"
  | .raw => "raw"
  | .compiled => "compiled"

end Output

structure Options where
  /-- Removing rendered nodes also forgets their compiled templates. -/
  deleteCompiled : Bool := true
  /-- A compiled template is kept once it is rendered. -/
  storeCompiled : Bool := true
  /-- A template is rendered also where it is rendered already. -/
  refill : Bool := true
  /-- What is taken away before a template is rendered. -/
  removal : Removal := .none
  output : Output := .append
  /-- Data that is empty is not rendered. -/
  validate : Bool := true
  deriving Repr, DecidableEq

instance : Inhabited Options := ⟨{}⟩

structure Overrides where
  deleteCompiled : Option Bool := none
  storeCompiled : Option Bool := none
  refill : Option Bool := none
  removal : Option Removal := none
  output : Option Output := none
  validate : Option Bool := none
  deriving Repr, DecidableEq

instance : Inhabited Overrides := ⟨{}⟩

namespace Options

/-- The options with what the overrides say. -/
def merge (o : Options) (p : Overrides) : Options where
  deleteCompiled := p.deleteCompiled.getD o.deleteCompiled
  storeCompiled := p.storeCompiled.getD o.storeCompiled
  refill := p.refill.getD o.refill
  removal := p.removal.getD o.removal
  output := p.output.getD o.output
  validate := p.validate.getD o.validate

end Options

namespace Overrides

/-- What the later overrides say, else what the earlier ones say. -/
def followedBy (p later : Overrides) : Overrides where
  deleteCompiled := later.deleteCompiled <|> p.deleteCompiled
  storeCompiled := later.storeCompiled <|> p.storeCompiled
  refill := later.refill <|> p.refill
  removal := later.removal <|> p.removal
  output := later.output <|> p.output
  validate := later.validate <|> p.validate

/-- The flag of a record. -/
def flag? (v : Data.Value) (key : String) : Option Bool :=
  match v.field? key with
  | some (.bool b) => some b
  | _ => none

/-- The value that a field of a record names, `default` for a field that names none. -/
def name? {α : Type} (v : Data.Value) (key : String) (read : String → Option α) (default : α) :
    Option α :=
  (v.field? key).map fun w =>
    match w with
    | .string s => (read s).getD default
    | _ => default

/-- The overrides that a loose value says; one that is no record says nothing. -/
def ofValue (v : Data.Value) : Overrides where
  deleteCompiled := flag? v "deleteCompiled"
  storeCompiled := flag? v "storeCompiled"
  refill := flag? v "refill"
  removal := name? v "removeType" Removal.named? .none
  output := name? v "type" Output.named? .append
  validate := flag? v "validate"

end Overrides

theorem Options.merge_empty (o : Options) : o.merge {} = o := rfl

theorem Option.getD_orElse {α : Type} (a b : Option α) (c : α) :
    (a <|> b).getD c = a.getD (b.getD c) := by
  cases a <;> rfl

/-- Merging twice is merging once with both. -/
theorem Options.merge_followedBy (o : Options) (p q : Overrides) :
    o.merge (p.followedBy q) = (o.merge p).merge q := by
  simp only [Options.merge, Overrides.followedBy, Option.getD_orElse]

end Inlay
