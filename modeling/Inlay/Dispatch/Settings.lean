/-
# `Inlay.Dispatch.Settings` — options from a settings file

    deleteCompiled  storeCompiled  refill  validate    true or false
    removeType  type                                   a name, in any letter case

A settings file says options where the usual ones do not fit; a name that is
unknown stands for the usual one, and keys that are unknown say nothing.  A key
whose value is of another kind is refused where the value stands: a table where
its header does, and one without header where its key does.
-/
import Inlay.Dispatch.Options
import Inlay.Files.Basic
import Inlay.Toml.Place
import Inlay.Toml.Reader

namespace Inlay

/-- Why a settings file says no options. -/
inductive SettingsError
  | unreadable (reason : FileError)
  | malformed (line column : Nat)
  deriving Repr, DecidableEq

def SettingsError.message : SettingsError → String
  | .unreadable reason => "Failed to read options file: " ++ reason.message
  | .malformed line column =>
    "Failed to parse options TOML: TOML parse error at line " ++ toString line ++ ", column " ++
      toString column

namespace Settings

open Toml (Item)

/-- Where an item stands; `key` is the place of its key. -/
def startOf (key : Nat) : Item → Nat
  | .value _ start => start
  | .table t => t.start.getD key
  | .tables ts => (ts.head?.bind (·.start)).getD key

/-- A truth value, or the place of another item. -/
def flag (key : Nat) : Item → Except Nat Bool
  | .value (.bool b) _ => .ok b
  | i => .error (startOf key i)

/-- A string, or the place of another item. -/
def word (key : Nat) : Item → Except Nat String
  | .value (.string s) _ => .ok s
  | i => .error (startOf key i)

/-- What one item of the root table says. -/
def say (p : Overrides) (item : String × Nat × Item) : Except Nat Overrides := do
  let (name, key, i) := item
  match name with
  | "deleteCompiled" => return { p with deleteCompiled := some (← flag key i) }
  | "storeCompiled" => return { p with storeCompiled := some (← flag key i) }
  | "refill" => return { p with refill := some (← flag key i) }
  | "validate" => return { p with validate := some (← flag key i) }
  | "removeType" =>
    return { p with removal := some ((Removal.named? (← word key i)).getD .none) }
  | "type" => return { p with output := some ((Output.named? (← word key i)).getD .append) }
  | _ => return p

/-- The options that a root table says, in the order of its keys. -/
def ofTable (t : Toml.Table) : Except Nat Overrides := t.items.foldlM say {}

end Settings

/-- The options of a settings text. -/
def Options.ofSettings (text : String) : Except SettingsError Options :=
  match (Toml.read text).bind Settings.ofTable with
  | .ok p => .ok (Options.merge {} p)
  | .error place =>
    let (line, column) := Toml.lineAndColumn text.toList place
    .error (.malformed line column)

/-- The options of the settings file at a path. -/
def Options.ofFile (read : FileReader) (path : String) : Except SettingsError Options :=
  match read path with
  | .ok text => Options.ofSettings text
  | .error e => .error (.unreadable e)

end Inlay
