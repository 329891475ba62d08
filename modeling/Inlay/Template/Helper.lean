/-
# `Inlay.Template.Helper` — the helpers that every template has

    if unless each with       blocks; as a value they are the empty text
    raw                       a block that shows its body
    log                       checks its level and shows nothing
    lookup list index         a member of a list, by a number
    lookup record key         a member of a record, by a text
    len x                     the items of a list, the fields of a record,
                              the bytes of a text; of anything else zero
    eq ne gt gte lt lte       comparisons of two values
    and or not                the truth of all, of any, and of none

A comparison or a truth may also open a block; its body is shown if it holds,
else its alternative.
-/
import Inlay.Text.Blank
import Inlay.Template.Shown
import Inlay.Template.Scope

namespace Inlay.Template

open Data (Value)

/-- Why a template cannot be rendered. -/
inductive RenderFault
  | helperNotFound (name : String)
  | decoratorNotFound (name : String)
  | partialNotFound (name : String)
  | bodyNotFound
  | inputMissing (helper : String) (index : Nat)
  | namedInputMissing (helper name : String)
  | bodyRequired
  | textRequired
  | badIndex (key : String)
  | badLevel (level : String)
  | includesItself
  | tooDeep
  deriving Repr, DecidableEq

def RenderFault.message : RenderFault → String
  | .helperNotFound name => "Helper not found " ++ name
  | .decoratorNotFound name => "Decorator not found " ++ name
  | .partialNotFound name => "Partial not found " ++ name
  | .bodyNotFound => "Partial block cound not be found"
  | .inputMissing helper index =>
    "Helper/Decorator " ++ helper ++ " param at index " ++ toString index ++
      " required but not found"
  | .namedInputMissing helper name =>
    "Helper/Decorator " ++ helper ++ " param with name " ++ name ++ " required but not found"
  | .bodyRequired => "Block content required"
  | .textRequired => "Invalid param type, String expected"
  | .badIndex key => "Cannot access array/vector with string index, " ++ key
  | .badLevel level => "Invalid logging level: " ++ level
  | .includesItself => "Can not include current template in partial"
  | .tooDeep => "Template nested too deep"

/-- Comparisons of two values. -/
inductive Comparison
  | eq | ne | gt | gte | lt | lte
  deriving Repr, DecidableEq

namespace Comparison

def name : Comparison → String
  | .eq => "eq"
  | .ne => "ne"
  | .gt => "gt"
  | .gte => "gte"
  | .lt => "lt"
  | .lte => "lte"

/-- Whether a comparison holds.  Values without an order are neither more nor less. -/
def holds (c : Comparison) (x y : Value) : Bool :=
  match c with
  | .eq => sameValue x y
  | .ne => !sameValue x y
  | .gt => compareValues x y == some .gt
  | .gte => (compareValues x y).any (· ≠ .lt)
  | .lt => compareValues x y == some .lt
  | .lte => (compareValues x y).any (· ≠ .gt)

end Comparison

inductive Helper
  | ifHolds (wanted : Bool)
  | each
  | within
  | raw
  | log
  | lookup
  | len
  | compare (c : Comparison)
  | all
  | any
  | not
  deriving Repr, DecidableEq

/-- The helper of a name. -/
def Helper.named? : String → Option Helper
  | "if" => some (.ifHolds true)
  | "unless" => some (.ifHolds false)
  | "each" => some .each
  | "with" => some .within
  | "raw" => some .raw
  | "log" => some .log
  | "lookup" => some .lookup
  | "len" => some .len
  | "eq" => some (.compare .eq)
  | "ne" => some (.compare .ne)
  | "gt" => some (.compare .gt)
  | "gte" => some (.compare .gte)
  | "lt" => some (.compare .lt)
  | "lte" => some (.compare .lte)
  | "and" => some .all
  | "or" => some .any
  | "not" => some .not
  | _ => none

/-- What a helper is given, once all of it is known. -/
structure Given where
  inputs : List Found
  options : List (String × Found)

namespace Given

/-- The input at a place, which the helper cannot do without. -/
def input (g : Given) (helper : String) (index : Nat) : Except RenderFault Found :=
  match g.inputs[index]? with
  | some f => .ok f
  | none => .error (.inputMissing helper index)

def option? (g : Given) (key : String) : Option Value :=
  (g.options.find? (·.1 = key)).map (·.2.value)

/-- Whether zero counts as true. -/
def includesZero (g : Given) : Bool :=
  match g.option? "includeZero" with
  | some (.bool b) => b
  | _ => false

end Given

/-- The levels of log messages. -/
def levels : List String := ["error", "warn", "info", "debug", "trace"]

/-- A log message must have a level; without one, or with one that is no text, it is informative. -/
def checkLevel (g : Given) : Except RenderFault Unit :=
  match g.option? "level" with
  | some (.string s) => if levels.contains (Text.lower s) then .ok () else .error (.badLevel s)
  | _ => .ok ()

/-- A member of a list or record, by a value. -/
def lookup (collection index : Value) : Found :=
  let member : Option Value := match collection, index with
    | .array items, .number (.int i) => if 0 ≤ i then items[i.toNat]? else none
    | .object fields, .string key => Data.getField? key fields
    | _, _ => none
  match member with
  | some v => .apart v
  | none => .missing

def length : Value → Nat
  | .array items => items.length
  | .object fields => fields.length
  | .string s => Text.utf8Length s.toList
  | _ => 0

/-- The truth that a comparison or connective states; nothing for the other helpers. -/
def Helper.truth? (h : Helper) (g : Given) : Except RenderFault (Option Bool) :=
  match h with
  | .compare c => do
    let x ← g.input c.name 0
    let y ← g.input c.name 1
    .ok (some (c.holds x.value y.value))
  | .all => .ok (some (g.inputs.all fun f => isTrue false f.value))
  | .any => .ok (some (g.inputs.any fun f => isTrue false f.value))
  | .not => do
    let x ← g.input "not" 0
    .ok (some (!isTrue false x.value))
  | _ => .ok none

/-- The value that a helper answers; nothing for those that only show something. -/
def Helper.answer? (h : Helper) (g : Given) : Except RenderFault (Option Found) :=
  match h with
  | .lookup => do
    let c ← g.input "lookup" 0
    let i ← g.input "lookup" 1
    .ok (some (Template.lookup c.value i.value))
  | .len =>
    match g.inputs with
    | x :: _ => .ok (some (.apart (.number (.int (length x.value)))))
    | [] => .error (.namedInputMissing "len" "x")
  | h => do
    match ← h.truth? g with
    | some b => .ok (some (.apart (.bool b)))
    | none => .ok none

end Inlay.Template
