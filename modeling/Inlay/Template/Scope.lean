/-
# `Inlay.Template.Scope` — what names mean inside blocks

Blocks are nested, innermost first, around the block of the whole template.
Each stands at a value, either by its path in the data or as a value of its
own, and may name values and set variables.

    key …        from the value of the innermost block, unless the first key
                 is a name that a block gives
    .. / key     from the block one further out for each `..`; where there are
                 not so many, from the innermost
    @root / key  from the data
    @name        the variable of the innermost block that has it
    @../name     the same, leaving out one block for each `..`

A key of a list is a number.  What is not there is `missing`; only a key of a
list that is no number is a fault.
-/
import Inlay.Template.Basic

namespace Inlay.Template

open Data (Value)

/-- What a name given by a block stands for: a value, or the value of the block that gives it. -/
inductive Named
  | value (v : Value)
  | item

structure Block where
  path : List String
  value : Option Value
  names : List (String × Named)
  locals : List (String × Value)

/-- The block of a whole template. -/
def Block.outermost : Block := ⟨[], none, [], []⟩

/-- What an argument denotes: nothing, a value of the data and its path, or a value apart. -/
inductive Found
  | missing
  | inData (v : Value) (path : List String)
  | apart (v : Value)

namespace Found

/-- The value; null for what is missing. -/
def value : Found → Value
  | .missing => .null
  | .inData v _ => v
  | .apart v => v

/-- A block that stands at what was found. -/
def block (f : Found) : Block :=
  match f with
  | .inData _ path => ⟨path, none, [], []⟩
  | _ => ⟨[], some f.value, [], []⟩

/-- The block of a member of what was found. -/
def memberBlock (f : Found) (key : String) (v : Value) : Block :=
  match f with
  | .inData _ path => ⟨path ++ [key], none, [], []⟩
  | _ => ⟨[], some v, [], []⟩

/-- What a name given to a member stands for. -/
def memberName (f : Found) (v : Value) : Named :=
  match f with
  | .inData _ _ => .item
  | _ => .value v

end Found

/-- The number that a key of a list denotes. -/
def index? (key : String) : Option Nat :=
  let cs := match key.toList with
    | '+' :: ds => ds
    | ds => ds
  if cs.isEmpty || !cs.all Char.isDigit then none
  else
    let n := cs.foldl (fun n c => n * 10 + (c.toNat - 48)) 0
    if n < Nat.pow 2 64 then some n else none

/-- The member of a value; or the key, if the value is a list and the key no number. -/
def member? (v : Value) (key : String) : Except String (Option Value) :=
  match v with
  | .array items =>
    match index? key with
    | some i => .ok items[i]?
    | none => .error key
  | .object fields => .ok (Data.getField? key fields)
  | _ => .ok none

/-- Follow keys from a value. -/
def follow (v : Value) : List String → Except String (Option Value)
  | [] => .ok (some v)
  | key :: rest =>
    match member? v key with
    | .error e => .error e
    | .ok none => .ok none
    | .ok (some w) => follow w rest

/-- The keys among the steps of a path. -/
def keys (steps : List Step) : List String :=
  steps.filterMap fun
    | .key k => some k
    | _ => none

/-- The name that a block gives to a key, and the path of that block. -/
def givenName? (key : String) : List Block → Option (Named × List String)
  | [] => none
  | b :: rest =>
    match (b.names.find? (·.1 = key)).map (·.2) with
    | some n => some (n, b.path)
    | none => givenName? key rest

/-- What stands at a path of the data. -/
def findInData (data : Value) (path : List String) : Except String Found :=
  (follow data path).map fun
    | some v => .inData v path
    | none => .missing

/-- What stands at a path below a value apart. -/
def findApart (v : Value) (path : List String) : Except String Found :=
  (follow v path).map fun
    | some w => .apart w
    | none => .missing

/-- What stands at a path below a block. -/
def findInBlock (data : Value) (b : Block) (path : List String) : Except String Found :=
  match b.value with
  | some v => findApart v path
  | none => findInData data (b.path ++ path)

/-- What a path in the data denotes. -/
def findPath (data : Value) (blocks : List Block) (steps : List Step) : Except String Found :=
  let level := (steps.takeWhile (· = .up)).length
  let inner := steps.drop level
  let innermost := blocks.headD Block.outermost
  let plain : Unit → Except String Found := fun _ =>
    match inner with
    | .root :: _ => if level = 0 then findInData data (keys steps)
        else findInBlock data ((blocks[level]?).getD innermost) (keys steps)
    | _ => findInBlock data ((blocks[level]?).getD innermost) (keys steps)
  match inner with
  | .key k :: rest =>
    match givenName? k blocks with
    | some (.value v, _) => findApart v (keys rest)
    | some (.item, path) => findInData data (path ++ keys rest)
    | none => plain ()
  | _ => plain ()

/-- The variable that the innermost block has, leaving out the first `level` of them. -/
def findVariable? (blocks : List Block) (level : Nat) (name : String) : Option Value :=
  (blocks.drop level).findSome? fun b => (b.locals.find? (·.1 = name)).map (·.2)

/-- What a path denotes. -/
def Path.find (data : Value) (blocks : List Block) : Path → Except String Found
  | .data steps _ => findPath data blocks steps
  | .variable level name _ =>
    match findVariable? blocks level name with
    | some v => .ok (.apart v)
    | none => .ok .missing

end Inlay.Template
