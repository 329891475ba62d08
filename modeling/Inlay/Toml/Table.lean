/-
# `Inlay.Toml.Table` — tables as they are built up

A table is built by headers and by keys with values; a dotted key and a longer
header make the tables on their way.

    implicit   made on the way to another table
    dotted     made by a dotted key

A key is set once.  A header may complete a table that a longer header made on
its way, but not one that is set otherwise.  A dotted key goes only through
tables that were made on the way.
-/

namespace Inlay.Toml

/-- A value of the kinds that options have, or of any other kind. -/
inductive Scalar
  | bool (b : Bool)
  | string (s : String)
  | other
  deriving Repr, DecidableEq

mutual

inductive Item
  | value (v : Scalar) (start : Nat)
  | table (t : Table)
  | tables (ts : List Table)

/-- The place of the table's header, if it has one, and its items with the places of their keys. -/
inductive Table
  | mk (implicit dotted : Bool) (start : Option Nat) (items : List (String × Nat × Item))

end

/-- A part of a key and its place. -/
structure Key where
  name : String
  start : Nat
  deriving Repr, DecidableEq

namespace Table

def isImplicit : Table → Bool | .mk i _ _ _ => i
def isDotted : Table → Bool | .mk _ d _ _ => d
def start : Table → Option Nat | .mk _ _ s _ => s
def items : Table → List (String × Nat × Item) | .mk _ _ _ is => is

def empty : Table := .mk false false none []

def get? (t : Table) (name : String) : Option Item := (t.items.find? (·.1 = name)).map (·.2.2)

/-- Set an item; a new one comes last. -/
def set (t : Table) (k : Key) (i : Item) : Table :=
  match t with
  | .mk implicit dotted start items =>
    if items.any (·.1 = k.name) then
      .mk implicit dotted start (items.map fun (n, s, j) => if n = k.name then (n, s, i) else (n, s, j))
    else .mk implicit dotted start (items ++ [(k.name, k.start, i)])

def erase (t : Table) (name : String) : Table :=
  match t with
  | .mk implicit dotted start items => .mk implicit dotted start (items.filter (·.1 ≠ name))

/-- Change the table at the end of a path; nothing if the path leads through no table. -/
def update (dotted : Bool) (f : Table → Option Table) : List Key → Table → Option Table
  | [], t => f t
  | k :: path, t =>
    match t.get? k.name with
    | none => (update dotted f path (.mk true dotted none [])).map fun u => t.set k (.table u)
    | some (.value _ _) => none
    | some (.tables ts) =>
      match ts.reverse with
      | [] => none
      | last :: before =>
        (update dotted f path last).map fun u => t.set k (.tables (u :: before).reverse)
    | some (.table u) =>
      if dotted && !u.isImplicit then none
      else (update dotted f path u).map fun u => t.set k (.table u)

/-- Set a key, dotted or not, to a value. -/
def assign (t : Table) (path : List Key) (k : Key) (i : Item) : Option Table :=
  t.update true (fun u =>
    if u.isDotted == path.isEmpty || (u.get? k.name).isSome then none else some (u.set k i)) path

end Table

/-- The tables so far: the finished ones and the one that a header has begun. -/
structure Draft where
  root : Table
  current : Table
  path : List Key
  inArray : Bool

namespace Draft

def start : Draft := ⟨.empty, .empty, [], false⟩

/-- Put the current table into its place. -/
def finish (d : Draft) : Option Table :=
  match d.path.reverse with
  | [] => some d.current
  | k :: up =>
    d.root.update false (fun parent =>
      match parent.get? k.name with
      | none => some (parent.set k (if d.inArray then .tables [d.current] else .table d.current))
      | some (.tables ts) => if d.inArray then some (parent.set k (.tables (ts ++ [d.current]))) else none
      | some (.table t) =>
        if !d.inArray && t.isImplicit then some (parent.set k (.table d.current)) else none
      | some (.value _ _) => none) up.reverse

/-- Begin a table. -/
def beginTable (d : Draft) (path : List Key) (start : Nat) : Option Draft := do
  let root ← d.finish
  match path.reverse with
  | [] => none
  | k :: up =>
    let root ← root.update false some up.reverse
    let present ← lookup root up.reverse k.name
    match present with
    | none => some ⟨root, .mk false false (some start) [], path, false⟩
    | some (.table t) =>
      if t.isImplicit && !t.isDotted then
        let root ← root.update false (fun parent => some (parent.erase k.name)) up.reverse
        some ⟨root, .mk false false (some start) t.items, path, false⟩
      else none
    | some _ => none
where
  /-- What a table at the end of a path holds under a name. -/
  lookup (t : Table) (path : List Key) (name : String) : Option (Option Item) :=
    match path with
    | [] => some (t.get? name)
    | k :: rest =>
      match t.get? k.name with
      | some (.table u) => lookup u rest name
      | some (.tables ts) =>
        match ts.getLast? with
        | some u => lookup u rest name
        | none => none
      | _ => none

/-- Begin a table of an array of tables. -/
def beginArrayTable (d : Draft) (path : List Key) (start : Nat) : Option Draft := do
  let root ← d.finish
  match path.reverse with
  | [] => none
  | k :: up =>
    let root ← root.update false (fun parent =>
      match parent.get? k.name with
      | none | some (.tables _) => some parent
      | some _ => none) up.reverse
    some ⟨root, .mk false false (some start) [], path, true⟩

/-- Set a key of the current table. -/
def assign (d : Draft) (path : List Key) (k : Key) (i : Item) : Option Draft :=
  (d.current.assign path k i).map fun t => { d with current := t }

end Draft

end Inlay.Toml
