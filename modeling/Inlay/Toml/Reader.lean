/-
# `Inlay.Toml.Reader` — settings files

`Toml.read` reads a whole text into its root table, or says at which character
the text was refused.

    # comment
    key = value            a part of the table that was begun last
    a.b = value            the same in a table of that table
    [a.b]                  begins a table
    [[a.b]]                begins the next table of an array
    [v, …]  {k = v, …}     arrays and inline tables as values

Only truth values and strings keep their content, as no option is of another
kind.  A key that is set twice is refused where its line or header begins, in
an inline table behind the brace.  Arrays and inline tables may be nested 79
deep, and a key may have 79 parts.
-/
import Inlay.Toml.Numbers
import Inlay.Toml.Table

namespace Inlay.Toml

open Read

/-! ## Keys -/

def isKeyChar (c : Char) : Bool := c.isAlphanum || c = '-' || c = '_'

/-- A part of a key, bare or quoted. -/
def keyPart : Read Key := do
  blank
  let start ← place
  let name ← match ← next? with
    | some '"' => basicString
    | some '\'' => literalString
    | _ => do pure (String.ofList (← run isKeyChar 1 none))
  blank
  pure ⟨name, start⟩

/-- How deep tables, arrays and keys go. -/
def deepest : Nat := 79

/-- The parts of a dotted key before the last, and the last. -/
def key : Read (List Key × Key) :=
  checked (sepBy1 keyPart (char '.')) fun parts =>
    if deepest < parts.length then none
    else parts.getLast?.map fun last => (parts.dropLast, last)

/-! ## Values -/

/-- A value that is no truth value and no string. -/
def otherKind (r : Read Unit) : Read Scalar := do
  r
  pure .other

/-- A key and what `value` reads behind the sign. -/
def pair (value : Read Item) (after : Read Unit) : Read (List Key × Key × Item) := do
  let (path, k) ← key
  must do
    char '='
    blank
    let v ← value
    after
    pure (path, k, v)

/-- The values of an array behind its bracket. -/
def elements (value : Read Scalar) : Read Unit := do
  let element := do
    gap
    let _ ← value
    gap
  let vs ← sepBy element (char ',')
  unless vs.isEmpty do
    let _ ← opt (char ',')
  gap

/-- A value and its place. -/
def placed (value : Read Scalar) : Read Item := do
  let start ← place
  pure (.value (← value) start)

/-- The pairs of an inline table behind its brace; no key is set twice. -/
def fields (value : Read Scalar) : Read Unit :=
  checked
    (do
      let ps ← sepBy (pair (placed value) blank) (char ',')
      blank
      pure ps)
    fun ps =>
      (ps.foldlM (fun (t : Table) (path, k, v) => t.assign path k v) Table.empty).map fun _ => ()

/-- A value with at most `depth` brackets or braces around its innermost part. -/
def value (depth : Nat) : Read Scalar := do
  match ← next? with
  | some '"' => do pure (.string (← string))
  | some '\'' => do pure (.string (← string))
  | some '[' =>
    match depth with
    | 0 => fail
    | d + 1 => otherKind do
      char '['
      must (elements (value d))
      must (char ']')
  | some '{' =>
    match depth with
    | 0 => fail
    | d + 1 => otherKind do
      char '{'
      must (fields (value d))
      must (char '}')
  | some 't' => do
    must (text "true")
    pure (.bool true)
  | some 'f' => do
    must (text "false")
    pure (.bool false)
  | some 'i' => otherKind (text "inf")
  | some 'n' => otherKind (text "nan")
  | some '_' => otherKind integer
  | some c => if c.isDigit || c = '+' || c = '-' then otherKind number else fail
  | none => fail

/-! ## Lines -/

/-- A header between brackets. -/
def header (begin_ end_ : String) : Read (List Key) := do
  text begin_
  let (path, k) ← must key
  must (text end_)
  must trailing
  pure (path ++ [k])

/-- A header begins a table. -/
def table (d : Draft) : Read Draft := fun c =>
  match c.rest with
  | '[' :: '[' :: _ => checked (header "[[" "]]") (d.beginArrayTable · c.place) c
  | '[' :: _ :: _ => checked (header "[" "]") (d.beginTable · c.place) c
  | _ => .back c

/-- A line with a key. -/
def assignment (d : Draft) : Read Draft :=
  checked (pair (placed (value deepest)) trailing) fun (path, k, v) => d.assign path k v

/-- What begins at the next character; nothing for a text that is at its end. -/
def line (d : Draft) : Read (Option Draft) := do
  match ← next? with
  | none => pure none
  | some '#' =>
    must do
      comment
      lineEnd
    blank
    pure (some d)
  | some '[' =>
    let d ← must (table d)
    blank
    pure (some d)
  | some '\n' | some '\r' =>
    newline
    blank
    pure (some d)
  | some _ =>
    let d ← must (assignment d)
    blank
    pure (some d)

/-- Lines, `n` at the most. -/
def lines : Nat → Draft → Read Draft
  | 0, d => pure d
  | n + 1, d => fun c =>
    match line d c with
    | .ok (some d) c => lines n d c
    | .ok none c => .ok d c
    | .back _ => .ok d c
    | .cut c => .cut c

/-- A whole text. -/
def document : Read Table := do
  let _ ← opt (char '\ufeff')
  blank
  let d ← fun c => lines (c.rest.length + 1) Draft.start c
  done
  match d.finish with
  | some t => pure t
  | none => fail

/-- The root table of a text, or the place where the text was refused. -/
def read (s : String) : Except Nat Table :=
  match document ⟨s.toList, 0⟩ with
  | .ok t _ => .ok t
  | .back c => .error c.place
  | .cut c => .error c.place

end Inlay.Toml
