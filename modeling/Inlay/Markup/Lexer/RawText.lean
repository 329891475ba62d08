/-
# `Inlay.Markup.Lexer.RawText` — text that hides markup

Inside some elements a `<` is text unless it begins the end tag of that very
element.  `endsElement` recognises that tag; the runs below take everything
before it.

Inside a script, `<!--` begins an escape in which `<script` … `</script>`
pairs are text too.  `ScriptState` is the reader's place in that game; a step
sees one character and what stands behind it, and says `none` where the end
tag begins.
-/
import Inlay.Markup.Lexer.Tag

namespace Inlay.Markup.Lexer

/-- Whether the end tag of the named element begins here. -/
def endsElement (name : Option String) (cs : List Char) : Bool :=
  match name, cs with
  | some name, '<' :: '/' :: rest =>
    let letters := rest.takeWhile Char.isAlpha
    letters.map Char.toLower = name.toList && ((rest.drop letters.length).head?.map endsTagName).getD false
  | _, _ => false

/-- A run of text with references, up to the end tag of the element; `n` bounds the characters
left. -/
def rcdataRun (name : Option String) : Nat → List Char → List Char → List Char × List Char
  | 0, acc, cs => (acc.reverse, cs)
  | _, acc, [] => (acc.reverse, [])
  | n + 1, acc, c :: cs =>
    if endsElement name (c :: cs) then (acc.reverse, c :: cs)
    else if c = '&' then
      let (decoded, rest) := Reference.decode false cs
      rcdataRun name n (decoded.reverse ++ acc) rest
    else rcdataRun name n (noNull c :: acc) cs

/-- A run of text without references, up to the end tag of the element. -/
def rawtextRun (name : Option String) : List Char → List Char → List Char × List Char
  | acc, [] => (acc.reverse, [])
  | acc, c :: cs =>
    if endsElement name (c :: cs) then (acc.reverse, c :: cs)
    else rawtextRun name (noNull c :: acc) cs

/-- Where in a script a reader stands. -/
inductive ScriptState
  | plain
  /-- Behind `<`, before the `!` of an escape. -/
  | beforeBang
  /-- Behind `<!`, and behind `<!-`. -/
  | opening (dashes : Nat)
  /-- In an escape, behind that many dashes, two at the most. -/
  | escaped (dashes : Nat)
  /-- In an escape, in the name behind `<`. -/
  | nesting (name : List Char)
  /-- In a script nested in an escape, behind that many dashes. -/
  | nested (dashes : Nat)
  /-- In a nested script, behind `<`. -/
  | nestedLess
  /-- In a nested script, in the name behind `</`. -/
  | unnesting (name : List Char)
  deriving Repr, DecidableEq

def scriptWord : List Char := ['s', 'c', 'r', 'i', 'p', 't']

/-- One character outside an escape. -/
def plainStep (name : Option String) (c : Char) (cs : List Char) : Option ScriptState :=
  if c ≠ '<' then some .plain
  else if endsElement name (c :: cs) then none
  else if cs.head? = some '!' then some .beforeBang
  else some .plain

/-- One character in an escape. -/
def escapedStep (name : Option String) (dashes : Nat) (c : Char) (cs : List Char) :
    Option ScriptState :=
  if c = '-' then some (.escaped (min 2 (dashes + 1)))
  else if c = '<' then
    if endsElement name (c :: cs) then none
    else if (cs.head?.map Char.isAlpha).getD false then some (.nesting [])
    else some (.escaped 0)
  else if c = '>' ∧ dashes = 2 then some .plain
  else some (.escaped 0)

/-- One character in a nested script. -/
def nestedStep (dashes : Nat) (c : Char) : ScriptState :=
  if c = '-' then .nested (min 2 (dashes + 1))
  else if c = '<' then .nestedLess
  else if c = '>' ∧ dashes = 2 then .plain
  else .nested 0

/-- The state behind a character; none where the end tag of the script begins. -/
def scriptStep (name : Option String) (s : ScriptState) (c : Char) (cs : List Char) :
    Option ScriptState :=
  match s with
  | .plain => plainStep name c cs
  | .beforeBang => some (.opening 0)
  | .opening dashes =>
    if c ≠ '-' then plainStep name c cs
    else if dashes = 0 then some (.opening 1)
    else some (.escaped 2)
  | .escaped dashes => escapedStep name dashes c cs
  | .nesting letters =>
    if endsTagName c then some (if letters.reverse = scriptWord then .nested 0 else .escaped 0)
    else if c.isAlpha then some (.nesting (c.toLower :: letters))
    else escapedStep name 0 c cs
  | .nested dashes => some (nestedStep dashes c)
  | .nestedLess => some (if c = '/' then .unnesting [] else nestedStep 0 c)
  | .unnesting letters =>
    if endsTagName c then some (if letters.reverse = scriptWord then .escaped 0 else .nested 0)
    else if c.isAlpha then some (.unnesting (c.toLower :: letters))
    else some (nestedStep 0 c)

/-- A run of script text, up to the end tag of the script. -/
def scriptRun (name : Option String) : ScriptState → List Char → List Char → List Char × List Char
  | _, acc, [] => (acc.reverse, [])
  | s, acc, c :: cs =>
    match scriptStep name s c cs with
    | none => (acc.reverse, c :: cs)
    | some s => scriptRun name s (noNull c :: acc) cs

end Inlay.Markup.Lexer
