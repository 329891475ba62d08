/-
# `Inlay.Selector.Reader` — reading selectors

    group     complex (comma complex)*
    complex   compound ((child | space) compound)*
    compound  (star | name)? simple*            not empty
    simple    hash | dot | open name (equals (name | quoted))? close

The grammar decides by one token, so a text is refused at the first token that
cannot continue what stands before it, or at its end; a compound that has
nothing before the condition that breaks off is refused at its beginning.  A
text that does not
split into tokens is refused where the first token fails, whatever stands
before that place.  Places are given in bytes of UTF-8 from the beginning of
the text, its leading blanks included.

What is written in one compound is kept as a list and then folded into the
record of conditions (`Compound.ofWritten`).
-/
import Inlay.Text.Blank
import Inlay.Document.Selection
import Inlay.Selector.Basic
import Inlay.Selector.Token

namespace Inlay

/-- Why a text is no selector. -/
inductive SelectorError
  | empty
  | unexpected (ch : Char) (offset : Nat)
  | unexpectedEnd
  deriving Repr, DecidableEq

def SelectorError.message : SelectorError → String
  | .empty => "empty selector"
  | .unexpected ch offset =>
    "unexpected '" ++ String.singleton ch ++ "' at offset " ++ toString offset
  | .unexpectedEnd => "unexpected end of selector"

/-- One condition as it is written. -/
inductive Simple
  | id (name : String)
  | word (name : String)
  | test (t : AttributeTest)
  deriving Repr, DecidableEq

namespace Compound

/-- Take one more condition into the record; there is room for one identity only. -/
def add (c : Compound) : Simple → Compound
  | .id name => { c with id := some name }
  | .word name => { c with classes := c.classes ++ [name] }
  | .test t => { c with attributes := c.attributes ++ [t] }

/-- The record of a written compound. -/
def ofWritten (tag : Option String) (simples : List Simple) : Compound :=
  simples.foldl add ⟨tag, none, [], []⟩

end Compound

namespace Selector

/-- What was read and what stands behind it; or what stands from the token that was refused. -/
abbrev Reading (α : Type) := Except (List Placed) (α × List Placed)

/-- The rest of an attribute condition behind its name. -/
def readTest (name : String) : List Placed → Reading AttributeTest
  | ⟨.closeBracket, _⟩ :: rest => .ok (.present name, rest)
  | ⟨.equals, _⟩ :: ⟨.name v, _⟩ :: ⟨.closeBracket, _⟩ :: rest => .ok (.equals name v, rest)
  | ⟨.equals, _⟩ :: ⟨.quoted v, _⟩ :: ⟨.closeBracket, _⟩ :: rest => .ok (.equals name v, rest)
  | ⟨.equals, _⟩ :: ⟨.name _, _⟩ :: rest => .error rest
  | ⟨.equals, _⟩ :: ⟨.quoted _, _⟩ :: rest => .error rest
  | ⟨.equals, _⟩ :: rest => .error rest
  | rest => .error rest

theorem length_readTest {name : String} {ts r : List Placed} {t : AttributeTest}
    (h : readTest name ts = .ok (t, r)) : r.length < ts.length := by
  unfold readTest at h
  split at h <;> first
    | (simp only [Except.ok.injEq, Prod.mk.injEq] at h
       rw [← h.2]
       simp only [List.length_cons]
       omega)
    | exact absurd h (by simp)

/-- The condition that a row of tokens begins with, if it begins with one. -/
def readSimple (ts : List Placed) : Reading (Option Simple) :=
  match ts with
  | ⟨.hash n, _⟩ :: rest => .ok (some (.id n), rest)
  | ⟨.dot n, _⟩ :: rest => .ok (some (.word n), rest)
  | ⟨.openBracket, _⟩ :: ⟨.name n, _⟩ :: rest =>
    match readTest n rest with
    | .error e => .error e
    | .ok (t, rest') => .ok (some (.test t), rest')
  | ⟨.openBracket, _⟩ :: rest => .error rest
  | rest => .ok (none, rest)

/-- A condition takes at least one token. -/
theorem length_readSimple {ts r : List Placed} {s : Simple}
    (h : readSimple ts = .ok (some s, r)) : r.length < ts.length := by
  unfold readSimple at h
  split at h
  · simp only [Except.ok.injEq, Prod.mk.injEq] at h; rw [← h.2]; simp
  · simp only [Except.ok.injEq, Prod.mk.injEq] at h; rw [← h.2]; simp
  · split at h
    · simp at h
    · next hr =>
      simp only [Except.ok.injEq, Prod.mk.injEq] at h
      have := length_readTest hr
      rw [← h.2]
      simp only [List.length_cons]
      omega
  · simp at h
  · simp at h

/-- The conditions of a compound up to the first token that begins none. -/
def readSimples (ts : List Placed) : Reading (List Simple) :=
  match _h : readSimple ts with
  | .error e => .error e
  | .ok (none, rest) => .ok ([], rest)
  | .ok (some s, rest) =>
    match readSimples rest with
    | .error e => .error e
    | .ok (more, rest) => .ok (s :: more, rest)
termination_by ts.length
decreasing_by exact length_readSimple _h

/-- A compound.  One without a tag that has no condition either is refused at its beginning,
also where that begins a condition that breaks off. -/
def readCompound (ts : List Placed) : Reading Compound :=
  match ts with
  | ⟨.star, _⟩ :: rest => tagged "*" rest
  | ⟨.name n, _⟩ :: rest => tagged (Text.lower n) rest
  | _ =>
    match readSimple ts with
    | .ok (some s, rest) =>
      match readSimples rest with
      | .error e => .error e
      | .ok (simples, rest) => .ok (Compound.ofWritten none (s :: simples), rest)
    | _ => .error ts
where
  tagged (tag : String) (body : List Placed) : Reading Compound :=
    match readSimples body with
    | .error e => .error e
    | .ok (simples, rest) => .ok (Compound.ofWritten (some tag) simples, rest)

/-- The combinator that a token stands for. -/
def Token.combinator? : Token → Option Combinator
  | .child => some .child
  | .space => some .descendant
  | _ => none

/-- The compounds of a row behind the first one; `n` bounds their number. -/
def readRow : Nat → List Placed → Reading (List (Combinator × Compound))
  | 0, ts => .error ts
  | _, [] => .ok ([], [])
  | n + 1, t :: ts =>
    match t.token.combinator? with
    | none => .ok ([], t :: ts)
    | some k =>
      match readCompound ts with
      | .error e => .error e
      | .ok (c, rest) =>
        match readRow n rest with
        | .error e => .error e
        | .ok (more, rest) => .ok ((k, c) :: more, rest)

def readComplex (ts : List Placed) : Reading Complex :=
  match readCompound ts with
  | .error e => .error e
  | .ok (c, rest) =>
    match readRow (rest.length + 1) rest with
    | .error e => .error e
    | .ok (row, rest) => .ok (⟨c, row⟩, rest)

/-- The alternatives of a group, up to the end; `n` bounds their number. -/
def readGroup : Nat → List Placed → Except (List Placed) (List Complex)
  | 0, ts => .error ts
  | n + 1, ts =>
    match readComplex ts with
    | .error e => .error e
    | .ok (c, []) => .ok [c]
    | .ok (c, ⟨.comma, _⟩ :: rest) => (readGroup n rest).map (c :: ·)
    | .ok (_, rest) => .error rest

/-- The error at a place of the trimmed text, behind `before` bytes of blanks. -/
def errorAt (before : Nat) (trimmed : List Char) (place : Nat) : SelectorError :=
  match trimmed[place]? with
  | some ch => .unexpected ch (before + Text.utf8Length (trimmed.take place))
  | none => .unexpectedEnd

/-- Read a selector. -/
def read (text : String) : Except SelectorError Selector :=
  let trimmed := (Text.trim text).toList
  if trimmed.isEmpty then .error .empty
  else
    let before := Text.utf8Length (text.toList.takeWhile Text.isBlank)
    match tokens 0 trimmed with
    | .error place => .error (errorAt before trimmed place)
    | .ok ts =>
      match readGroup (ts.length + 1) ts with
      | .ok groups => .ok ⟨groups⟩
      | .error [] => .error .unexpectedEnd
      | .error (t :: _) => .error (errorAt before trimmed t.start)

end Selector

namespace Document

/-- The nodes below `scope` that a selector matches, in document order; none for a text that is
no selector.  The text is remembered either way. -/
def find (d : Document) (scope : NodeId) (selector : String) : Selection :=
  let nodes := match Selector.read selector with
    | .ok s => (d.descendants scope).filter (s.matchesNode d)
    | .error _ => []
  ⟨nodes, some selector⟩

/-- The nodes of the whole document that a selector matches. -/
def select (d : Document) (selector : String) : Selection := d.find root selector

end Document

end Inlay
