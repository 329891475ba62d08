/-
# `Inlay.Toml.Read` — readers that refuse a text at a place

A reader takes a part of a text or refuses it.  A refusal is open (`back`), so
that another reader may be tried, or final (`cut`).  Either says where the
reader stood.

    orElse r s    s from the beginning, where r refuses openly
    opt r         nothing, where r refuses openly
    must r        an open refusal of r is final
    checked r f   r, refused at its beginning where f has no answer
    bounded r f   the same, and that refusal is final
    sepBy r s     r, then s and r as often as they match together
-/

namespace Inlay.Toml

/-- The text that is left, and the characters before it. -/
structure Cursor where
  rest : List Char
  place : Nat
  deriving Repr, DecidableEq

/-- What a reader says: the part that it took, or a refusal, open or final. -/
inductive Reply (α : Type)
  | ok (a : α) (c : Cursor)
  | back (c : Cursor)
  | cut (c : Cursor)

/-- A reader. -/
def Read (α : Type) : Type := Cursor → Reply α

namespace Read

variable {α β : Type}

instance : Monad Read where
  pure a := fun c => .ok a c
  bind r f := fun c =>
    match r c with
    | .ok a c => f a c
    | .back c => .back c
    | .cut c => .cut c

def fail : Read α := fun c => .back c

/-- Where the reader stands. -/
def place : Read Nat := fun c => .ok c.place c

def orElse (r s : Read α) : Read α := fun c =>
  match r c with
  | .back _ => s c
  | out => out

/-- The first reader that does not refuse openly. -/
def first : List (Read α) → Read α
  | [] => fail
  | [r] => r
  | r :: more => orElse r (first more)

def opt (r : Read α) : Read (Option α) := fun c =>
  match r c with
  | .ok a c => .ok (some a) c
  | .back _ => .ok none c
  | .cut c => .cut c

def must (r : Read α) : Read α := fun c =>
  match r c with
  | .back c => .cut c
  | out => out

def checked (r : Read α) (f : α → Option β) : Read β := fun c =>
  match r c with
  | .ok a c' =>
    match f a with
    | some b => .ok b c'
    | none => .back c
  | .back c => .back c
  | .cut c => .cut c

def bounded (r : Read α) (f : α → Option β) : Read β := fun c =>
  match r c with
  | .ok a c' =>
    match f a with
    | some b => .ok b c'
    | none => .cut c
  | .back c => .back c
  | .cut c => .cut c

/-- What a reader would take, without taking it; it refuses where it began. -/
def ahead (r : Read α) : Read α := fun c =>
  match r c with
  | .ok a _ => .ok a c
  | .back _ => .back c
  | .cut _ => .cut c

/-- The next character, not taken; nothing at the end. -/
def next? : Read (Option Char) := fun c => .ok c.rest.head? c

/-- The end of the text. -/
def done : Read Unit := fun c => if c.rest.isEmpty then .ok () c else .back c

/-- One character of a class. -/
def one (p : Char → Bool) : Read Char := fun c =>
  match c.rest with
  | x :: rest => if p x then .ok x ⟨rest, c.place + 1⟩ else .back c
  | [] => .back c

def char (x : Char) : Read Unit := do
  let _ ← one (· = x)

/-- These characters; none of them is taken where one differs. -/
def text (s : String) : Read Unit := fun c =>
  let cs := s.toList
  if cs.isPrefixOf c.rest then .ok () ⟨c.rest.drop cs.length, c.place + cs.length⟩ else .back c

/-- At least `least` characters of a class, and at most `most` if that is given. -/
def run (p : Char → Bool) (least : Nat) (most : Option Nat) : Read (List Char) := fun c =>
  let all := c.rest.takeWhile p
  let taken := match most with
    | some n => all.take n
    | none => all
  if taken.length < least then .back c
  else .ok taken ⟨c.rest.drop taken.length, c.place + taken.length⟩

/-- As often as a reader matches, `n` times at the most. -/
def upTo (r : Read α) : Nat → Read (List α)
  | 0 => pure []
  | n + 1 => fun c =>
    match r c with
    | .ok a c' =>
      if c'.place = c.place then .ok [] c
      else
        match upTo r n c' with
        | .ok more c => .ok (a :: more) c
        | out => out
    | .back _ => .ok [] c
    | .cut c => .cut c

/-- As often as a reader matches; it takes something each time. -/
def many (r : Read α) : Read (List α) := fun c => upTo r (c.rest.length + 1) c

/-- One `r`, then as many of `sep` and `r` as match together. -/
def sepBy1 (r : Read α) (sep : Read β) : Read (List α) := do
  let a ← r
  let more ← many (do let _ ← sep; r)
  pure (a :: more)

/-- The same, or nothing. -/
def sepBy (r : Read α) (sep : Read β) : Read (List α) := do
  pure ((← opt (sepBy1 r sep)).getD [])

end Read

end Inlay.Toml
