/-
# `Inlay.Grammar.Pattern` — patterns that take a text from its beginning

A grammar gives each of its rules a pattern.  A pattern either takes a part of
the text or refuses it, and the first alternative that matches is kept:

    text s       the characters of s        seq a b     a, then b
    one p        one character of p         alt a b     a, or else b
    done         nothing, at the end        maybe a     a, or else nothing
    rule r       what the rule r takes      many a      a as often as it matches
    ahead a      nothing, where a matches   never a     nothing, where a does not

Between the parts of `seq` and between two rounds of `many` blanks are skipped,
unless the rule says otherwise:

    open_   the blanks around the rule are also those inside it
    tight   no blanks are skipped inside
    sealed  no blanks are skipped inside, and no rule inside leaves a trace

A rule that matches leaves a node, but for those inside a sealed rule and those
that were only looked at.  A text is refused at the furthest place where a rule
was wanted and did not match, or was unwanted and did match.

Every call takes one unit of fuel; `Grammar.parse` gives enough of it for any
grammar whose rules take a character at least every `depth` calls.
-/

namespace Inlay.Grammar

inductive Pattern (ρ : Type)
  | text (s : List Char)
  | one (p : Char → Bool)
  | done
  | seq (a b : Pattern ρ)
  | alt (a b : Pattern ρ)
  | maybe (a : Pattern ρ)
  | many (a : Pattern ρ)
  | ahead (a : Pattern ρ)
  | never (a : Pattern ρ)
  | rule (r : ρ)

namespace Pattern

variable {ρ : Type}

/-- A literal text. -/
def lit (s : String) : Pattern ρ := .text s.toList

/-- All parts, one after the other. -/
def all : List (Pattern ρ) → Pattern ρ
  | [] => .text []
  | [a] => a
  | a :: rest => .seq a (all rest)

/-- The first part that matches. -/
def any : List (Pattern ρ) → Pattern ρ
  | [] => .one fun _ => false
  | [a] => a
  | a :: rest => .alt a (any rest)

/-- At least once. -/
def many1 (a : Pattern ρ) : Pattern ρ := .seq a (.many a)

/-- Any character. -/
def anyChar : Pattern ρ := .one fun _ => true

/-- Any character at which `a` does not match. -/
def except (a : Pattern ρ) : Pattern ρ := .seq (.never a) anyChar

end Pattern

/-- What a rule does to the blanks and the rules inside it. -/
inductive Enclosure
  | open_
  | tight
  | sealed
  deriving Repr, DecidableEq

structure Rule (ρ : Type) where
  enclosure : Enclosure
  pattern : Pattern ρ

/-- A part of the text that a rule took, and the rules inside it. -/
inductive Derivation (ρ : Type)
  | mk (rule : ρ) (start stop : Nat) (parts : List (Derivation ρ))

namespace Derivation

variable {ρ : Type}

def rule : Derivation ρ → ρ | .mk r _ _ _ => r
def start : Derivation ρ → Nat | .mk _ s _ _ => s
def stop : Derivation ρ → Nat | .mk _ _ s _ => s
def parts : Derivation ρ → List (Derivation ρ) | .mk _ _ _ ps => ps

end Derivation

/-- Whether a pattern is to be taken, only looked at, or unwanted. -/
inductive Sight
  | taken
  | wanted
  | unwanted
  deriving Repr, DecidableEq

/-- Where a pattern stands. -/
structure Setting where
  enclosure : Enclosure
  sight : Sight

namespace Setting

def skipsBlanks (s : Setting) : Bool := s.enclosure = .open_

def leavesTrace (s : Setting) : Bool := s.enclosure ≠ .sealed

def leavesNode (s : Setting) : Bool := s.leavesTrace && s.sight = .taken

/-- The setting inside a rule. -/
def inside (s : Setting) : Enclosure → Setting
  | .open_ => s
  | e => { s with enclosure := e }

/-- The setting of a pattern that is only looked at. -/
def looking (s : Setting) : Setting :=
  { s with sight := match s.sight with
      | .unwanted => .unwanted
      | _ => .wanted }

/-- The setting of a pattern that must not match. -/
def against (s : Setting) : Setting :=
  { s with sight := match s.sight with
      | .unwanted => .wanted
      | _ => .unwanted }

end Setting

/-- The text that is left, and how much was taken before it. -/
structure Place where
  rest : List Char
  taken : Nat

namespace Place

/-- Behind `n` more characters. -/
def advance (p : Place) (n : Nat) : Place := ⟨p.rest.drop n, p.taken + n⟩

/-- A blank between the parts of a pattern. -/
def isBlank (c : Char) : Bool := c = ' ' || c = '\t' || c = '\n' || c = '\r'

/-- Behind the blanks, where blanks are skipped. -/
def skip (p : Place) (s : Setting) : Place :=
  if s.skipsBlanks then p.advance (p.rest.takeWhile isBlank).length else p

end Place

/-- The furthest place of a refusal so far, and what was taken if the pattern matched. -/
structure Outcome (ρ : Type) where
  furthest : Nat
  taken : Option (Place × List (Derivation ρ))

/-- A rule was tried at `start`; the place counts where a wanted rule refused or an unwanted one
matched. -/
def Setting.mark (s : Setting) (matched : Bool) (start furthest : Nat) : Nat :=
  if s.leavesTrace && matched == (s.sight == .unwanted) then max furthest start else furthest

variable {ρ : Type}

mutual

/-- Take a pattern at a place. -/
def run (g : ρ → Rule ρ) (fuel : Nat) (s : Setting) (a : Pattern ρ) (p : Place) (far : Nat) :
    Outcome ρ :=
  match fuel with
  | 0 => ⟨far, none⟩
  | fuel + 1 =>
    match a with
    | .text t => ⟨far, if t.isPrefixOf p.rest then some (p.advance t.length, []) else none⟩
    | .one f =>
      match p.rest with
      | c :: rest => ⟨far, if f c then some (⟨rest, p.taken + 1⟩, []) else none⟩
      | [] => ⟨far, none⟩
    | .done => ⟨far, if p.rest.isEmpty then some (p, []) else none⟩
    | .seq a b =>
      match run g fuel s a p far with
      | ⟨far, none⟩ => ⟨far, none⟩
      | ⟨far, some (q, ns)⟩ =>
        match run g fuel s b (q.skip s) far with
        | ⟨far, none⟩ => ⟨far, none⟩
        | ⟨far, some (q, ms)⟩ => ⟨far, some (q, ns ++ ms)⟩
    | .alt a b =>
      match run g fuel s a p far with
      | ⟨far, none⟩ => run g fuel s b p far
      | out => out
    | .maybe a =>
      match run g fuel s a p far with
      | ⟨far, none⟩ => ⟨far, some (p, [])⟩
      | out => out
    | .many a =>
      match run g fuel s a p far with
      | ⟨far, none⟩ => ⟨far, some (p, [])⟩
      | ⟨far, some (q, ns)⟩ => rounds g fuel s a q [ns] far
    | .ahead a =>
      match run g fuel s.looking a p far with
      | ⟨far, none⟩ => ⟨far, none⟩
      | ⟨far, some _⟩ => ⟨far, some (p, [])⟩
    | .never a =>
      match run g fuel s.against a p far with
      | ⟨far, none⟩ => ⟨far, some (p, [])⟩
      | ⟨far, some _⟩ => ⟨far, none⟩
    | .rule r =>
      match run g fuel (s.inside (g r).enclosure) (g r).pattern p far with
      | ⟨far, none⟩ => ⟨s.mark false p.taken far, none⟩
      | ⟨far, some (q, ns)⟩ =>
        ⟨s.mark true p.taken far,
          some (q, if s.leavesNode then [.mk r p.taken q.taken ns] else ns)⟩
termination_by structural fuel

/-- Further rounds of a repetition; the nodes of the rounds so far are given last first. -/
def rounds (g : ρ → Rule ρ) (fuel : Nat) (s : Setting) (a : Pattern ρ) (p : Place)
    (acc : List (List (Derivation ρ))) (far : Nat) : Outcome ρ :=
  match fuel with
  | 0 => ⟨far, none⟩
  | fuel + 1 =>
    match run g fuel s a (p.skip s) far with
    | ⟨far, none⟩ => ⟨far, some (p, acc.reverse.flatten)⟩
    | ⟨far, some (q, ns)⟩ => rounds g fuel s a q (ns :: acc) far
termination_by structural fuel

end

/-- The calls that a grammar may make before it takes a character. -/
def depth : Nat := 128

/-- Take a pattern from the beginning of a text; or the place where the text is refused. -/
def parse (g : ρ → Rule ρ) (a : Pattern ρ) (text : List Char) : Except Nat (List (Derivation ρ)) :=
  match run g (depth * (text.length + 2)) ⟨.open_, .taken⟩ a ⟨text, 0⟩ 0 with
  | ⟨far, none⟩ => .error far
  | ⟨_, some (_, ns)⟩ => .ok ns

end Inlay.Grammar
