/-
# `Inlay.Proofs.Selector.Grammar` — how selectors are written

The grammar of selectors has two levels.  The upper one does not ask what its
smallest parts are made of:

    group     complex (comma complex)*
    complex   compound (combinator compound)*
    compound  tag? simple*                         not empty

A `Spelling` says how the smallest parts are written over some alphabet, and the
upper level is stated once for all of them.  In characters they are

    tag         *  |  name
    simple      # name  |  . name  |  [ ws* name ws* ]
                |  [ ws* name ws* = ws* value ws* ]
    value       name  |  " no " "  |  ' no ' '
    combinator  ws* > ws*  |  ws+
    comma       ws* , ws*
    name        A-Z a-z 0-9 _ - and U+0080 and above, at least one
    ws          space, tab, carriage return, line feed, form feed

What is written is kept as it is: a `WrittenCompound` has its tag, and all its
conditions in order.  The runs of white space are not part of it, nor is the way
in which a value is quoted, so two texts that differ in these alone spell the
same group.  `ofWritten` is the selector that a group stands for.
-/
import Inlay.Selector.Reader

namespace Inlay.Selector

/-- A compound as it is written: its tag, if there is one, and its conditions in order. -/
structure WrittenCompound where
  tag : Option String
  simples : List Simple

/-- A row of compounds as it is written, each further one with the combinator before it. -/
structure WrittenComplex where
  first : WrittenCompound
  rest : List (Combinator × WrittenCompound)

/-- The record of a written compound; its tag is put in lower case. -/
def WrittenCompound.compound (w : WrittenCompound) : Compound :=
  .ofWritten (w.tag.map Text.lower) w.simples

/-- One compound for each that is written, with its combinator. -/
def WrittenComplex.complex (w : WrittenComplex) : Complex :=
  ⟨w.first.compound, w.rest.map fun link => (link.1, link.2.compound)⟩

/-- One alternative for each that is written. -/
def ofWritten (g : List WrittenComplex) : Selector := ⟨g.map (·.complex)⟩

/-! ## The grammar over any alphabet -/

/-- How the smallest parts of a selector are written. -/
structure Spelling (α : Type) where
  tag : String → List α → Prop
  simple : Simple → List α → Prop
  combinator : Combinator → List α → Prop
  comma : List α → Prop

namespace Spelling

variable {α : Type} (S : Spelling α)

/-- A tag, or none. -/
inductive Tag : Option String → List α → Prop
  | absent : Tag none []
  | present {tag : String} {t : List α} : S.tag tag t → Tag (some tag) t

/-- Conditions one behind the other. -/
inductive Simples : List Simple → List α → Prop
  | nil : Simples [] []
  | cons {s : Simple} {ss : List Simple} {t u : List α} :
      S.simple s t → Simples ss u → Simples (s :: ss) (t ++ u)

inductive Compound : WrittenCompound → List α → Prop
  | mk {tag : Option String} {simples : List Simple} {t u : List α} :
      S.Tag tag t → S.Simples simples u → t ++ u ≠ [] → Compound ⟨tag, simples⟩ (t ++ u)

/-- The compounds behind the first one, each with the combinator before it. -/
inductive Row : List (Combinator × WrittenCompound) → List α → Prop
  | nil : Row [] []
  | cons {k : Combinator} {c : WrittenCompound} {row : List (Combinator × WrittenCompound)}
      {t u v : List α} :
      S.combinator k t → S.Compound c u → Row row v → Row ((k, c) :: row) (t ++ (u ++ v))

inductive Complex : WrittenComplex → List α → Prop
  | mk {c : WrittenCompound} {row : List (Combinator × WrittenCompound)} {t u : List α} :
      S.Compound c t → S.Row row u → Complex ⟨c, row⟩ (t ++ u)

inductive Group : List WrittenComplex → List α → Prop
  | one {c : WrittenComplex} {t : List α} : S.Complex c t → Group [c] t
  | more {c : WrittenComplex} {cs : List WrittenComplex} {t u v : List α} :
      S.Complex c t → S.comma u → Group cs v → Group (c :: cs) (t ++ (u ++ v))

end Spelling

/-! ## In characters -/

/-- The characters of white space between the parts of a selector. -/
def IsWhite (c : Char) : Prop := c = ' ' ∨ c = '\t' ∨ c = '\r' ∨ c = '\n' ∨ c = '\x0c'

/-- A run of white space, which may be empty. -/
def White (w : List Char) : Prop := ∀ c ∈ w, IsWhite c

def IsLetter (c : Char) : Prop :=
  ('A' ≤ c ∧ c ≤ 'Z') ∨ ('a' ≤ c ∧ c ≤ 'z') ∨ ('0' ≤ c ∧ c ≤ '9') ∨ c = '_' ∨ c = '-' ∨ '\u0080' ≤ c

def Name (n : List Char) : Prop := n ≠ [] ∧ ∀ c ∈ n, IsLetter c

inductive ValueText : String → List Char → Prop
  | bare {n : List Char} : Name n → ValueText (String.ofList n) n
  | quoted {q : Char} {v : List Char} :
      q = '"' ∨ q = '\'' → q ∉ v → ValueText (String.ofList v) (q :: (v ++ [q]))

inductive SimpleText : Simple → List Char → Prop
  | id {n : List Char} : Name n → SimpleText (.id (String.ofList n)) ('#' :: n)
  | word {n : List Char} : Name n → SimpleText (.word (String.ofList n)) ('.' :: n)
  | present {w n w' : List Char} : White w → Name n → White w' →
      SimpleText (.test (.present (String.ofList n))) ('[' :: (w ++ (n ++ (w' ++ [']']))))
  | equals {w n w₁ w₂ t w' : List Char} {v : String} :
      White w → Name n → White w₁ → White w₂ → ValueText v t → White w' →
      SimpleText (.test (.equals (String.ofList n) v))
        ('[' :: (w ++ (n ++ ((w₁ ++ '=' :: w₂) ++ (t ++ (w' ++ [']']))))))

inductive TagText : String → List Char → Prop
  | star : TagText "*" ['*']
  | name {n : List Char} : Name n → TagText (String.ofList n) n

inductive CombinatorText : Combinator → List Char → Prop
  | child {w w' : List Char} : White w → White w' → CombinatorText .child (w ++ '>' :: w')
  | descendant {w : List Char} : White w → w ≠ [] → CombinatorText .descendant w

inductive CommaText : List Char → Prop
  | mk {w w' : List Char} : White w → White w' → CommaText (w ++ ',' :: w')

/-- Selectors in characters. -/
def inCharacters : Spelling Char := ⟨TagText, SimpleText, CombinatorText, CommaText⟩

end Inlay.Selector
