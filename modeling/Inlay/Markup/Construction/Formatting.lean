/-
# `Inlay.Markup.Construction.Formatting` — formatting elements across blocks

Formatting elements such as `b` and `a` may be closed in any order.  An open
one that a block's end tag closed is opened again before the next text
(`reopen`).  An end tag of a formatting element that has blocks open inside it
splits the element: `adopt` gives the formatting to the inside of the blocks
and moves the blocks out.

At most three entries with the same name and attributes are kept since the
last marker.
-/
import Inlay.Markup.Construction.State

namespace Inlay.Markup.Site

/-- Whether two tags open the same element, whatever the order of their attributes. -/
def sameElement (a b : Tag) : Bool :=
  a.name = b.name && a.attributes.length = b.attributes.length &&
    a.attributes.all b.attributes.contains

/-- The formatting elements since the last marker, the latest first. -/
def recentFormatting (s : Site) : List (Nat × Tag) :=
  go s.formatting
where
  go : List Entry → List (Nat × Tag)
    | .element n t :: rest => (n, t) :: go rest
    | _ => []

def isEntryOf (n : Nat) : Entry → Bool
  | .element m _ => m = n
  | .marker => false

/-- Forget one formatting element. -/
def forget (s : Site) (n : Nat) : Site := { s with formatting := s.formatting.eraseP (isEntryOf n) }

def isFormatting (s : Site) (n : Nat) : Bool := s.formatting.any (isEntryOf n)

/-- Open a formatting element and remember it. -/
def openFormatting (s : Site) (tag : Tag) : Site :=
  let same := s.recentFormatting.filter fun (_, t) => sameElement tag t
  let s := if same.length ≥ 3 then
      match same.getLast? with
      | some (n, _) => s.forget n
      | none => s
    else s
  let (s, n) := s.openElement tag
  { s with formatting := .element n tag :: s.formatting }

/-- Whether an entry needs no reopening. -/
def isMarkerOrOpen (s : Site) : Entry → Bool
  | .marker => true
  | .element n _ => s.stack.contains n

/-- Open entries again, the earliest first, each replaced by its new element. -/
def reopenAll (s : Site) (kept : List Entry) : List Entry → Site
  | [] => { s with formatting := kept }
  | .marker :: rest => reopenAll s (.marker :: kept) rest
  | .element _ tag :: rest =>
    let (s, n) := s.openElement tag
    reopenAll s (.element n tag :: kept) rest

/-- Open again the formatting elements that were closed around blocks. -/
def reopen (s : Site) : Site :=
  let closed := s.formatting.takeWhile (!s.isMarkerOrOpen ·)
  if closed.isEmpty then s
  else s.reopenAll (s.formatting.drop closed.length) closed.reverse

/-- Close the element that an end tag names, unless a special element is open inside it. -/
def closeNamed (s : Site) (tag : String) : Site :=
  match (s.stack.findIdx? fun n => (s.name n).isHtml tag || (s.name n).isSpecial) with
  | none => s
  | some i =>
    match s.stack[i]? with
    | some n =>
      if (s.name n).isHtml tag then
        -- all up to the element goes, implied ends among it
        { s with stack := s.stack.drop (i + 1) }
      else s
    | none => s

/-! ## Splitting a formatting element -/

/-- Where the new formatting entry goes. -/
inductive Bookmark
  | replace (n : Nat)
  | after (n : Nat)

/-- What the inner loop of a split changes. `stack` and `active` have the outermost first. -/
structure Split where
  draft : Draft
  stack : List Nat
  active : List Entry
  bookmark : Bookmark
  last : Nat

/-- Go from the block at `index` towards the formatting element, copying the formatting elements
between and hanging what was passed under the copies. -/
def splitBetween (formatted block : Nat) (round : Nat) : Nat → Split → Split
  | 0, x => x
  | index + 1, x =>
    match x.stack[index]? with
    | none => x
    | some node =>
      if node = formatted then x
      else
        let x := if round ≥ 3 then { x with active := x.active.eraseP (isEntryOf node) } else x
        match x.active.find? (isEntryOf node) with
        | some (.element _ tag) =>
          let (draft, copy) := x.draft.addElement ⟨.html, tag.name⟩ (plainAttributes tag)
          let active := x.active.map fun e => if isEntryOf node e then .element copy tag else e
          let bookmark := if x.last = block then .after copy else x.bookmark
          splitBetween formatted block (round + 1) index
            ⟨(draft.detach x.last).append copy x.last, x.stack.set index copy, active, bookmark,
              copy⟩
        | _ =>
          splitBetween formatted block (round + 1) index { x with stack := x.stack.eraseIdx index }

/-- One round for the end tag of a formatting element; `none` when there is nothing left to do. -/
def adoptOnce (s : Site) (subject : String) : Site × Bool :=
  match s.recentFormatting.find? fun (_, t) => t.name = subject with
  | none => (s.closeNamed subject, false)
  | some (formatted, tag) =>
    if !s.stack.contains formatted then (s.forget formatted, false)
    else if !s.inScope Name.boundsScope (· = formatted) then (s, false)
    else
      let stack := s.stack.reverse
      let at_ := stack.idxOf formatted
      match (stack.drop at_).find? fun n => (s.name n).isSpecial with
      | none =>
        (({ s with stack := (stack.take at_).reverse } : Site).forget formatted, false)
      | some block =>
        let ancestor := stack[at_ - 1]?
        let x := splitBetween formatted block 0 (stack.idxOf block)
          ⟨s.draft, stack, s.formatting.reverse, .replace formatted, block⟩
        let s := { s with draft := x.draft.detach x.last }
        let s := s.insertNode x.last ancestor
        let (draft, copy) := s.draft.addElement ⟨.html, tag.name⟩ (plainAttributes tag)
        let draft := (draft.moveChildren block copy).append block copy
        let entry := Entry.element copy tag
        let active := match x.bookmark with
          | .replace n => x.active.map fun e => if isEntryOf n e then entry else e
          | .after n =>
            let i := (x.active.findIdx? (isEntryOf n)).getD 0
            (x.active.insertIdx (i + 1) entry).eraseP (isEntryOf formatted)
        let open_ := x.stack.erase formatted
        let open_ := open_.insertIdx (open_.idxOf block + 1) copy
        ({ s with draft := draft, stack := open_.reverse, formatting := active.reverse }, true)

/-- Up to `n` rounds. -/
def adoptRounds : Nat → Site → String → Site
  | 0, s, _ => s
  | n + 1, s, subject =>
    match s.adoptOnce subject with
    | (s, true) => adoptRounds n s subject
    | (s, false) => s

/-- Handle the end tag of a formatting element. -/
def adopt (s : Site) (subject : String) : Site :=
  if s.currentNamed subject && !(s.current?.map s.isFormatting).getD false then s.pop
  else adoptRounds 8 s subject

/-- A second link inside a link ends the first. -/
def closeMisnestedLink (s : Site) : Site :=
  match s.recentFormatting.find? fun (_, t) => t.name = "a" with
  | none => s
  | some (n, _) => ((s.adopt "a").forget n).dropFromStack n

end Inlay.Markup.Site
