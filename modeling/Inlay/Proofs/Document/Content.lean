/-
# `Inlay.Proofs.Document.Content` — what trees are, once they are copied

`Inlay.Proofs.Document.Copy` follows the copying step by step.  Here is what comes
of it, said of the trees alone.  A list of trees is a list of pieces:

    document      the pieces of its children
    instruction   no piece
    text          a text
    comment       a comment
    doctype       a document type
    element       an element over the content of its children and its contents

and its `content` is the pieces with their texts joined: a run of texts is one
text, and an empty text is none (`joinTexts`).  Instructions leave no piece, so a
run goes on across them.  No list in a content has an empty text or two texts
next to each other, at any depth (`tidyAll_content`).

An element has each attribute name once, in lower case, where it comes first, and
with the value that comes last (`mergedAttributes`).

The steps put piece after piece behind what is there, and join a text with what
stands last at that moment (`put`).  Joining from the front or from the back is
the same (`meet_put`), so that what the steps make of given shapes is these shapes
meeting the content: a text that comes first is joined to one that stands last,
and nothing else is (`pasteAll_eq_meet`).
-/
import Inlay.Proofs.Document.Attributes
import Inlay.Proofs.Document.Copy

namespace Inlay

open Document
open Markup (Tree Attribute)

/-! ## Attributes -/

/-- The value of the last attribute that is stored under a name. -/
def lastValue (attributes : List Attribute) (name : String) : String :=
  ((attributes.filter (Text.lower ·.key = name)).getLast?.map (·.value)).getD ""

/-- The attributes of an element: the names in lower case, each where it comes first, with the
value that comes last. -/
def mergedAttributes (attributes : List Attribute) : List (String × String) :=
  (attributes.map (Text.lower ·.key)).eraseDups.map fun name => (name, lastValue attributes name)

theorem mergedAttributes_eq (attributes : List Attribute) :
    mergedAttributes attributes = Element.merged (attributes.map fun a => (a.key, a.value)) := by
  have hlast : ∀ name, lastValue attributes name =
      (Element.lastSet (attributes.map fun a => (a.key, a.value)) name).getD "" := by
    intro name
    rw [lastValue, Element.lastSet, List.filter_map, List.getLast?_map, Option.map_map]
    rfl
  rw [mergedAttributes, Element.merged, List.map_map]
  exact List.map_congr_left fun name _ => by rw [hlast]

/-- Setting the attributes one after another merges them. -/
theorem storedElement_eq (name : String) (attributes : List Attribute) :
    storedElement name attributes = ⟨Text.lower name, mergedAttributes attributes⟩ := by
  rw [mergedAttributes_eq, ← Element.setAll_ofName, Element.setAll, List.foldl_map]
  rfl

namespace Shape

/-! ## Pieces and content -/

/-- A shape with nothing below it. -/
def leaf (kind : NodeKind) : Shape := .node (some kind) []

/-- Put a shape before others, a text joined to a text that follows; nothing if it is empty. -/
def glue : Shape → List Shape → List Shape
  | .node (some (.text s)) _, rest =>
      if s.isEmpty then rest
      else
        match rest with
        | .node (some (.text t)) _ :: more => leaf (.text (s ++ t)) :: more
        | _ => leaf (.text s) :: rest
  | s, rest => s :: rest

/-- Make one text of each run of texts. -/
def joinTexts : List Shape → List Shape
  | [] => []
  | s :: rest => glue s (joinTexts rest)

mutual

/-- What a tree is made of, text by text. -/
def pieces : Tree → List Shape
  | .document children => piecesAll children
  | .doctype name => [leaf (.doctype name)]
  | .text s => [leaf (.text s)]
  | .comment s => [leaf (.comment s)]
  | .instruction _ _ => []
  | .element _ name attributes children contents =>
      [.node (some (.element ⟨Text.lower name, mergedAttributes attributes⟩))
        (joinTexts (piecesAll children ++ piecesAll contents))]

/-- What trees are made of, in order. -/
def piecesAll : List Tree → List Shape
  | [] => []
  | t :: rest => pieces t ++ piecesAll rest

end

/-- The content that trees are, once they are copied. -/
def content (ts : List Tree) : List Shape := joinTexts (piecesAll ts)

/-- Shapes and content behind them: a text that comes first joins one that stands last. -/
def meet (ss cs : List Shape) : List Shape :=
  match ss.getLast?, cs with
  | some (.node (some (.text t)) below), .node (some (.text s)) _ :: rest =>
      ss.dropLast ++ .node (some (.text (t ++ s))) below :: rest
  | _, _ => ss ++ cs

/-! ## Piece after piece -/

/-- Put a piece behind shapes, a text joined to a text that stands last. -/
def put (ss : List Shape) : Shape → List Shape
  | .node (some (.text s)) _ => addText ss s
  | s => ss ++ [s]

/-- The text of a shape; nothing for shapes of other kinds. -/
def text? : Shape → Option String
  | .node (some (.text s)) _ => some s
  | _ => none

theorem text?_eq_some {q : Shape} {s : String} (h : q.text? = some s) :
    ∃ below, q = .node (some (.text s)) below := by
  obtain ⟨kind, below⟩ := q
  rcases kind with _ | _ | _ | t | _ | _
  case some.text =>
    cases h
    exact ⟨below, rfl⟩
  all_goals cases h

theorem put_of_text?_none {ss : List Shape} {q : Shape} (h : q.text? = none) :
    put ss q = ss ++ [q] := by
  obtain ⟨kind, below⟩ := q
  rcases kind with _ | _ | _ | t | _ | _
  case some.text => cases h
  all_goals rfl

theorem glue_of_text?_none {q : Shape} {cs : List Shape} (h : q.text? = none) :
    glue q cs = q :: cs := by
  obtain ⟨kind, below⟩ := q
  rcases kind with _ | _ | _ | t | _ | _
  case some.text => cases h
  all_goals rfl

theorem glue_text_text {s : String} (hs : s ≠ "") (t : String) (b b' cs : List Shape) :
    glue (.node (some (.text s)) b) (.node (some (.text t)) b' :: cs) =
      leaf (.text (s ++ t)) :: cs := by
  simp [glue, hs]

theorem glue_text {s : String} (hs : s ≠ "") (b : List Shape) {cs : List Shape}
    (h : cs.head?.bind text? = none) :
    glue (.node (some (.text s)) b) cs = leaf (.text s) :: cs := by
  rw [glue, if_neg (by simpa using hs)]
  rintro t b rest rfl
  cases h

theorem addText_text {s : String} (hs : s ≠ "") (t : String) (init b : List Shape) :
    addText (init ++ [.node (some (.text t)) b]) s =
      init ++ [.node (some (.text (t ++ s))) b] := by
  simp [addText, hs]

theorem addText_of_last {s : String} (hs : s ≠ "") {ss : List Shape}
    (h : ss.getLast?.bind text? = none) : addText ss s = ss ++ [leaf (.text s)] := by
  rw [addText, if_neg (by simpa using hs)]
  split
  · next hlast =>
      rw [hlast] at h
      cases h
  · rfl

theorem meet_text (t s : String) (init b b' cs : List Shape) :
    meet (init ++ [.node (some (.text t)) b]) (.node (some (.text s)) b' :: cs) =
      init ++ .node (some (.text (t ++ s))) b :: cs := by
  simp [meet]

theorem meet_of_last {ss : List Shape} (cs : List Shape) (h : ss.getLast?.bind text? = none) :
    meet ss cs = ss ++ cs := by
  unfold meet
  split
  · next hlast =>
      rw [hlast] at h
      cases h
  · rfl

theorem meet_of_head (ss : List Shape) {cs : List Shape} (h : cs.head?.bind text? = none) :
    meet ss cs = ss ++ cs := by
  unfold meet
  split
  · cases h
  · rfl

theorem meet_nil (cs : List Shape) : meet [] cs = cs := meet_of_last cs rfl

theorem last_cases (ss : List Shape) :
    ss.getLast?.bind text? = none ∨ ∃ init t b, ss = init ++ [.node (some (.text t)) b] := by
  rcases List.eq_nil_or_concat ss with rfl | ⟨init, q, rfl⟩
  · exact .inl rfl
  · cases hq : q.text? with
    | none => exact .inl (by simpa using hq)
    | some t =>
        obtain ⟨b, rfl⟩ := text?_eq_some hq
        exact .inr ⟨init, t, b, List.concat_eq_append⟩

theorem head_cases (cs : List Shape) :
    cs.head?.bind text? = none ∨ ∃ t b rest, cs = .node (some (.text t)) b :: rest := by
  rcases cs with _ | ⟨q, cs⟩
  · exact .inl rfl
  · cases hq : q.text? with
    | none => exact .inl (by simpa using hq)
    | some t =>
        obtain ⟨b, rfl⟩ := text?_eq_some hq
        exact .inr ⟨t, b, cs, rfl⟩

/-- A piece may be put behind what is there, or before what comes. -/
theorem meet_put (ss cs : List Shape) (q : Shape) : meet (put ss q) cs = meet ss (glue q cs) := by
  cases hq : q.text? with
  | none =>
      rw [put_of_text?_none hq, glue_of_text?_none hq, meet_of_last cs (by simpa using hq),
        meet_of_head ss (by simpa using hq), List.append_assoc, List.singleton_append]
  | some s =>
      obtain ⟨b, rfl⟩ := text?_eq_some hq
      by_cases hs : s = ""
      · simp [put, addText, glue, hs]
      · rw [put]
        -- The text is joined to what stands last or not, and what comes is joined to it or not.
        rcases last_cases ss with hlast | ⟨init, t, below, rfl⟩ <;>
          rcases head_cases cs with hhead | ⟨u, b', rest, rfl⟩
        · rw [addText_of_last hs hlast, glue_text hs b hhead, meet_of_head _ hhead,
            meet_of_last _ hlast, List.append_assoc, List.singleton_append]
        · rw [addText_of_last hs hlast, glue_text_text hs, meet_of_last _ hlast, leaf, meet_text]
          rfl
        · rw [addText_text hs, glue_text hs b hhead, meet_of_head _ hhead, leaf, meet_text,
            List.append_assoc, List.singleton_append]
        · rw [addText_text hs, glue_text_text hs, meet_text, leaf, meet_text, String.append_assoc]

/-- Pieces put behind shapes one after another meet them with their texts joined. -/
theorem foldl_put (qs : List Shape) : ∀ ss : List Shape, qs.foldl put ss = meet ss (joinTexts qs) := by
  induction qs with
  | nil =>
      intro ss
      exact (meet_of_head ss rfl).trans (List.append_nil ss) |>.symm
  | cons q qs ih =>
      intro ss
      rw [List.foldl_cons, ih, meet_put, joinTexts]

mutual

theorem paste_eq_foldl : ∀ (t : Tree) (ss : List Shape), paste ss t = (pieces t).foldl put ss
  | .document children, ss => by
      rw [paste, pieces]
      exact pasteAll_eq_foldl children ss
  | .doctype _, _ | .text _, _ | .comment _, _ | .instruction _ _, _ => by rw [paste, pieces]; rfl
  | .element _ name attributes children contents, ss => by
      rw [paste, pieces, pasteAll_eq_foldl children, pasteAll_eq_foldl contents, ← List.foldl_append,
        foldl_put, meet_nil, storedElement_eq]
      rfl

theorem pasteAll_eq_foldl : ∀ (ts : List Tree) (ss : List Shape),
    pasteAll ss ts = (piecesAll ts).foldl put ss
  | [], _ => by rw [pasteAll, piecesAll, List.foldl_nil]
  | t :: rest, ss => by
      rw [pasteAll, piecesAll, List.foldl_append, paste_eq_foldl t, pasteAll_eq_foldl rest]

end

/-- Trees pasted behind shapes are the shapes with the content of the trees behind them. -/
theorem pasteAll_eq_meet (ss : List Shape) (ts : List Tree) :
    pasteAll ss ts = meet ss (content ts) := by
  rw [pasteAll_eq_foldl, foldl_put, content]

/-! ## Tidy content -/

mutual

/-- Nothing below a shape is an empty text or a text before a text. -/
def Tidy : Shape → Prop
  | .node _ below => TidyAll below

/-- Neither among shapes nor below them is an empty text or a text before a text. -/
def TidyAll : List Shape → Prop
  | [] => True
  | q :: rest =>
      Tidy q ∧ q.text? ≠ some "" ∧ (q.text? = none ∨ rest.head?.bind text? = none) ∧ TidyAll rest

end

theorem tidy_leaf (kind : NodeKind) : Tidy (leaf kind) := by
  rw [leaf, Tidy, TidyAll]
  trivial

theorem tidyAll_glue {q : Shape} {cs : List Shape} (hq : Tidy q) (hcs : TidyAll cs) :
    TidyAll (glue q cs) := by
  cases h : q.text? with
  | none =>
      rw [glue_of_text?_none h, TidyAll]
      exact ⟨hq, by simp [h], .inl h, hcs⟩
  | some s =>
      obtain ⟨b, rfl⟩ := text?_eq_some h
      by_cases hs : s = ""
      · simpa [glue, hs] using hcs
      · rcases head_cases cs with hhead | ⟨t, b', rest, rfl⟩
        · rw [glue_text hs b hhead, TidyAll]
          exact ⟨tidy_leaf _, by simpa [leaf, text?] using hs, .inr hhead, hcs⟩
        · rw [TidyAll] at hcs
          obtain ⟨-, -, hnext, hrest⟩ := hcs
          rw [glue_text_text hs, TidyAll]
          exact ⟨tidy_leaf _, by simp [leaf, text?, hs], .inr (hnext.resolve_left nofun), hrest⟩

theorem tidyAll_joinTexts {qs : List Shape} (h : ∀ q ∈ qs, Tidy q) : TidyAll (joinTexts qs) := by
  induction qs with
  | nil =>
      rw [joinTexts, TidyAll]
      trivial
  | cons q qs ih =>
      rw [joinTexts]
      exact tidyAll_glue (h q List.mem_cons_self) (ih fun q' hq' => h q' (List.mem_cons_of_mem _ hq'))

mutual

theorem tidy_pieces : ∀ (t : Tree), ∀ q ∈ pieces t, Tidy q
  | .document children => by
      rw [pieces]
      exact tidy_piecesAll children
  | .doctype _ | .text _ | .comment _ => by
      intro q hq
      rw [pieces, List.mem_singleton] at hq
      exact hq ▸ tidy_leaf _
  | .instruction _ _ => by
      intro q hq
      rw [pieces] at hq
      cases hq
  | .element _ _ _ children contents => by
      intro q hq
      rw [pieces, List.mem_singleton] at hq
      rw [hq, Tidy]
      refine tidyAll_joinTexts fun q' hq' => ?_
      rcases List.mem_append.mp hq' with hq' | hq'
      · exact tidy_piecesAll children q' hq'
      · exact tidy_piecesAll contents q' hq'

theorem tidy_piecesAll : ∀ (ts : List Tree), ∀ q ∈ piecesAll ts, Tidy q
  | [] => by
      intro q hq
      rw [piecesAll] at hq
      cases hq
  | t :: rest => by
      intro q hq
      rw [piecesAll] at hq
      rcases List.mem_append.mp hq with hq | hq
      · exact tidy_pieces t q hq
      · exact tidy_piecesAll rest q hq

end

theorem tidyAll_content (ts : List Tree) : TidyAll (content ts) :=
  tidyAll_joinTexts (tidy_piecesAll ts)

end Shape

end Inlay
