/-
# `Inlay.Proofs.Markup.Escaping` — which text is written as it is

Text directly in a `script`, a `style` or the like is written as it is, and all
other text with references.  The names alone do not tell: a `style` of a drawing
holds text that was read like any other, and `<` may stand in it.

    rawByVocabulary   the raw-text names, in the HTML vocabulary only
    rawByName         the raw-text names, whatever the vocabulary

The first is the rule of the markup.  A stored element has a name but no
vocabulary, so copied markup is written by the second (`inner_graftAll`).  The
rules write trees alike exactly if these are `Sheltered`: no text that needs a
reference stands directly in an element of another vocabulary with a
raw-text name.  Where one does, it comes out as markup.

That the texts differ is seen from their lengths: references only add
characters, so nothing that one rule leaves out can be made up for elsewhere.
-/
import Inlay.Proofs.Dispatch.Reachable
import Inlay.Proofs.Document.Copy

namespace Inlay

open Document
open Markup (Tree Vocabulary)

/-! ## References -/

namespace Document

/-- A character that is written as a reference. -/
def NeedsReference (c : Char) : Prop := c = '&' ∨ c = '\u00a0' ∨ c = '<' ∨ c = '>'

theorem escapeTextChar_of_not {c : Char} (h : ¬ NeedsReference c) : escapeTextChar c = [c] := by
  simp only [NeedsReference, not_or] at h
  obtain ⟨hamp, hspace, hless, hmore⟩ := h
  rw [escapeTextChar, if_neg hamp, if_neg hspace, if_neg hless, if_neg hmore]

theorem one_lt_length_escapeTextChar {c : Char} (h : NeedsReference c) :
    1 < (escapeTextChar c).length := by
  rcases h with rfl | rfl | rfl | rfl <;> decide

/-- No bracket is left in a text that is written with references. -/
theorem escapeText_brackets (s : String) :
    '<' ∉ (escapeText s).toList ∧ '>' ∉ (escapeText s).toList := by
  have hchar : ∀ c : Char, '<' ∉ escapeTextChar c ∧ '>' ∉ escapeTextChar c := by
    intro c
    by_cases hc : NeedsReference c
    · rcases hc with rfl | rfl | rfl | rfl <;> decide
    · rw [escapeTextChar_of_not hc]
      simp only [NeedsReference, not_or] at hc
      simp only [List.mem_singleton]
      exact ⟨fun h => hc.2.2.1 h.symm, fun h => hc.2.2.2 h.symm⟩
  simp only [escapeText, String.toList_ofList, List.mem_flatMap, not_exists, not_and]
  exact ⟨fun c _ => (hchar c).1, fun c _ => (hchar c).2⟩

theorem escapeText_append (s t : String) : escapeText (s ++ t) = escapeText s ++ escapeText t := by
  rw [escapeText, String.toList_append, List.flatMap_append, String.ofList_append]
  rfl

theorem writeText_append (parent : Option String) (s t : String) :
    writeText parent (s ++ t) = writeText parent s ++ writeText parent t := by
  unfold writeText
  split
  · rfl
  · exact escapeText_append s t

/-- References only add characters, and add some unless no character needs one. -/
theorem length_flatMap_escape : ∀ cs : List Char,
    cs.length ≤ (cs.flatMap escapeTextChar).length ∧
    (cs.length = (cs.flatMap escapeTextChar).length → ∀ c ∈ cs, ¬ NeedsReference c)
  | [] => ⟨Nat.le_refl _, fun _ _ h => absurd h List.not_mem_nil⟩
  | c :: cs => by
      obtain ⟨hle, heq⟩ := length_flatMap_escape cs
      rw [List.flatMap_cons, List.length_append, List.length_cons]
      by_cases hc : NeedsReference c
      · have := one_lt_length_escapeTextChar hc
        exact ⟨by omega, fun h => by omega⟩
      · rw [escapeTextChar_of_not hc, List.length_singleton]
        refine ⟨by omega, fun h x hx => ?_⟩
        rcases List.mem_cons.mp hx with rfl | hx
        · exact hc
        · exact heq (by omega) x hx

theorem flatMap_escape_eq_self {cs : List Char} (h : ∀ c ∈ cs, ¬ NeedsReference c) :
    cs.flatMap escapeTextChar = cs := by
  induction cs with
  | nil => rfl
  | cons c cs ih =>
      rw [List.flatMap_cons, escapeTextChar_of_not (h c List.mem_cons_self),
        ih fun x hx => h x (List.mem_cons_of_mem _ hx)]
      rfl

end Document

/-! ## Writing trees -/

namespace Markup

/-- Raw text by name and vocabulary: the rule of the markup. -/
def rawByVocabulary (v : Vocabulary) (name : String) : Bool := v = .html && isRawText name

/-- Raw text by name alone. -/
def rawByName (_ : Vocabulary) (name : String) : Bool := isRawText name

namespace Tree

mutual

/-- Write a tree; `raw` says which elements' text is written as it is, `verbatim` that the tree
stands directly in such an element, and `hidden` that it stands in a void one. -/
def written (raw : Vocabulary → String → Bool) (verbatim hidden : Bool) : Tree → String
  | .document children => writtenAll raw verbatim hidden children
  | .doctype name => "<!DOCTYPE " ++ name ++ ">"
  | .text s => if verbatim then s else escapeText s
  | .comment s => "<!--" ++ s ++ "-->"
  | .instruction _ _ => ""
  | .element v name attributes children contents =>
    let e := storedElement name attributes
    let bare := hidden || isVoid e.name
    let content := writtenAll raw (raw v e.name) bare children ++
      writtenAll raw (raw v e.name) bare contents
    if hidden then content
    else
      let start := "<" ++ e.name ++ writeAttributes e.attributes ++ ">"
      if bare then start ++ content else start ++ content ++ "</" ++ e.name ++ ">"

/-- Write trees, one behind the other. -/
def writtenAll (raw : Vocabulary → String → Bool) (verbatim hidden : Bool) : List Tree → String
  | [] => ""
  | t :: rest => written raw verbatim hidden t ++ writtenAll raw verbatim hidden rest

end

mutual

/-- No text that needs a reference stands directly in an element of another vocabulary with a
raw-text name; `exposed` says that the tree itself stands in one. -/
def Sheltered (exposed : Bool) : Tree → Prop
  | .document children => ShelteredAll exposed children
  | .text s => exposed = true → ∀ c ∈ s.toList, ¬ NeedsReference c
  | .element v name attributes children contents =>
      let inside := v ≠ .html && isRawText (storedElement name attributes).name
      ShelteredAll inside children ∧ ShelteredAll inside contents
  | .doctype _ | .comment _ | .instruction _ _ => True

/-- The same for several trees. -/
def ShelteredAll (exposed : Bool) : List Tree → Prop
  | [] => True
  | t :: rest => Sheltered exposed t ∧ ShelteredAll exposed rest

end

end Tree

end Markup

open Markup Markup.Tree

/-! ## The two rules compared -/

/-- `b` is longer than `a`, unless `P` holds; then the two are the same. -/
structure LongerUnless (P : Prop) (a b : String) : Prop where
  le : a.length ≤ b.length
  of_length : a.length = b.length → P
  eq : P → a = b

namespace LongerUnless

variable {P Q : Prop} {a b a' b' : String}

theorem refl (hP : P) (a : String) : LongerUnless P a a where
  le := Nat.le_refl _
  of_length _ := hP
  eq _ := rfl

theorem append (h : LongerUnless P a b) (h' : LongerUnless Q a' b') :
    LongerUnless (P ∧ Q) (a ++ a') (b ++ b') where
  le := by
    rw [String.length_append, String.length_append]
    exact Nat.add_le_add h.le h'.le
  of_length hlen := by
    rw [String.length_append, String.length_append] at hlen
    have hle := h.le
    have hle' := h'.le
    exact ⟨h.of_length (by omega), h'.of_length (by omega)⟩
  eq hPQ := by rw [h.eq hPQ.1, h'.eq hPQ.2]

theorem before (h : LongerUnless P a b) (l : String) : LongerUnless P (l ++ a) (l ++ b) where
  le := by
    rw [String.length_append, String.length_append]
    exact Nat.add_le_add_left h.le _
  of_length hlen := by
    rw [String.length_append, String.length_append] at hlen
    exact h.of_length (Nat.add_left_cancel hlen)
  eq hP := by rw [h.eq hP]

theorem behind (h : LongerUnless P a b) (r : String) : LongerUnless P (a ++ r) (b ++ r) where
  le := by
    rw [String.length_append, String.length_append]
    exact Nat.add_le_add_right h.le _
  of_length hlen := by
    rw [String.length_append, String.length_append] at hlen
    exact h.of_length (Nat.add_right_cancel hlen)
  eq hP := by rw [h.eq hP]

theorem iff (h : LongerUnless P a b) : a = b ↔ P :=
  ⟨fun hab => h.of_length (congrArg String.length hab), h.eq⟩

end LongerUnless

namespace Markup.Tree

theorem longerUnless_text (s : String) :
    LongerUnless (∀ c ∈ s.toList, ¬ NeedsReference c) s (escapeText s) := by
  obtain ⟨hle, heq⟩ := length_flatMap_escape s.toList
  rw [String.length_toList, ← String.length_ofList] at hle heq
  exact ⟨hle, heq, fun h => by rw [escapeText, flatMap_escape_eq_self h, String.ofList_toList]⟩

theorem rawByName_eq (v : Vocabulary) (name : String) :
    rawByName v name = (rawByVocabulary v name || (v ≠ .html && isRawText name)) := by
  cases v <;> simp [rawByName, rawByVocabulary]

mutual

/-- By the rule of the markup a tree is written longer, unless it is sheltered. -/
theorem longerUnless_written (exposed verbatim hidden : Bool)
    (h : exposed = true → verbatim = false) : ∀ t : Tree,
      LongerUnless (Sheltered exposed t) (written rawByName (verbatim || exposed) hidden t)
        (written rawByVocabulary verbatim hidden t)
  | .document children => by
      rw [Sheltered, written, written]
      exact longerUnless_writtenAll exposed verbatim hidden h children
  | .doctype _ | .comment _ | .instruction _ _ => by
      rw [Sheltered, written, written]
      exact .refl trivial _
  | .text s => by
      rw [Sheltered, written, written]
      cases exposed with
      | false =>
          rw [Bool.or_false]
          exact .refl (fun h => nomatch h) _
      | true =>
          rw [h rfl]
          simpa using longerUnless_text s
  | .element v name attributes children contents => by
      have hinside : (v ≠ .html && isRawText (storedElement name attributes).name) = true →
          rawByVocabulary v (storedElement name attributes).name = false := by
        cases v <;> simp [rawByVocabulary]
      have hcontent := fun bare =>
        (longerUnless_writtenAll _ _ bare hinside children).append
          (longerUnless_writtenAll _ _ bare hinside contents)
      rw [← rawByName_eq] at hcontent
      rw [Sheltered, written, written]
      simp only
      split
      · exact hcontent _
      · split
        · exact (hcontent _).before _
        · exact ((((hcontent _).before _).behind _).behind _).behind _

theorem longerUnless_writtenAll (exposed verbatim hidden : Bool)
    (h : exposed = true → verbatim = false) : ∀ ts : List Tree,
      LongerUnless (ShelteredAll exposed ts) (writtenAll rawByName (verbatim || exposed) hidden ts)
        (writtenAll rawByVocabulary verbatim hidden ts)
  | [] => by
      rw [ShelteredAll, writtenAll, writtenAll]
      exact .refl trivial _
  | t :: rest => by
      rw [ShelteredAll, writtenAll, writtenAll]
      exact (longerUnless_written exposed verbatim hidden h t).append
        (longerUnless_writtenAll exposed verbatim hidden h rest)

end

end Markup.Tree

/-! ## Copied markup -/

namespace Shape

/-- Whether text directly in an element of this name is written as it is. -/
def verbatim (parent : Option String) : Bool := (parent.map isRawText).getD false

theorem writtenAll_addText (parent : Option String) (hidden : Bool) (ss : List Shape)
    (s : String) :
    writtenAll parent hidden (addText ss s) =
      writtenAll parent hidden ss ++ writeText parent s := by
  have hone : ∀ (t : String) (below : List Shape),
      writtenAll parent hidden [.node (some (.text t)) below] = writeText parent t := by
    intro t below
    rw [writtenAll, writtenAll, written, String.append_empty]
  unfold addText
  split
  · next h =>
      have hs : s = "" := by simpa using h
      subst hs
      have hempty : writeText parent "" = "" := by
        unfold writeText
        split <;> rfl
      rw [hempty, String.append_empty]
  · split
    · next t below hl =>
        obtain ⟨init, rfl⟩ := List.getLast?_eq_some_iff.mp hl
        rw [List.dropLast_concat, writtenAll_append, writtenAll_append, hone, hone,
          writeText_append, String.append_assoc]
    · rw [writtenAll_append, hone]

mutual

/-- Pasted shapes are written as the tree is, by name alone. -/
theorem writtenAll_paste (parent : Option String) (hidden : Bool) : ∀ (t : Tree) (ss : List Shape),
    writtenAll parent hidden (paste ss t) =
      writtenAll parent hidden ss ++ Tree.written rawByName (verbatim parent) hidden t
  | .document children, ss => by
      rw [paste, Tree.written]
      exact writtenAll_pasteAll parent hidden children ss
  | .doctype name, ss => by
      rw [paste, Tree.written, writtenAll_append, writtenAll, writtenAll, written,
        String.append_empty]
  | .text s, ss => by
      rw [paste, Tree.written, writtenAll_addText]
      rfl
  | .comment s, ss => by
      rw [paste, Tree.written, writtenAll_append, writtenAll, writtenAll, written,
        String.append_empty]
  | .instruction _ _, ss => by rw [paste, Tree.written, String.append_empty]
  | .element v name attributes children contents, ss => by
      have hcontent : ∀ bare,
          writtenAll (some (storedElement name attributes).name) bare
              (pasteAll (pasteAll [] children) contents) =
            Tree.writtenAll rawByName (rawByName v (storedElement name attributes).name) bare
                children ++
              Tree.writtenAll rawByName (rawByName v (storedElement name attributes).name) bare
                contents := by
        intro bare
        rw [writtenAll_pasteAll _ bare contents, writtenAll_pasteAll _ bare children, writtenAll,
          String.empty_append]
        rfl
      rw [paste, Tree.written, writtenAll_append, writtenAll, writtenAll, written,
        String.append_empty]
      simp only [hcontent]

theorem writtenAll_pasteAll (parent : Option String) (hidden : Bool) :
    ∀ (ts : List Tree) (ss : List Shape),
      writtenAll parent hidden (pasteAll ss ts) =
        writtenAll parent hidden ss ++ Tree.writtenAll rawByName (verbatim parent) hidden ts
  | [], ss => by rw [pasteAll, Tree.writtenAll, String.append_empty]
  | t :: rest, ss => by
      rw [pasteAll, Tree.writtenAll, writtenAll_pasteAll parent hidden rest,
        writtenAll_paste parent hidden t, String.append_assoc]

end

end Shape

namespace Document

variable {d : Document} {p : NodeId}

/-- The name of an element. -/
def name? (d : Document) (id : NodeId) : Option String := (d.element? id).map (·.name)

/-- Behind what was in a node, copied trees are written by name alone. -/
theorem inner_graftAll (hd : Forest d) (hp : d.contains p = true) (ts : List Tree) :
    (d.graftAll p ts).inner p =
      d.inner p ++ Tree.writtenAll rawByName (Shape.verbatim (d.name? p)) false ts := by
  have hg := hd.grows_graftAll hp ts
  have hshapes := graftAll_shapes ts hd hp
  rw [shapesBelow, shapesBelow] at hshapes
  rw [inner_eq, hg.element?_old hp, hshapes, Shape.writtenAll_pasteAll, inner_eq, name?]

end Document

variable {d : Document} {p : NodeId}

/-- Trees that are copied to the end of a node are written there, behind what was in it, with text
as it is in every element of a raw-text name and with references everywhere else.  By the rule of
the markup, where such an element has to be of the HTML vocabulary, they are written exactly if no
text that needs a reference stands directly in an element of another vocabulary with such a name.
A text that is written with references has no bracket. -/
theorem copied_text_escaped_iff (hd : Reachable d) (hp : d.contains p = true) (ts : List Tree) :
    (d.graftAll p ts).inner p =
      d.inner p ++ writtenAll rawByName (Shape.verbatim (d.name? p)) false ts ∧
    ((d.graftAll p ts).inner p =
        d.inner p ++ writtenAll rawByVocabulary (Shape.verbatim (d.name? p)) false ts ↔
      ShelteredAll false ts) ∧
    ∀ s, '<' ∉ (escapeText s).toList ∧ '>' ∉ (escapeText s).toList := by
  have hinner := inner_graftAll hd.forest hp ts
  have hlonger := longerUnless_writtenAll false (Shape.verbatim (d.name? p)) false
    (fun h => nomatch h) ts
  rw [Bool.or_false] at hlonger
  refine ⟨hinner, ?_, escapeText_brackets⟩
  rw [hinner, String.append_right_inj]
  exact hlonger.iff

/-- A style sheet, and a drawing with a title. -/
def sheetAndDrawing : List Tree :=
  [.element .html "style" [] [.text "a > b"] [],
   .element .svg "svg" [] [.element .svg "title" [] [.text "x < y"] []] []]

theorem sheetAndDrawing_written :
    Reachable Document.new ∧ Document.new.contains root = true ∧
    ShelteredAll false sheetAndDrawing ∧
    (Document.new.graftAll root sheetAndDrawing).write =
      "<style>a > b</style><svg><title>x &lt; y</title></svg>" := by
  have hroot : Document.new.contains root = true := rfl
  have htitle : isRawText (Text.lower "title") = false := by decide
  have hsheltered : ShelteredAll false sheetAndDrawing := by
    simp [sheetAndDrawing, ShelteredAll, Sheltered, storedElement, Element.ofName, htitle]
  obtain ⟨-, hrule, -⟩ := copied_text_escaped_iff .new hroot sheetAndDrawing
  refine ⟨.new, hroot, hsheltered, (hrule.mpr hsheltered).trans ?_⟩
  decide +kernel

/-- A drawing with a style of its own, which holds text with brackets. -/
def styledDrawing : String := "<svg><style>&#60;b></style></svg>"

theorem styledDrawing_trees :
    unwrap (Markup.parseFragment "body" styledDrawing) =
      [.element .svg "svg" [] [.element .svg "style" [] [.text "<b>"] []] []] := rfl

/-- The text of the drawing comes out as an element where the rule of the markup has references. -/
theorem drawing_text_becomes_markup :
    (Document.parse styledDrawing).write = "<svg><style><b></style></svg>" ∧
    writtenAll rawByVocabulary false false (unwrap (Markup.parseFragment "body" styledDrawing)) =
      "<svg><style>&lt;b&gt;</style></svg>" := by
  rw [styledDrawing_trees]
  decide +kernel

end Inlay
