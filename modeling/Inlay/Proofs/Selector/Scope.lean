/-
# `Inlay.Proofs.Selector.Scope` — searching below a node

A search below a node lists the subtree of the node and keeps what the selector
matches.  Listing goes down from the node, matching goes up from what was listed
and does not know where the listing began: the nodes for the other compounds of a
row may be the node itself, be above it, or be below it.

    find x text    what find a text has below x, in that order, where x is a
                   node below a, or a itself                 (`Forest.find_below`)

So a search below a node of the page is the search of the whole page less what is
elsewhere, and searches below nodes that are below each other take away more and
more.  A text that is no selector finds nothing anywhere.
-/
import Inlay.Proofs.Document.Subtree
import Inlay.Proofs.Selector.Matching

namespace Inlay

open Document

variable {d : Document} {a x scope : NodeId} {text : String} {selector : Selector}

/-- A search below `x` is a search below a node over `x`, less what is not below `x`. -/
theorem Document.Forest.find_below (hd : Forest d) (h : x = a ∨ d.Ancestor a x) (text : String) :
    d.find x text =
      { d.find a text with nodes := (d.find a text).nodes.filter (d.isAncestor x) } := by
  unfold find
  cases Selector.read text with
  | error _ => rfl
  | ok selector => simp only [← hd.filter_descendants h, List.filter_comm]

/-- What a row fits is found below every node over it, wherever the nodes for the row are. -/
theorem Document.Forest.mem_find_of_fits (hd : Forest d)
    (hread : Selector.read text = .ok selector) (hx : d.Ancestor scope x) {row : Complex}
    (hrow : row ∈ selector.groups) {n : Nat → NodeId} (hfits : row.Fits d n x) :
    x ∈ (d.find scope text).nodes := by
  rw [find, hread]
  refine List.mem_filter.mpr ⟨hd.mem_descendants.mpr hx, ?_⟩
  exact (Selector.matchesNode_iff hd).mpr ⟨row, hrow, n, hfits⟩

/-- A search below a node of the page finds what the search of the whole page finds below that node,
in the same order, under the same text; it looks for the other nodes of a row in the whole page.
Searches below nodes that are below each other restrict each other in the same way. -/
theorem scoped_search_restricts (hd : Reachable d) (text : String) :
    (∀ scope, d.isAttached scope = true →
      d.find scope text =
        { d.select text with nodes := (d.select text).nodes.filter (d.isAncestor scope) }) ∧
    (∀ outer inner, inner = outer ∨ d.isAncestor outer inner = true →
      d.find inner text =
        { d.find outer text with nodes := (d.find outer text).nodes.filter (d.isAncestor inner) }) ∧
    ∀ selector, Selector.read text = .ok selector → ∀ row ∈ selector.groups, ∀ n x,
      row.Fits d n x → ∀ scope, d.isAncestor scope x = true → x ∈ (d.find scope text).nodes := by
  have hf := hd.forest
  have hbelow : ∀ outer inner, inner = outer ∨ d.isAncestor outer inner = true →
      inner = outer ∨ d.Ancestor outer inner := fun _ _ h => h.imp_right hf.isAncestor_iff.mp
  refine ⟨fun scope h => ?_, fun outer inner h => hf.find_below (hbelow outer inner h) text, ?_⟩
  · simp only [isAttached, Bool.or_eq_true, decide_eq_true_eq] at h
    exact hf.find_below (hbelow root scope h) text
  · intro selector hread row hrow n x hfits scope hx
    exact hf.mem_find_of_fits hread (hf.isAncestor_iff.mp hx) hrow hfits

/-- Below `b` there are two `c`, and that `b` hangs from an `a` is seen from there as well; below
the first `c` there is the other one. -/
theorem letter_above_scope_counts :
    (Reachable nestedLetters ∧ nestedLetters.isAttached ⟨2⟩ = true ∧
      nestedLetters.isAncestor ⟨2⟩ ⟨3⟩ = true) ∧
    (nestedLetters.find ⟨2⟩ "a>b c").nodes = [⟨3⟩, ⟨4⟩] ∧
    (nestedLetters.find ⟨3⟩ "a>b c").nodes = [⟨4⟩] ∧
    ⟨4⟩ ∈ (nestedLetters.find ⟨3⟩ "a>b c").nodes := by
  have hnest : ∀ {d}, Reachable d → ∀ name, Reachable (nest d name) :=
    fun hd _ => .appendChild _ _ (.createElement _ hd)
  have hpage : Reachable nestedLetters :=
    hnest (hnest (hnest (hnest (hnest .new "a") "b") "c") "c") "d"
  obtain ⟨hattached, hnested, hfits⟩ := scoped_search_restricts hpage "a>b c"
  have hselect : (nestedLetters.select "a>b c").nodes = [⟨3⟩, ⟨4⟩] := by decide +kernel
  have hb : (nestedLetters.find ⟨2⟩ "a>b c").nodes = [⟨3⟩, ⟨4⟩] := by
    rw [hattached ⟨2⟩ (by decide), hselect]
    decide
  refine ⟨⟨hpage, by decide, by decide⟩, hb, ?_, ?_⟩
  · rw [hnested ⟨2⟩ ⟨3⟩ (.inr (by decide)), hb]
    decide
  · have hread : Selector.read "a>b c" =
        .ok ⟨[⟨.named "a", [(.child, .named "b"), (.descendant, .named "c")]⟩]⟩ := by decide +kernel
    have hancestor : nestedLetters.Ancestor ⟨2⟩ ⟨4⟩ := hpage.forest.isAncestor_iff.mp (by decide)
    -- The nodes are 1, 2 and 4.
    refine hfits _ hread _ (List.mem_singleton_self _) (fun i => ⟨if i < 2 then i + 1 else 4⟩) ⟨4⟩
      ⟨by decide, by decide, ?_, rfl⟩ ⟨3⟩ (by decide)
    rintro (_ | _ | i) h
    · rfl
    · exact hancestor
    · exact absurd h (by simp)

end Inlay
