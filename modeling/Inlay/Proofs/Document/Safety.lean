/-
# `Inlay.Proofs.Document.Safety` — no change of a document misses its node

Most operations look whether a node is there before they read it.  Some do not:
they take the entry of the store directly, because an earlier test or the shape
of the document says that it is there.  If it were not, the program would stop.

A `Checked` run makes each direct access on its own and ends in an error at the
first one that fails:

    appendChild p c    the entry of c, and then the entry of p
    appendText p s     the entry of p, the entry of its last child, and that one
                       again to change it

Copying markup, and with it parsing, consists of these two.  For `appendChild` the
test in front of the accesses is enough, in any document (`appendChild_eq`).  The
last child of a node is not tested: that it is a node is the first law of a forest
(`appendText_eq`), so the copy of a tree is carried along with the forest that it
grows (`graft_eq`).  Each run ends in what the operation makes of the document, so
no access fails, and making the accesses directly gives the same document.
-/
import Inlay.Proofs.Document.Growth

namespace Inlay

open Document

/-- What can be wrong with an access that is not tested where it is made. -/
inductive BadAccess
  /-- There is no entry at this place. -/
  | entry
  /-- More is taken away than there is. -/
  | subtraction
  /-- The two places are not in order, or one is not between two characters. -/
  | slice
  deriving Repr, DecidableEq

/-- A run that ends at the first direct access that fails. -/
abbrev Checked : Type → Type := Except BadAccess

namespace Checked

variable {d : Document} {p c id : NodeId}

@[simp] theorem ok_bind {α β : Type} (a : α) (f : α → Checked β) :
    ((.ok a : Checked α) >>= f) = f a := rfl

/-! ## Direct accesses -/

/-- The node at a place of the store. -/
def node (d : Document) (id : NodeId) : Checked Node :=
  match d.node? id with
  | some n => .ok n
  | none => .error .entry

/-- Change the node at a place of the store. -/
def modifyNode (d : Document) (id : NodeId) (f : Node → Node) : Checked Document :=
  (node d id).map fun _ => d.modifyNode id f

theorem node_eq_ok (h : d.contains id = true) : ∃ n, d.node? id = some n ∧ node d id = .ok n := by
  have hlt := contains_iff.mp h
  refine ⟨d.nodes[id.index], Array.getElem?_eq_getElem hlt, ?_⟩
  rw [node, node?, Array.getElem?_eq_getElem hlt]

theorem modifyNode_eq (h : d.contains id = true) (f : Node → Node) :
    modifyNode d id f = .ok (d.modifyNode id f) := by
  obtain ⟨n, -, hn⟩ := node_eq_ok h
  rw [modifyNode, hn]
  rfl

/-! ## Hanging nodes -/

/-- Move `c` to the end of `p`, unless that would be no tree. -/
def appendChild (d : Document) (p c : NodeId) : Checked Document :=
  if d.contains p && d.contains c && p ≠ c && !d.isAncestor c p then do
    let d ← modifyNode (d.remove c) c ({ · with parent := some p })
    modifyNode d p fun n => { n with children := n.children ++ [c] }
  else .ok d

theorem appendChild_eq (d : Document) (p c : NodeId) :
    appendChild d p c = .ok (d.appendChild p c) := by
  unfold appendChild Document.appendChild
  split
  · next h =>
      simp only [Bool.and_eq_true] at h
      obtain ⟨⟨⟨hp, hc⟩, -⟩, -⟩ := h
      rw [modifyNode_eq (by simpa using hc), ok_bind, modifyNode_eq (by simpa using hp), hang]
  · rfl

/-- Add a new text at the end of a node. -/
def attachText (d : Document) (p : NodeId) (s : String) : Checked Document :=
  let (d, id) := d.createText s
  appendChild d p id

/-- Add text at the end of a node, joined to a text that is there already. -/
def appendText (d : Document) (p : NodeId) (s : String) : Checked Document :=
  if s.isEmpty || !d.contains p then .ok d
  else do
    let parent ← node d p
    match parent.children.getLast? with
    | none => attachText d p s
    | some last => do
      let child ← node d last
      match child.kind with
      | .text t => modifyNode d last ({ · with kind := .text (t ++ s) })
      | _ => attachText d p s

/-- The last child of a node of a forest is a node, so it can be looked at. -/
theorem appendText_eq (hd : Forest d) (p : NodeId) (s : String) :
    appendText d p s = .ok (d.appendText p s) := by
  unfold appendText Document.appendText
  split
  · rfl
  · next h =>
      simp only [Bool.or_eq_true, Bool.not_eq_true', not_or, Bool.not_eq_false] at h
      obtain ⟨parent, hparent, hnode⟩ := node_eq_ok h.2
      have hchildren : d.children p = parent.children := by rw [children, hparent]
      rw [hnode, ok_bind, hchildren]
      cases hlast : parent.children.getLast? with
      | none => exact appendChild_eq _ _ _
      | some last =>
          have hmem : last ∈ d.children p := hchildren ▸ List.mem_of_getLast? hlast
          have hcontains := hd.contains_child hmem
          obtain ⟨child, hchild, hnode'⟩ := node_eq_ok hcontains
          have hkind : d.kind? last = some child.kind := by rw [kind?, hchild, Option.map_some]
          simp only [hnode', ok_bind, Option.map_some, hkind]
          cases child.kind with
          | text t => exact modifyNode_eq hcontains _
          | _ => exact appendChild_eq _ _ _

/-- The root of no forest: its only child is no node, and there is no entry to look at. -/
example : appendText ⟨#[⟨.root, none, [⟨7⟩]⟩]⟩ root "x" = .error .entry := rfl

/-! ## Copying markup -/

open Markup (Tree)

mutual

/-- Copy a tree to the end of a node. -/
def graft (d : Document) (p : NodeId) : Tree → Checked Document
  | .document children => graftAll d p children
  | .doctype name =>
    let (d, id) := d.createDoctype name
    appendChild d p id
  | .text s => appendText d p s
  | .comment s =>
    let (d, id) := d.createComment s
    appendChild d p id
  | .instruction _ _ => .ok d
  | .element _ name attributes children contents => do
    let (d, id) := d.createElement name
    let d := attributes.foldl (fun d a => d.setAttribute id a.key a.value) d
    let d ← appendChild d p id
    let d ← graftAll d id children
    graftAll d id contents

/-- Copy trees to the end of a node, in order. -/
def graftAll (d : Document) (p : NodeId) : List Tree → Checked Document
  | [] => .ok d
  | t :: rest => do
    let d ← graft d p t
    graftAll d p rest

end

mutual

theorem graft_eq : ∀ (t : Tree) {d : Document} {p : NodeId}, Forest d → d.contains p = true →
    graft d p t = .ok (d.graft p t)
  | .document children, _, _, hd, hp => by
      rw [graft, Document.graft]
      exact graftAll_eq children hd hp
  | .doctype _, _, _, _, _ => by
      rw [graft, Document.graft]
      exact appendChild_eq _ _ _
  | .text s, _, _, hd, _ => by
      rw [graft, Document.graft]
      exact appendText_eq hd _ s
  | .comment _, _, _, _, _ => by
      rw [graft, Document.graft]
      exact appendChild_eq _ _ _
  | .instruction _ _, _, _, _, _ => by rw [graft, Document.graft]
  | .element v name attributes children contents, d, p, hd, hp => by
      have hattach := hd.attach p (.element (storedElement name attributes))
      have hgrows := hattach.grows_graftAll contains_attach_self children
      have hnew : appendChild (attributes.foldl
          (fun d' a => d'.setAttribute ⟨d.size⟩ a.key a.value) (d.createElement name).1) p ⟨d.size⟩ =
          .ok (d.attach p (.element (storedElement name attributes))) := by
        rw [createElement, setAttributes_create]
        exact appendChild_eq _ _ _
      rw [graft_element, graft]
      simp only [createElement, create_snd] at hnew ⊢
      rw [hnew, ok_bind, graftAll_eq children hattach contains_attach_self, ok_bind]
      exact graftAll_eq contents (hgrows.forest hattach) (hgrows.contains contains_attach_self)

theorem graftAll_eq : ∀ (ts : List Tree) {d : Document} {p : NodeId}, Forest d →
    d.contains p = true → graftAll d p ts = .ok (d.graftAll p ts)
  | [], _, _, _, _ => by rw [graftAll, Document.graftAll]
  | t :: rest, _, _, hd, hp => by
      have hgrows := hd.grows_graft hp t
      rw [graftAll, Document.graftAll, graft_eq t hd hp, ok_bind]
      exact graftAll_eq rest (hgrows.forest hd) (hgrows.contains hp)

end

/-- Parse a text as content of a node that is there and add it at the end. -/
def appendFragment (d : Document) (p : NodeId) (text : String) : Checked Document :=
  graftAll d p (unwrap (Markup.parseFragment (d.contextOf p) text))

/-- The same, for identifiers that may name no node. -/
def appendMarkup (d : Document) (p : NodeId) (text : String) : Checked Document :=
  if d.contains p then appendFragment d p text else .ok d

def ofPage (text : String) : Checked Document :=
  graftAll Document.new root (Markup.parseDocument text)

def ofFragment (text : String) : Checked Document := appendFragment Document.new root text

/-- A page if the text looks like one, else content of a body. -/
def parse (text : String) : Checked Document :=
  if Markup.isPage text then ofPage text else ofFragment text

theorem appendMarkup_eq (hd : Forest d) (p : NodeId) (text : String) :
    appendMarkup d p text = .ok (d.appendMarkup p text) := by
  unfold appendMarkup Document.appendMarkup
  split
  · next hp => exact graftAll_eq _ hd hp
  · rfl

theorem parse_eq (text : String) : parse text = .ok (Document.parse text) := by
  unfold parse Document.parse
  split
  · exact graftAll_eq _ forest_new rfl
  · exact graftAll_eq _ forest_new rfl

end Checked

end Inlay
