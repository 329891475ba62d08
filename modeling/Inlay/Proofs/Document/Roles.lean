/-
# `Inlay.Proofs.Document.Roles` — the root on top, the leaves at the bottom

Every document has one node of the kind of a root, and no operation makes
another (`OneRoot`).  What else the kinds promise is `InRole`:

    top      the root has no parent
    leaves   a text, a comment and a doctype have no children

The store itself does not ask for it: a node of any kind may be hung under any
other that is not below it.  So for each operation there is a theorem that says
exactly when it keeps the roles.

    create, modifyElement, remove    always
    appendChild p c                  unless it moves the root, or anything under
                                     a leaf                (`inRole_appendChild_iff`)
    appendMarkup p text              unless p is a leaf and the markup comes to
                                     anything             (`inRole_appendMarkup_iff`)

Copied trees never hang anything under a leaf that the copy made: `graft` puts
nodes under the node it is given and under elements only, which is what
`graftAll_leavesBut` says, its exception `q` being the node that it is given.
-/
import Inlay.Proofs.Document.Copy
import Inlay.Proofs.Document.Pieces

namespace Inlay.Document

open Shape
open Markup (Tree)

variable {d d' : Document} {id x p c q : NodeId} {k : NodeKind} {n : Nat} {P : Element → Prop}

/-- The root has the kind of a root, and no other node has. -/
def OneRoot (d : Document) : Prop := ∀ x, d.kind? x = some .root ↔ x = root

/-- Kinds keep their role in the tree. -/
structure InRole (d : Document) : Prop where
  top : d.parent? root = none
  leaves : ∀ x, d.isLeaf x = true → d.children x = []

theorem OneRoot.contains_root (h : OneRoot d) : d.contains root = true := by
  have hk := (h root).mpr rfl
  cases hc : d.contains root with
  | true => rfl
  | false =>
      rw [kind?_eq_none hc] at hk
      cases hk

theorem oneRoot_new : OneRoot new := by
  rintro ⟨i⟩
  cases i <;> simp [new, kind?, node?, root]

theorem inRole_new : InRole new where
  top := rfl
  leaves x _ := by
    obtain ⟨i⟩ := x
    cases i <;> simp [new, children_eq, node?]

/-! ## Kinds of the nodes that were there -/

theorem isLeaf_create (k : NodeKind) (h : d.contains x = true) :
    (d.create k).1.isLeaf x = d.isLeaf x := by
  rw [isLeaf, kind?_create_of_ne k (ne_size_of_contains h), isLeaf]

@[simp] theorem isLeaf_remove : (d.remove id).isLeaf x = d.isLeaf x := by
  rw [isLeaf, kind?_remove, isLeaf]

@[simp] theorem isLeaf_removeAll (ns : List NodeId) :
    (ns.foldl remove d).isLeaf x = d.isLeaf x := by
  rw [isLeaf, kind?_removeAll, isLeaf]

@[simp] theorem isLeaf_appendChild : (d.appendChild p c).isLeaf x = d.isLeaf x := by
  rw [isLeaf, kind?_appendChild, isLeaf]

/-- An edit of an element leaves an element, and every other kind as it is. -/
theorem kind?_modifyElement_cases (d : Document) (id x : NodeId) (f : Element → Element) :
    (d.modifyElement id f).kind? x = d.kind? x ∨
    ∃ e, d.kind? x = some (.element e) ∧
      (d.modifyElement id f).kind? x = some (.element (f e)) := by
  rw [modifyElement_eq]
  simp only [kind?, node?_modifyNode]
  split
  · cases hn : d.node? x with
    | none => exact .inl rfl
    | some n =>
        obtain ⟨kind, up, below⟩ := n
        cases kind with
        | element e => exact .inr ⟨e, rfl, rfl⟩
        | _ => exact .inl rfl
  · exact .inl rfl

@[simp] theorem isLeaf_modifyElement (f : Element → Element) :
    (d.modifyElement id f).isLeaf x = d.isLeaf x := by
  rcases kind?_modifyElement_cases d id x f with h | ⟨e, hold, hnew⟩
  · rw [isLeaf, h, isLeaf]
  · rw [isLeaf, hnew, isLeaf, hold]
    rfl

namespace OneRoot

theorem create (h : OneRoot d) (hk : k ≠ .root) : OneRoot (d.create k).1 := by
  intro x
  by_cases hx : x = ⟨d.size⟩
  · subst hx
    have hne : (⟨d.size⟩ : NodeId) ≠ root := (ne_size_of_contains h.contains_root).symm
    rw [kind?_create_self]
    simp [hk, hne]
  · rw [kind?_create_of_ne k hx, h x]

theorem modifyElement (h : OneRoot d) (id : NodeId) (f : Element → Element) :
    OneRoot (d.modifyElement id f) := by
  intro x
  rw [← h x]
  rcases kind?_modifyElement_cases d id x f with hx | ⟨e, hold, hnew⟩
  · rw [hx]
  · rw [hold, hnew]
    simp

theorem removeAll (h : OneRoot d) (ns : List NodeId) :
    OneRoot (ns.foldl Document.remove d) := by
  intro x
  rw [kind?_removeAll, h x]

theorem remove (h : OneRoot d) (id : NodeId) : OneRoot (d.remove id) := h.removeAll [id]

theorem appendChild (h : OneRoot d) (p c : NodeId) : OneRoot (d.appendChild p c) := by
  intro x
  rw [kind?_appendChild, h x]

end OneRoot

/-! ## Growing -/

theorem kind?_join_cases {last : NodeId} {s t : String} (hl : d.kind? last = some (.text t)) :
    (d.modifyNode last ({ · with kind := .text (t ++ s) })).kind? x = d.kind? x ∨
    d.kind? x = some (.text t) ∧
      (d.modifyNode last ({ · with kind := .text (t ++ s) })).kind? x = some (.text (t ++ s)) := by
  by_cases hx : x = last
  · subst hx
    exact .inr ⟨hl, kind?_join_self hl⟩
  · rw [kind?, node?_modifyNode, if_neg hx, ← kind?]
    exact .inl rfl

theorem isLeaf_join {last : NodeId} {s t : String} (hl : d.kind? last = some (.text t)) :
    (d.modifyNode last ({ · with kind := .text (t ++ s) })).isLeaf x = d.isLeaf x := by
  rcases kind?_join_cases (x := x) (s := s) hl with h | ⟨hold, hnew⟩
  · rw [isLeaf, h, isLeaf]
  · rw [isLeaf, hnew, isLeaf, hold]
    rfl

namespace Grows

theorem oneRoot (hg : Grows n P d d') (h : OneRoot d) : OneRoot d' := by
  induction hg with
  | refl => exact h
  | attach _ _ _ hk _ ih => exact (ih.create hk).appendChild _ _
  | join _ _ _ hl ih =>
      intro x
      rw [← ih x]
      rcases kind?_join_cases (x := x) hl with hx | ⟨hold, hnew⟩
      · rw [hx]
      · rw [hold, hnew]
        simp

/-- A node that was there is a leaf afterwards if it was one before. -/
theorem isLeaf_old (hg : Grows n P d d') (hx : d.contains x = true) :
    d'.isLeaf x = d.isLeaf x := by
  induction hg with
  | refl => rfl
  | attach hg _ _ _ _ ih =>
      rw [Document.attach, isLeaf_appendChild, isLeaf_create _ (hg.contains hx), ih]
  | join _ _ _ hl ih => rw [isLeaf_join hl, ih]

end Grows

/-- Copied trees bring no root with them. -/
theorem OneRoot.graftAll (h : OneRoot d) (hd : Forest d) (hp : d.contains p = true)
    (ts : List Tree) : OneRoot (d.graftAll p ts) :=
  (hd.grows_graftAll hp ts).oneRoot h

theorem OneRoot.appendMarkup (h : OneRoot d) (hd : Forest d) (p : NodeId) (text : String) :
    OneRoot (d.appendMarkup p text) := by
  unfold Document.appendMarkup
  split
  · next hp => exact h.graftAll hd hp _
  · exact h

/-! ## Copying -/

/-- No leaf but `q` has children. -/
def LeavesBut (d : Document) (q : NodeId) : Prop :=
  ∀ x, d.isLeaf x = true → x ≠ q → d.children x = []

namespace LeavesBut

theorem attach (h : LeavesBut d q) (hd : Forest d) (hp : d.contains p = true)
    (hq : p = q ∨ d.isLeaf p = false) (k : NodeKind) : LeavesBut (d.attach p k) q := by
  intro x hx hne
  rw [hd.children_attach hp]
  by_cases hnew : x = ⟨d.size⟩
  · subst hnew
    rw [if_neg (ne_size_of_contains hp).symm, children_eq_nil not_contains_size]
  · have hold : d.isLeaf x = true := by
      rwa [isLeaf, kind?_attach, if_neg hnew, ← isLeaf] at hx
    have hxp : x ≠ p := by
      rintro rfl
      rcases hq with hq | hq
      · exact hne hq
      · rw [hold] at hq
        cases hq
    rw [if_neg hxp]
    exact h x hold hne

theorem join (h : LeavesBut d q) {last : NodeId} {s t : String}
    (hl : d.kind? last = some (.text t)) :
    LeavesBut (d.modifyNode last ({ · with kind := .text (t ++ s) })) q := by
  intro x hx hne
  rw [isLeaf_join hl] at hx
  rw [children_modifyNode (by intro _; rfl)]
  exact h x hx hne

end LeavesBut

mutual

theorem graft_leavesBut : ∀ (t : Tree) {d : Document} {p : NodeId}, Forest d →
    d.contains p = true → p = q ∨ d.isLeaf p = false → LeavesBut d q → LeavesBut (d.graft p t) q
  | .document children, _, _, hd, hp, hq, h => by
      rw [graft]
      exact graftAll_leavesBut children hd hp hq h
  | .doctype _, _, _, hd, hp, hq, h => by
      rw [graft]
      exact h.attach hd hp hq _
  | .text s, d, p, hd, hp, hq, h => by
      rw [graft]
      rcases appendText_cases d p s with ht | ⟨last, t, -, hl, ht⟩ | ht
      · rwa [ht]
      · rw [ht]
        exact h.join hl
      · rw [ht]
        exact h.attach hd hp hq _
  | .comment _, _, _, hd, hp, hq, h => by
      rw [graft]
      exact h.attach hd hp hq _
  | .instruction _ _, _, _, _, _, _, h => by rwa [graft]
  | .element v name attributes children contents, d, p, hd, hp, hq, h => by
      rw [graft_element]
      have hd₁ : Forest (d.attach p (.element (storedElement name attributes))) := hd.attach p _
      have hnew : (d.attach p (.element (storedElement name attributes))).isLeaf ⟨d.size⟩ =
          false := by
        rw [isLeaf, kind?_attach, if_pos rfl]
        rfl
      have hg := hd₁.grows_graftAll contains_attach_self children
      have h₂ := graftAll_leavesBut children hd₁ contains_attach_self (.inr hnew)
        (h.attach hd hp hq _)
      refine graftAll_leavesBut contents (hg.forest hd₁) (hg.contains contains_attach_self)
        (.inr ?_) h₂
      rw [hg.isLeaf_old contains_attach_self, hnew]

theorem graftAll_leavesBut : ∀ (ts : List Tree) {d : Document} {p : NodeId}, Forest d →
    d.contains p = true → p = q ∨ d.isLeaf p = false → LeavesBut d q →
      LeavesBut (d.graftAll p ts) q
  | [], _, _, _, _, _, h => by rwa [graftAll]
  | t :: rest, d, p, hd, hp, hq, h => by
      rw [graftAll]
      have hg := hd.grows_graft hp t
      refine graftAll_leavesBut rest (hg.forest hd) (hg.contains hp) ?_
        (graft_leavesBut t hd hp hq h)
      rwa [hg.isLeaf_old hp]

end

/-! ## What keeps the roles -/

namespace InRole

theorem leavesBut (h : InRole d) (q : NodeId) : LeavesBut d q := fun x hx _ => h.leaves x hx

theorem create (h : InRole d) (k : NodeKind) : InRole (d.create k).1 where
  top := by rw [parent?_create, h.top]
  leaves x hx := by
    rw [children_create]
    by_cases hnew : x = ⟨d.size⟩
    · subst hnew
      exact children_eq_nil not_contains_size
    · rw [isLeaf, kind?_create_of_ne k hnew, ← isLeaf] at hx
      exact h.leaves x hx

theorem modifyElement (h : InRole d) (id : NodeId) (f : Element → Element) :
    InRole (d.modifyElement id f) where
  top := by rw [parent?_modifyElement, h.top]
  leaves x hx := by
    rw [children_modifyElement]
    exact h.leaves x (by simpa using hx)

theorem remove (h : InRole d) (hd : Forest d) (id : NodeId) : InRole (d.remove id) where
  top := by
    rw [parent?_remove, h.top]
    exact ite_self _
  leaves x hx := by
    rw [hd.children_remove, h.leaves x (by simpa using hx)]
    rfl

theorem removeAll : ∀ (ns : List NodeId) {d : Document}, InRole d → Forest d →
    InRole (ns.foldl Document.remove d)
  | [], _, h, _ => h
  | n :: ns, _, h, hd => removeAll ns (h.remove hd n) (hd.remove n)

end InRole

/-- Moving `c` under `p` is possible, and `c` is the root or `p` is a leaf. -/
def Displaces (d : Document) (p c : NodeId) : Prop :=
  (c = root ∨ d.isLeaf p = true) ∧ d.contains p = true ∧ d.contains c = true ∧ p ≠ c ∧
    ¬ d.Ancestor c p

theorem inRole_appendChild_iff (hd : Forest d) (h : InRole d) (p c : NodeId) :
    InRole (d.appendChild p c) ↔ ¬ d.Displaces p c := by
  rcases appendChild_cases d p c with ⟨heq, hwhy⟩ | ⟨heq, hp, hc, hne, hup⟩
  · rw [heq]
    refine iff_of_true h ?_
    rintro ⟨-, hp, hc, hne, hup⟩
    rcases hwhy with hwhy | hwhy | hwhy | hwhy
    · rw [hp] at hwhy
      cases hwhy
    · rw [hc] at hwhy
      cases hwhy
    · exact hne hwhy
    · exact hup (hd.isAncestor_iff.mp hwhy)
  · have hup' : ¬ d.Ancestor c p := by
      rw [← hd.isAncestor_iff, hup]
      exact Bool.false_ne_true
    have hchildren := hd.children_hang hp (c := c)
    constructor
    · rintro h' ⟨hroot | hleaf, -⟩
      · have htop := h'.top
        rw [heq, parent?_hang hc, if_pos hroot.symm] at htop
        cases htop
      · have hnone := h'.leaves p (by simpa using hleaf)
        rw [heq, hchildren, if_pos rfl] at hnone
        simp at hnone
    · intro hfine
      have hroot : root ≠ c := fun hroot => hfine ⟨.inl hroot.symm, hp, hc, hne, hup'⟩
      refine ⟨?_, fun x hx => ?_⟩
      · rw [heq, parent?_hang hc, if_neg hroot, h.top]
      · have hleaf : d.isLeaf x = true := by simpa using hx
        have hxp : x ≠ p := by
          rintro rfl
          exact hfine ⟨.inr hleaf, hp, hc, hne, hup'⟩
        rw [heq, hchildren, if_neg hxp, h.leaves x hleaf]
        rfl

/-- Copying keeps the roles unless it puts something into a leaf. -/
theorem inRole_graftAll_iff (hd : Forest d) (hr : OneRoot d) (h : InRole d)
    (hp : d.contains p = true) (ts : List Tree) :
    InRole (d.graftAll p ts) ↔ ¬ (d.isLeaf p = true ∧ pasteAll [] ts ≠ []) := by
  have hg := hd.grows_graftAll hp ts
  have hbut := graftAll_leavesBut ts hd hp (.inl rfl) (h.leavesBut p)
  have hshapes := graftAll_shapes ts hd hp
  have htop : (d.graftAll p ts).parent? root = none := by
    rw [hg.parent?_old hd hr.contains_root, h.top]
  have hin : InRole (d.graftAll p ts) ↔
      (d.isLeaf p = true → (d.graftAll p ts).children p = []) := by
    constructor
    · intro h' hleaf
      exact h'.leaves p (by rw [hg.isLeaf_old hp, hleaf])
    · intro hself
      refine ⟨htop, fun x hx => ?_⟩
      by_cases hxp : x = p
      · subst hxp
        exact hself (by rwa [hg.isLeaf_old hp] at hx)
      · exact hbut x hx hxp
  rw [hin, not_and_not_right]
  refine imp_congr_right fun hleaf => ?_
  rw [shapesBelow, shapesBelow, h.leaves p hleaf, List.map_nil] at hshapes
  rw [← hshapes, List.map_eq_nil_iff]

theorem contextOf_leaf (hleaf : d.isLeaf p = true) : d.contextOf p = "body" := by
  rw [isLeaf] at hleaf
  rw [contextOf, element?]
  cases hk : d.kind? p with
  | none => rfl
  | some kind =>
      rw [hk] at hleaf
      cases kind with
      | element e => cases hleaf
      | _ => rfl

theorem inRole_appendMarkup_iff (hd : Forest d) (hr : OneRoot d) (h : InRole d) (p : NodeId)
    (text : String) : InRole (d.appendMarkup p text) ↔
      ¬ (d.isLeaf p = true ∧ pasteAll [] (unwrap (Markup.parseFragment "body" text)) ≠ []) := by
  unfold Document.appendMarkup
  split
  · next hp =>
      rw [appendFragment, inRole_graftAll_iff hd hr h hp]
      refine not_congr (and_congr_right fun hleaf => ?_)
      rw [contextOf_leaf hleaf]
  · next hp => exact iff_of_true h fun ⟨hleaf, _⟩ => hp (contains_of_isLeaf hleaf)

end Inlay.Document
