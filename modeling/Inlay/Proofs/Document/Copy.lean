/-
# `Inlay.Proofs.Document.Copy` — what copied markup looks like

Copying trees to the end of a node keeps what is in the node and puts the trees
behind it.  `pasteAll ss ts` says what that makes of the shapes `ss` that are
there:

    text          joined to a text that stands last; nothing if empty
    comment       a comment
    doctype       a document type
    instruction   nothing
    document      its children
    element       the stored element, over its children and then its contents

`graftAll_shapes` is the theorem: the shapes below the node afterwards are the
pasted ones.  It is one induction over trees, and the store comes in at three
points only: a new last child (`shapes_attach`), a longer last text
(`shapes_join`), and an element that is filled while everything older than it
stands still.
-/
import Inlay.Proofs.Document.Growth
import Inlay.Proofs.Document.Shape

namespace Inlay

open Document
open Markup (Tree)

namespace Shape

/-- Put text at the end of shapes, joined to a text that stands there already. -/
def addText (ss : List Shape) (s : String) : List Shape :=
  if s.isEmpty then ss
  else
    match ss.getLast? with
    | some (.node (some (.text t)) below) =>
        ss.dropLast ++ [.node (some (.text (t ++ s))) below]
    | _ => ss ++ [.node (some (.text s)) []]

mutual

/-- Put a tree at the end of shapes. -/
def paste (ss : List Shape) : Tree → List Shape
  | .document children => pasteAll ss children
  | .doctype name => ss ++ [.node (some (.doctype name)) []]
  | .text s => addText ss s
  | .comment s => ss ++ [.node (some (.comment s)) []]
  | .instruction _ _ => ss
  | .element _ name attributes children contents =>
      ss ++ [.node (some (.element (storedElement name attributes)))
        (pasteAll (pasteAll [] children) contents)]

/-- Put trees at the end of shapes, in order. -/
def pasteAll (ss : List Shape) : List Tree → List Shape
  | [] => ss
  | t :: rest => pasteAll (paste ss t) rest

end

end Shape

namespace Document

open Shape

variable {d d' : Document} {x p c last : NodeId} {k : NodeKind} {s t : String}

/-- The shapes of what hangs directly below a node. -/
def shapesBelow (d : Document) (p : NodeId) : List Shape := (d.children p).map d.shape

namespace Forest

/-- A node does not see what happens at its parent. -/
theorem shape_child (hd : Forest d) (hd' : Forest d') (hc : c ∈ d.children p)
    (h : ∀ x, d.contains x = true → x ≠ p →
      d'.kind? x = d.kind? x ∧ d'.children x = d.children x) :
    d'.shape c = d.shape c := by
  have hp := hd.mem_children.mp hc
  refine shape_congr hd hd' fun x hx => h x ?_ ?_
  · rcases hx with rfl | hx
    · exact hd.contains_child hc
    · exact contains_of_ancestor hx
  · rintro rfl
    rcases hx with rfl | hx
    · exact hd.acyclic _ (ancestor_parent hp)
    · exact hd.acyclic _ (ancestor_above hp hx)

theorem shapesBelow_attach (hd : Forest d) (hp : d.contains p = true) (k : NodeKind) :
    (d.attach p k).shapesBelow p = d.shapesBelow p ++ [.node (some k) []] := by
  have hd' : Forest (d.attach p k) := hd.attach p k
  have hnew : (d.attach p k).shape ⟨d.size⟩ = .node (some k) [] := by
    rw [hd'.shape_eq, kind?_attach, if_pos rfl, hd.children_attach_self hp]
    rfl
  have hold : (d.children p).map (d.attach p k).shape = (d.children p).map d.shape := by
    refine List.map_congr_left fun c hc => hd.shape_child hd' hc fun x hx hne => ?_
    rw [kind?_attach, if_neg (ne_size_of_contains hx), hd.children_attach hp, if_neg hne]
    exact ⟨rfl, rfl⟩
  rw [shapesBelow, hd.children_attach hp, if_pos rfl, List.map_append, hold, List.map_singleton,
    hnew, shapesBelow]

end Forest

theorem kind?_join_self (hl : d.kind? last = some (.text t)) :
    (d.modifyNode last ({ · with kind := .text (t ++ s) })).kind? last =
      some (.text (t ++ s)) := by
  simp only [kind?, node?_modifyNode, if_true] at hl ⊢
  cases hn : d.node? last with
  | none => rw [hn] at hl; cases hl
  | some n => rfl

theorem Forest.shapesBelow_join (hd : Forest d) {init : List NodeId}
    (hc : d.children p = init ++ [last]) (hl : d.kind? last = some (.text t)) (s : String) :
    (d.modifyNode last ({ · with kind := .text (t ++ s) })).shapesBelow p =
      init.map d.shape ++ [.node (some (.text (t ++ s))) (d.shapesBelow last)] := by
  have hchildren : ∀ x, (d.modifyNode last ({ · with kind := .text (t ++ s) })).children x =
      d.children x := fun x => children_modifyNode (by intro _; rfl)
  have hkind : ∀ x, x ≠ last →
      (d.modifyNode last ({ · with kind := .text (t ++ s) })).kind? x = d.kind? x := by
    intro x hx
    rw [kind?, node?_modifyNode, if_neg hx, kind?]
  have hself := kind?_join_self (s := s) hl
  have hd' : Forest (d.modifyNode last ({ · with kind := .text (t ++ s) })) :=
    hd.congr (fun _ => parent?_modifyNode (by intro _; rfl)) hchildren
  generalize d.modifyNode last ({ · with kind := .text (t ++ s) }) = d' at *
  have hlast : last ∈ d.children p := by rw [hc]; simp
  have hinit : init.map d'.shape = init.map d.shape := by
    refine List.map_congr_left fun c hmem => shape_congr hd hd' fun x hx => ?_
    have hcp : c ∈ d.children p := by rw [hc]; simp [hmem]
    refine ⟨hkind x ?_, hchildren x⟩
    -- Of the children of `p` only `last` is `last` or above it, and `last` stands there once.
    rintro rfl
    rcases hx with rfl | hx
    · have hn := hd.nodup_children p
      rw [hc, List.nodup_append] at hn
      exact hn.2.2 _ hmem _ (List.mem_singleton_self _) rfl
    · obtain ⟨q, hq, ha⟩ := ancestor_iff.mp hx
      rw [hd.mem_children.mp hlast] at hq
      cases hq
      have hlink := hd.mem_children.mp hcp
      rcases ha with rfl | ha
      · exact hd.acyclic _ (ancestor_parent hlink)
      · exact hd.acyclic _ (ancestor_above hlink ha)
  have hbelow : (d.children last).map d'.shape = d.shapesBelow last :=
    List.map_congr_left fun c hmem => hd.shape_child hd' hmem fun x _ hx =>
      ⟨hkind x hx, hchildren x⟩
  rw [shapesBelow, hchildren, hc, List.map_append, hinit, List.map_singleton, hd'.shape_eq, hself,
    hchildren, hbelow]

theorem Forest.appendText_shapes (hd : Forest d) (hp : d.contains p = true) (s : String) :
    (d.appendText p s).shapesBelow p = addText (d.shapesBelow p) s := by
  cases hs : s.isEmpty with
  | true => simp [appendText, addText, hs]
  | false =>
      have hlast : (d.shapesBelow p).getLast? = (d.children p).getLast?.map d.shape := by
        rw [shapesBelow, List.getLast?_map]
      have hattach : ((d.createText s).1.appendChild p (d.createText s).2).shapesBelow p =
          d.shapesBelow p ++ [.node (some (.text s)) []] := hd.shapesBelow_attach hp (.text s)
      simp only [appendText, addText, hs, hp, Bool.not_true, Bool.or_false, Bool.false_eq_true,
        if_false, hlast]
      cases hl : (d.children p).getLast? with
      | none => simpa using hattach
      | some last =>
          obtain ⟨init, hc⟩ := List.getLast?_eq_some_iff.mp hl
          have hshape : d.shape last = .node (d.kind? last) (d.shapesBelow last) :=
            hd.shape_eq last
          simp only [Option.map_some, hshape]
          cases hk : d.kind? last with
          | none => simpa using hattach
          | some kind =>
              cases kind with
              | text t =>
                  have hdrop : (d.shapesBelow p).dropLast = init.map d.shape := by
                    rw [shapesBelow, hc, List.map_append, List.map_singleton,
                      List.dropLast_concat]
                  simp only [hdrop]
                  exact hd.shapesBelow_join hc hk s
              | _ => simpa using hattach

/-- An element that is filled stands behind what was there, over what it is filled with. -/
theorem Forest.shapesBelow_fill (hd : Forest d) (hp : d.contains p = true) {e : Element}
    {P : Element → Prop} (hg : Grows d.size P (d.attach p (.element e)) d') :
    d'.shapesBelow p =
      d.shapesBelow p ++ [.node (some (.element e)) (d'.shapesBelow ⟨d.size⟩)] := by
  have hd₁ : Forest (d.attach p (.element e)) := hd.attach p _
  have hd' : Forest d' := hg.forest hd₁
  have hin : ∀ c q, (d.attach p (.element e)).parent? c = some q → d.size ≤ q.index →
      d.size ≤ c.index := by
    intro c q hq hle
    rw [hd.parent?_attach hp] at hq
    split at hq
    · next hc => exact hc ▸ Nat.le_refl _
    · exact absurd (contains_iff.mp (hd.contains_parent hq)) (Nat.not_lt_of_le hle)
  have hold : ∀ x, d.contains x = true → d'.node? x = (d.attach p (.element e)).node? x :=
    fun x hx => hg.node?_below hd₁ (by simp) hin (contains_iff.mp hx)
  have hchildren : d'.children p = d.children p ++ [⟨d.size⟩] := by
    rw [children_eq, hold p hp, ← children_eq, hd.children_attach hp, if_pos rfl]
  have hkind : d'.kind? ⟨d.size⟩ = some (.element e) := by
    have he : d'.element? ⟨d.size⟩ = some e := by
      rw [hg.element?_old contains_attach_self, element?, kind?_attach, if_pos rfl]
    rw [element?] at he
    split at he
    · next hk => rw [hk, Option.some.inj he]
    · cases he
  have hshapes : (d.children p).map d'.shape = d.shapesBelow p := by
    refine List.map_congr_left fun c hc => hd.shape_child hd' hc fun x hx hne => ?_
    have hnode : d'.node? x = d.node? x :=
      (hold x hx).trans (hd.node?_attach hp (ne_size_of_contains hx) hne)
    rw [kind?, children_eq, hnode, ← children_eq]
    exact ⟨rfl, rfl⟩
  have hself : d'.shape ⟨d.size⟩ = .node (some (.element e)) (d'.shapesBelow ⟨d.size⟩) := by
    rw [hd'.shape_eq, hkind, shapesBelow]
  rw [shapesBelow, hchildren, List.map_append, hshapes, List.map_singleton, hself]

mutual

theorem graft_shapes : ∀ (t : Tree) {d : Document} {p : NodeId}, Forest d →
    d.contains p = true → (d.graft p t).shapesBelow p = paste (d.shapesBelow p) t
  | .document children, _, _, hd, hp => by
      rw [graft, paste]
      exact graftAll_shapes children hd hp
  | .doctype _, _, _, hd, hp => by
      rw [graft, paste]
      exact hd.shapesBelow_attach hp _
  | .text s, _, _, hd, hp => by
      rw [graft, paste]
      exact hd.appendText_shapes hp s
  | .comment _, _, _, hd, hp => by
      rw [graft, paste]
      exact hd.shapesBelow_attach hp _
  | .instruction _ _, _, _, _, _ => by rw [graft, paste]
  | .element v name attributes children contents, d, p, hd, hp => by
      rw [graft_element, paste]
      have hd₁ : Forest (d.attach p (.element (storedElement name attributes))) := hd.attach p _
      have hg₂ := hd₁.grows_graftAll contains_attach_self children
      have hc₂ := hg₂.contains contains_attach_self
      have hg₃ := (hg₂.forest hd₁).grows_graftAll hc₂ contents
      have hnone : (d.attach p (.element (storedElement name attributes))).shapesBelow
          ⟨d.size⟩ = [] := by
        rw [shapesBelow, hd.children_attach_self hp]
        rfl
      rw [hd.shapesBelow_fill hp (hg₂.trans hg₃), graftAll_shapes contents (hg₂.forest hd₁) hc₂,
        graftAll_shapes children hd₁ contains_attach_self, hnone]

theorem graftAll_shapes : ∀ (ts : List Tree) {d : Document} {p : NodeId}, Forest d →
    d.contains p = true → (d.graftAll p ts).shapesBelow p = pasteAll (d.shapesBelow p) ts
  | [], _, _, _, _ => by rw [graftAll, pasteAll]
  | t :: rest, d, p, hd, hp => by
      have hg := hd.grows_graft hp t
      rw [graftAll, pasteAll, ← graft_shapes t hd hp]
      exact graftAll_shapes rest (hg.forest hd) (hg.contains hp)

end

end Document

end Inlay
