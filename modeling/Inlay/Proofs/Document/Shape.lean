/-
# `Inlay.Proofs.Document.Shape` — what hangs below a node, without names

The shape of a node is its kind and the shapes of its children, in order.  It
says all that can be read below a node but which place of the store each node
has, so it is what two documents can have in common.  A node has a smaller shape
than the nodes above it (`sizeOf_shape_below`).

    shape id              the kind of id, over the shapes of its children   (`shape_eq`)
    outer id              the shape of id, written                          (`outer_eq`)
    inner id              the shapes below id, written                      (`inner_eq`)

The library counts its steps down a tree, and so does `shapeTo`.  In a forest
the count is never used up: a node has as many levels below it as nodes are
left when those above it are taken off (`room`), and a parent has one more than
its child.

Two documents whose nodes are paired, kind with the same kind and children with
paired children, have the same shapes at paired nodes (`Mirrors.shape_eq`).  A
change of a document that keeps what is below a node is the case where every
node is paired with itself (`shape_congr`).
-/
import Inlay.Document.Writer
import Inlay.Proofs.Document.Preorder

namespace Inlay

/-- A tree of kinds; where an identifier names no node there is no kind. -/
inductive Shape
  | node (kind : Option NodeKind) (below : List Shape)

namespace Document

variable {d d' d₁ d₂ : Document} {id x y p c : NodeId} {parent : Option String} {hidden : Bool}

/-- The shape of a node, `n` levels deep. -/
def shapeTo (d : Document) : Nat → NodeId → Shape
  | 0, id => .node (d.kind? id) []
  | n + 1, id => .node (d.kind? id) ((d.children id).map (d.shapeTo n))

/-- The shape of a node. -/
def shape (d : Document) (id : NodeId) : Shape := d.shapeTo d.size id

/-! ## Levels -/

theorem Climbs.unique {l l' : List NodeId} (h : d.Climbs id l) (h' : d.Climbs id l') : l = l' := by
  induction h generalizing l' with
  | top hp =>
      cases h' with
      | top => rfl
      | up hp' => rw [hp] at hp'; cases hp'
  | up hp _ ih =>
      cases h' with
      | top hp' => rw [hp] at hp'; cases hp'
      | up hp' h' =>
          rw [hp] at hp'
          cases hp'
          rw [ih h']

/-- The nodes that are left when those above a node are taken off. -/
def room (d : Document) (id : NodeId) : Nat := d.size - (d.ancestors id).length

namespace Forest

theorem ancestors_eq (hd : Forest d) (h : d.parent? c = some p) :
    d.ancestors c = p :: d.ancestors p :=
  (hd.climbs_ancestors c).unique (.up h (hd.climbs_ancestors p))

theorem room_pos (hd : Forest d) (h : d.contains id = true) : 0 < d.room id := by
  have hle : (id :: d.ancestors id).length ≤ d.size := by
    refine length_le_size (hd.nodup_climb d.size id) fun x hx => ?_
    rcases List.mem_cons.mp hx with rfl | hx
    · exact h
    · exact hd.contains_ancestor (hd.mem_ancestors.mp hx)
  rw [List.length_cons] at hle
  exact Nat.sub_pos_of_lt hle

/-- A parent has one more level below it than its child. -/
theorem room_child (hd : Forest d) (h : c ∈ d.children p) : d.room p = d.room c + 1 := by
  have hp := hd.mem_children.mp h
  have hpos := hd.room_pos (hd.contains_child h)
  simp only [room, hd.ancestors_eq hp, List.length_cons] at hpos ⊢
  omega

/-- With room enough, one level more shows nothing more. -/
theorem shapeTo_enough (hd : Forest d) : ∀ {n : Nat} {id : NodeId}, d.room id ≤ n →
    d.shapeTo n id = d.shapeTo (n + 1) id
  | 0, id, h => by
      have hid : d.contains id = false := by
        by_contra hc
        exact absurd (hd.room_pos (by simpa using hc)) (Nat.not_lt_of_le h)
      rw [shapeTo, shapeTo, children_eq_nil hid]
      rfl
  | n + 1, id, h => by
      rw [shapeTo, shapeTo]
      refine congrArg _ (List.map_congr_left fun c hc => hd.shapeTo_enough ?_)
      rw [hd.room_child hc] at h
      exact Nat.le_of_succ_le_succ h

/-- A shape is a kind over the shapes of the children. -/
theorem shape_eq (hd : Forest d) (id : NodeId) :
    d.shape id = .node (d.kind? id) ((d.children id).map d.shape) :=
  hd.shapeTo_enough (Nat.sub_le _ _)

theorem shapeTo_eq_shape (hd : Forest d) {n : Nat} (h : d.size ≤ n) (id : NodeId) :
    d.shapeTo n id = d.shape id := by
  induction h with
  | refl => rfl
  | step h ih => rw [← hd.shapeTo_enough (Nat.le_trans (Nat.sub_le _ _) h), ih]

/-- The shape of a child is a part of the shape of its parent. -/
theorem sizeOf_shape_child (hd : Forest d) (h : d.parent? c = some p) :
    sizeOf (d.shape c) < sizeOf (d.shape p) := by
  have hmem : d.shape c ∈ (d.children p).map d.shape := List.mem_map_of_mem (hd.mem_children.mpr h)
  have hlt := List.sizeOf_lt_of_mem hmem
  rw [hd.shape_eq p, Shape.node.sizeOf_spec]
  omega

theorem sizeOf_shape_below (hd : Forest d) (h : d.Ancestor p c) :
    sizeOf (d.shape c) < sizeOf (d.shape p) := by
  induction h with
  | single h => exact hd.sizeOf_shape_child h
  | tail _ h ih => exact Nat.lt_trans (hd.sizeOf_shape_child h) ih

end Forest

/-! ## Paired nodes -/

/-- `R` pairs nodes of the same kind, and pairs their children in order. -/
def Mirrors (R : NodeId → NodeId → Prop) (d₁ d₂ : Document) : Prop :=
  ∀ x y, R x y → d₁.kind? x = d₂.kind? y ∧ List.Forall₂ R (d₁.children x) (d₂.children y)

theorem map_eq_map_iff_forall₂ {α β γ : Type} {f : α → γ} {g : β → γ} {l₁ : List α}
    {l₂ : List β} : l₁.map f = l₂.map g ↔ List.Forall₂ (fun x y => f x = g y) l₁ l₂ := by
  rw [← List.forall₂_eq_eq_eq, List.forall₂_map_left_iff, List.forall₂_map_right_iff]

theorem map_eq_map_of_forall₂ {α β γ : Type} {R : α → β → Prop} {f : α → γ} {g : β → γ}
    {l₁ : List α} {l₂ : List β} (h : List.Forall₂ R l₁ l₂) (hfg : ∀ x y, R x y → f x = g y) :
    l₁.map f = l₂.map g :=
  map_eq_map_iff_forall₂.mpr (h.imp hfg)

namespace Mirrors

variable {R : NodeId → NodeId → Prop}

theorem shapeTo_eq (hR : Mirrors R d₁ d₂) : ∀ {n : Nat} {x y : NodeId}, R x y →
    d₁.shapeTo n x = d₂.shapeTo n y
  | 0, x, y, h => by rw [shapeTo, shapeTo, (hR x y h).1]
  | n + 1, x, y, h => by
      obtain ⟨hkind, hchildren⟩ := hR x y h
      rw [shapeTo, shapeTo, hkind, map_eq_map_of_forall₂ hchildren fun _ _ h => hR.shapeTo_eq h]

theorem shape_eq (hR : Mirrors R d₁ d₂) (hd₁ : Forest d₁) (hd₂ : Forest d₂) (h : R x y) :
    d₁.shape x = d₂.shape y := by
  rw [← hd₁.shapeTo_eq_shape (Nat.le_max_left d₁.size d₂.size) x,
    ← hd₂.shapeTo_eq_shape (Nat.le_max_right d₁.size d₂.size) y]
  exact hR.shapeTo_eq h

end Mirrors

/-- A change that keeps kind and children of a node, and of all nodes below it, pairs these nodes
with themselves. -/
theorem mirrors_below (hd : Forest d)
    (h : ∀ x, x = id ∨ d.Ancestor id x → d'.kind? x = d.kind? x ∧ d'.children x = d.children x) :
    Mirrors (fun x y => x = y ∧ (y = id ∨ d.Ancestor id y)) d' d := by
  rintro x _ ⟨rfl, hx⟩
  obtain ⟨hkind, hchildren⟩ := h x hx
  refine ⟨hkind, ?_⟩
  rw [hchildren, List.forall₂_same]
  intro c hc
  have hp := hd.mem_children.mp hc
  refine ⟨rfl, .inr ?_⟩
  rcases hx with rfl | hx
  · exact ancestor_parent hp
  · exact ancestor_above hp hx

/-- Such a change keeps the shape of the node. -/
theorem shape_congr (hd : Forest d) (hd' : Forest d')
    (h : ∀ x, x = id ∨ d.Ancestor id x → d'.kind? x = d.kind? x ∧ d'.children x = d.children x) :
    d'.shape id = d.shape id :=
  (mirrors_below hd h).shape_eq hd' hd ⟨rfl, .inl rfl⟩

/-- A node that hung nowhere keeps its shape when it is hung. -/
theorem Forest.shape_hang (hd : Forest d) (hp : d.contains p = true) (hc : d.contains c = true)
    (hfree : d.parent? c = none) (hne : p ≠ c) (hup : ¬ d.Ancestor c p) :
    (d.hang p c).shape c = d.shape c := by
  refine shape_congr hd (hd.hang hp hc hne hup) fun x hx => ⟨kind?_hang, ?_⟩
  have hxp : x ≠ p := by
    rintro rfl
    exact hx.elim hne hup
  rw [hd.children_hang hp, if_neg hxp]
  refine List.filter_eq_self.mpr fun y hy => ?_
  have : y ≠ c := by
    rintro rfl
    rw [hd.mem_children, hfree] at hy
    cases hy
  simpa using this

end Document

/-! ## Writing -/

namespace Shape

open Document

mutual

/-- Write a shape under a parent of the given name; `hidden` says that the parent is a void
element. -/
def written (parent : Option String) (hidden : Bool) : Shape → String
  | .node none _ => ""
  | .node (some .root) below => writtenAll parent hidden below
  | .node (some (.text s)) _ => writeText parent s
  | .node (some (.comment s)) _ => "<!--" ++ s ++ "-->"
  | .node (some (.doctype name)) _ => "<!DOCTYPE " ++ name ++ ">"
  | .node (some (.element e)) below =>
    let bare := hidden || isVoid e.name
    let content := writtenAll (some e.name) bare below
    if hidden then content
    else
      let start := "<" ++ e.name ++ writeAttributes e.attributes ++ ">"
      if bare then start ++ content else start ++ content ++ "</" ++ e.name ++ ">"

/-- Write shapes, one behind the other. -/
def writtenAll (parent : Option String) (hidden : Bool) : List Shape → String
  | [] => ""
  | s :: rest => written parent hidden s ++ writtenAll parent hidden rest

end

theorem writtenAll_eq_join (parent : Option String) (hidden : Bool) : ∀ ss : List Shape,
    writtenAll parent hidden ss = String.join (ss.map (written parent hidden))
  | [] => rfl
  | s :: rest => by
      rw [writtenAll, writtenAll_eq_join parent hidden rest, List.map_cons, String.join_cons]

theorem writtenAll_append (parent : Option String) (hidden : Bool) : ∀ ss ts : List Shape,
    writtenAll parent hidden (ss ++ ts) =
      writtenAll parent hidden ss ++ writtenAll parent hidden ts
  | [], ts => by rw [List.nil_append, writtenAll, String.empty_append]
  | s :: ss, ts => by
      rw [List.cons_append, writtenAll, writtenAll, writtenAll_append parent hidden ss ts,
        String.append_assoc]

end Shape

namespace Document

open Shape

variable {d : Document}

/-- The bounded writer writes the bounded shape. -/
theorem writeNode_eq (d : Document) : ∀ (n : Nat) (parent : Option String) (hidden : Bool)
    (id : NodeId), d.writeNode (n + 1) parent hidden id = (d.shapeTo n id).written parent hidden
  | 0, parent, hidden, id => by
      have hnone : ∀ (parent : Option String) (hidden : Bool),
          String.join ((d.children id).map (d.writeNode 0 parent hidden)) = "" := by
        intro parent hidden
        induction d.children id with
        | nil => rfl
        | cons c cs ih => rw [List.map_cons, String.join_cons, ih]; rfl
      rw [writeNode, shapeTo]
      cases d.kind? id with
      | none => rw [written]
      | some kind => cases kind <;> simp only [hnone, written, writtenAll]
  | n + 1, parent, hidden, id => by
      have hall : ∀ (parent : Option String) (hidden : Bool),
          String.join ((d.children id).map (d.writeNode (n + 1) parent hidden)) =
            writtenAll parent hidden ((d.children id).map (d.shapeTo n)) := by
        intro parent hidden
        rw [writtenAll_eq_join, List.map_map]
        congr 1
        exact List.map_congr_left fun c _ => d.writeNode_eq n parent hidden c
      rw [writeNode, shapeTo]
      cases d.kind? id with
      | none => rw [written]
      | some kind => cases kind <;> simp only [hall, written]

/-- A node with its own tag is its shape, written. -/
theorem outer_eq (d : Document) (id : NodeId) : d.outer id = (d.shape id).written none false :=
  d.writeNode_eq d.size none false id

/-- What is in a node is the shapes of its children, written. -/
theorem inner_eq (d : Document) (id : NodeId) :
    d.inner id =
      writtenAll ((d.element? id).map (·.name)) false ((d.children id).map d.shape) := by
  rw [inner, writtenAll_eq_join, List.map_map]
  congr 1
  exact List.map_congr_left fun c _ => d.writeNode_eq d.size _ false c

end Document

end Inlay
