/-
# `Inlay.Proofs.Document.Alike` — two documents that differ in names only

Two documents may have the same tree under different identifiers, and each of
them may keep nodes that have nothing to do with that tree.  A relation `R`
between their nodes says which node stands for which.

    OneToOne R        a node is paired with one node at the most, either way
    Mirrors R d₁ d₂   paired nodes have one kind, and their children are paired
    Alike R d₁ d₂     all this, in two forests, and the parents are paired too

Downwards `Mirrors` is enough: what is listed below paired nodes is paired, and
so are the rendered nodes there.  Upwards it takes the parents: then the ways up
are paired (`Alike.ancestors`), and a selector matches both of two paired nodes
or neither (`Alike.matchesNode`).  So nothing that is read at paired nodes can
tell the documents apart, and taking paired nodes away keeps it so.
-/
import Inlay.Dispatch.Rendered
import Inlay.Proofs.Document.Shape
import Inlay.Selector.Reader

namespace Inlay.Document

open List (Forall₂)

variable {R : NodeId → NodeId → Prop} {d₁ d₂ : Document} {x y : NodeId} {ns₁ ns₂ : List NodeId}

/-- `R` pairs a node with one node at the most, either way. -/
def OneToOne (R : NodeId → NodeId → Prop) : Prop :=
  ∀ ⦃x y x' y' : NodeId⦄, R x y → R x' y' → (x = x' ↔ y = y')

theorem OneToOne.mem_iff (hR : OneToOne R) (h : Forall₂ R ns₁ ns₂) (hxy : R x y) :
    x ∈ ns₁ ↔ y ∈ ns₂ := by
  induction h with
  | nil => exact iff_of_false List.not_mem_nil List.not_mem_nil
  | cons hab _ ih => rw [List.mem_cons, List.mem_cons, hR hxy hab, ih]

/-- Tests that agree on paired nodes keep lists paired. -/
theorem forall₂_filter {p q : NodeId → Bool} (hpq : ∀ x y, R x y → p x = q y)
    (h : Forall₂ R ns₁ ns₂) : Forall₂ R (ns₁.filter p) (ns₂.filter q) := by
  refine List.rel_filter (fun x y hxy => ?_) h
  show p x = true ↔ q y = true
  rw [hpq x y hxy]

theorem any_eq_any {p q : NodeId → Bool} (hpq : ∀ x y, R x y → p x = q y)
    (h : Forall₂ R ns₁ ns₂) : ns₁.any p = ns₂.any q := by
  induction h with
  | nil => rfl
  | cons hab _ ih => rw [List.any_cons, List.any_cons, hpq _ _ hab, ih]

theorem isEmpty_eq (h : Forall₂ R ns₁ ns₂) : ns₁.isEmpty = ns₂.isEmpty := by
  cases h <;> rfl

theorem head?_rel (h : Forall₂ R ns₁ ns₂) : Option.Rel R ns₁.head? ns₂.head? := by
  cases h with
  | nil => exact .none
  | cons hab _ => exact .some hab

/-! ## Downwards -/

namespace Mirrors

theorem visits (hm : Mirrors R d₁ d₂) {s₁ out₁ : List NodeId} (h : d₁.Visits s₁ out₁) :
    ∀ {s₂ : List NodeId}, Forall₂ R s₁ s₂ → ∃ out₂, d₂.Visits s₂ out₂ ∧ Forall₂ R out₁ out₂ := by
  induction h with
  | done =>
      intro s₂ hs
      cases hs
      exact ⟨[], .done, .nil⟩
  | next _ ih =>
      intro s₂ hs
      cases hs with
      | cons hid hrest =>
          obtain ⟨out₂, hv, hout⟩ := ih (List.rel_append (hm _ _ hid).2 hrest)
          exact ⟨_, .next hv, .cons hid hout⟩

theorem descendants (hm : Mirrors R d₁ d₂) (hd₁ : Forest d₁) (hd₂ : Forest d₂) (h : R x y) :
    Forall₂ R (d₁.descendants x) (d₂.descendants y) := by
  obtain ⟨out₂, hv, hout⟩ := hm.visits (hd₁.visits_descendants x) (hm x y h).2
  rwa [hd₂.descendants_eq_of_visits hv]

theorem element? (hm : Mirrors R d₁ d₂) (h : R x y) : d₁.element? x = d₂.element? y := by
  rw [Document.element?, (hm x y h).1, Document.element?]

theorem marker? (hm : Mirrors R d₁ d₂) (h : R x y) : d₁.marker? x = d₂.marker? y := by
  rw [Document.marker?, hm.element? h, Document.marker?]

theorem renderedNodes (hm : Mirrors R d₁ d₂) (hd₁ : Forest d₁) (hd₂ : Forest d₂) (h : R x y)
    (key : Option String) : Forall₂ R (d₁.renderedNodes x key) (d₂.renderedNodes y key) :=
  forall₂_filter (fun _ _ hab => by rw [hm.marker? hab]) (hm.descendants hd₁ hd₂ h)

theorem removeAll (hm : Mirrors R d₁ d₂) (hR : OneToOne R) (hd₁ : Forest d₁) (hd₂ : Forest d₂)
    (hns : Forall₂ R ns₁ ns₂) : Mirrors R (ns₁.foldl remove d₁) (ns₂.foldl remove d₂) := by
  intro x y h
  obtain ⟨hkind, hchildren⟩ := hm x y h
  refine ⟨by rw [kind?_removeAll, kind?_removeAll, hkind], ?_⟩
  rw [Forest.children_removeAll ns₁ hd₁, Forest.children_removeAll ns₂ hd₂]
  exact forall₂_filter (fun a b hab => by simp only [hR.mem_iff hns hab]) hchildren

end Mirrors

/-! ## Up and down -/

/-- `R` pairs nodes of two forests that look the same, upwards and downwards. -/
structure Alike (R : NodeId → NodeId → Prop) (d₁ d₂ : Document) : Prop where
  forest₁ : Forest d₁
  forest₂ : Forest d₂
  one : OneToOne R
  contains : ∀ x y, R x y → d₁.contains x = true ∧ d₂.contains y = true
  mirrors : Mirrors R d₁ d₂
  parent : ∀ x y, R x y → Option.Rel R (d₁.parent? x) (d₂.parent? y)

namespace Alike

theorem shape_eq (h : Alike R d₁ d₂) (hxy : R x y) : d₁.shape x = d₂.shape y :=
  h.mirrors.shape_eq h.forest₁ h.forest₂ hxy

theorem outer_eq (h : Alike R d₁ d₂) (hxy : R x y) : d₁.outer x = d₂.outer y := by
  rw [Document.outer_eq, h.shape_eq hxy, Document.outer_eq]

theorem inner_eq (h : Alike R d₁ d₂) (hxy : R x y) : d₁.inner x = d₂.inner y := by
  have hchildren := map_eq_map_of_forall₂ (h.mirrors x y hxy).2 fun _ _ hab => h.shape_eq hab
  rw [Document.inner_eq, h.mirrors.element? hxy, hchildren, Document.inner_eq]

theorem descendants (h : Alike R d₁ d₂) (hxy : R x y) :
    Forall₂ R (d₁.descendants x) (d₂.descendants y) :=
  h.mirrors.descendants h.forest₁ h.forest₂ hxy

theorem renderedNodes (h : Alike R d₁ d₂) (hxy : R x y) (key : Option String) :
    Forall₂ R (d₁.renderedNodes x key) (d₂.renderedNodes y key) :=
  h.mirrors.renderedNodes h.forest₁ h.forest₂ hxy key

theorem climbs (h : Alike R d₁ d₂) {l₁ : List NodeId} (hx : d₁.Climbs x l₁) :
    ∀ {y : NodeId}, R x y → ∃ l₂, d₂.Climbs y l₂ ∧ Forall₂ R l₁ l₂ := by
  induction hx with
  | top hp =>
      intro y hxy
      have hup := h.parent _ y hxy
      rw [hp] at hup
      generalize hq : d₂.parent? y = q at hup
      cases hup
      exact ⟨[], .top hq, .nil⟩
  | up hp _ ih =>
      intro y hxy
      have hup := h.parent _ y hxy
      rw [hp] at hup
      generalize hq : d₂.parent? y = q at hup
      cases hup with
      | some hpq =>
          obtain ⟨l₂, hl, hall⟩ := ih hpq
          exact ⟨_, .up hq hl, .cons hpq hall⟩

theorem ancestors (h : Alike R d₁ d₂) (hxy : R x y) :
    Forall₂ R (d₁.ancestors x) (d₂.ancestors y) := by
  obtain ⟨l₂, hl, hall⟩ := h.climbs (h.forest₁.climbs_ancestors x) hxy
  rwa [(h.forest₂.climbs_ancestors y).unique hl]

/-! ## Selectors -/

theorem compound (h : Alike R d₁ d₂) (hxy : R x y) (c : Compound) :
    c.matchesNode d₁ x = c.matchesNode d₂ y := by
  rw [Compound.matchesNode, h.mirrors.element? hxy, Compound.matchesNode]

/-- A row of compounds leads up from both of two paired nodes or from neither. -/
theorem row (h : Alike R d₁ d₂) : ∀ (above : List (Combinator × Compound)) {x y : NodeId}, R x y →
    Complex.climbs d₁ above x = Complex.climbs d₂ above y
  | [], _, _, _ => by rw [Complex.climbs, Complex.climbs]
  | (.child, c) :: rest, x, y, hxy => by
      rw [Complex.climbs, Complex.climbs]
      have hup := h.parent x y hxy
      generalize d₁.parent? x = p at hup
      generalize d₂.parent? y = q at hup
      cases hup with
      | none => rfl
      | some hpq =>
          simp only
          rw [h.compound hpq, h.row rest hpq]
  | (.descendant, c) :: rest, x, y, hxy => by
      rw [Complex.climbs, Complex.climbs]
      exact any_eq_any (fun p q hpq => by rw [h.compound hpq, h.row rest hpq]) (h.ancestors hxy)

theorem matchesNode (h : Alike R d₁ d₂) (hxy : R x y) (s : Selector) :
    s.matchesNode d₁ x = s.matchesNode d₂ y := by
  have hone : ∀ c : Complex, c.matchesNode d₁ x = c.matchesNode d₂ y := by
    intro c
    rw [Complex.matchesNode, Complex.matchesNode]
    simp only
    rw [h.compound hxy, h.row _ hxy]
  unfold Selector.matchesNode
  simp only [hone]

theorem find (h : Alike R d₁ d₂) (hxy : R x y) (selector : String) :
    Forall₂ R (d₁.find x selector).nodes (d₂.find y selector).nodes := by
  unfold Document.find
  cases Selector.read selector with
  | error _ => exact .nil
  | ok s => exact forall₂_filter (fun _ _ hab => h.matchesNode hab s) (h.descendants hxy)

/-! ## Taking nodes away -/

theorem removeAll (h : Alike R d₁ d₂) (hns : Forall₂ R ns₁ ns₂) :
    Alike R (ns₁.foldl remove d₁) (ns₂.foldl remove d₂) where
  forest₁ := h.forest₁.removeAll ns₁
  forest₂ := h.forest₂.removeAll ns₂
  one := h.one
  contains x y hxy := by
    rw [contains_removeAll, contains_removeAll]
    exact h.contains x y hxy
  mirrors := h.mirrors.removeAll h.one h.forest₁ h.forest₂ hns
  parent x y hxy := by
    rw [parent?_removeAll, parent?_removeAll]
    simp only [h.one.mem_iff hns hxy]
    split
    · exact .none
    · exact h.parent x y hxy

end Alike

end Inlay.Document
