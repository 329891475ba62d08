/-
# `Inlay.Proofs.Document.Pairing` — pairing nodes from the top

How do the nodes of two documents come to be paired?  Where two nodes have the
same shape, what hangs below them can be paired place by place.  `Seeds O S`
says of which nodes that is to be done:

    O   a core of nodes that are paired already
    S   pairs of nodes of the same shape, the seeds; all that hangs below a seed
        is apart from the core

A core node may have seeds among its children, and a seed hangs under a core
node or nowhere.  `Paired` goes down from the seeds, and with the core it makes
the documents alike (`Seeds.alike`).  The core may be empty, and the only seed
the root; or the core may be what was there before, and a seed the node that was
added last.

That a node is paired only once is where the seeds being apart comes in: a pair
was reached from its parents, unless it is a seed, and the parent of a seed is
never below one.
-/
import Mathlib.Data.List.Zip
import Inlay.Proofs.Document.Alike

namespace Inlay.Document

open List (Forall₂)

variable {O S : NodeId → NodeId → Prop} {d₁ d₂ : Document} {a b p q x y x' y' : NodeId}

/-- Seeds of the same shape, apart from a core of nodes that are paired already. -/
structure Seeds (O S : NodeId → NodeId → Prop) (d₁ d₂ : Document) : Prop where
  forest₁ : Forest d₁
  forest₂ : Forest d₂
  coreOne : OneToOne O
  seedOne : OneToOne S
  contains : ∀ x y, O x y ∨ S x y → d₁.contains x = true ∧ d₂.contains y = true
  parent : ∀ x y, O x y ∨ S x y → Option.Rel O (d₁.parent? x) (d₂.parent? y)
  kind : ∀ x y, O x y → d₁.kind? x = d₂.kind? y
  children : ∀ x y, O x y →
    Forall₂ (fun x y => O x y ∨ S x y) (d₁.children x) (d₂.children y)
  shape : ∀ a b, S a b → d₁.shape a = d₂.shape b
  apart₁ : ∀ a b, S a b → ∀ x, x = a ∨ d₁.Ancestor a x → ∀ y, ¬ O x y
  apart₂ : ∀ a b, S a b → ∀ y, y = b ∨ d₂.Ancestor b y → ∀ x, ¬ O x y

/-- Nodes at the same place below a seed. -/
inductive Paired (S : NodeId → NodeId → Prop) (d₁ d₂ : Document) : NodeId → NodeId → Prop
  | seed {a b : NodeId} : S a b → Paired S d₁ d₂ a b
  | down {p q x y : NodeId} : Paired S d₁ d₂ p q →
      (x, y) ∈ (d₁.children p).zip (d₂.children q) → Paired S d₁ d₂ x y

theorem zip_swap {l₁ l₂ : List NodeId} (h : (x, y) ∈ l₁.zip l₂) : (y, x) ∈ l₂.zip l₁ := by
  rw [← List.zip_swap]
  exact List.mem_map_of_mem h

/-- In two lists without repetition a place is found from either side. -/
theorem zip_unique {l₁ l₂ : List NodeId} (hn : l₁.Nodup) (h : (x, y) ∈ l₁.zip l₂)
    (h' : (x, y') ∈ l₁.zip l₂) : y = y' := by
  induction l₁ generalizing l₂ with
  | nil => cases h
  | cons a l₁ ih =>
      cases l₂ with
      | nil => cases h
      | cons b l₂ =>
          obtain ⟨ha, hn⟩ := List.nodup_cons.mp hn
          rw [List.zip_cons_cons, List.mem_cons, Prod.mk.injEq] at h h'
          rcases h with ⟨rfl, rfl⟩ | h <;> rcases h' with ⟨hx, rfl⟩ | h'
          · rfl
          · exact absurd (List.of_mem_zip h').1 ha
          · exact absurd (hx ▸ (List.of_mem_zip h).1) ha
          · exact ih hn h h'

theorem optionRel_mono {O' : NodeId → NodeId → Prop} (hO : ∀ x y, O x y → O' x y)
    {u v : Option NodeId} (h : Option.Rel O u v) : Option.Rel O' u v := by
  cases h with
  | none => exact .none
  | some h => exact .some (hO _ _ h)

theorem optionRel_flip {u v : Option NodeId} (h : Option.Rel O u v) :
    Option.Rel (flip O) v u := by
  cases h with
  | none => exact .none
  | some h => exact .some h

namespace Paired

theorem flip (h : Paired S d₁ d₂ x y) : Paired (flip S) d₂ d₁ y x := by
  induction h with
  | seed h => exact .seed h
  | down _ hzip ih => exact .down ih (zip_swap hzip)

/-- What is paired is a seed, or hangs below one. -/
theorem under (h : Paired S d₁ d₂ x y) (hd₁ : Forest d₁) (hd₂ : Forest d₂) :
    ∃ a b, S a b ∧ (x = a ∨ d₁.Ancestor a x) ∧ (y = b ∨ d₂.Ancestor b y) := by
  induction h with
  | seed h => exact ⟨_, _, h, .inl rfl, .inl rfl⟩
  | down _ hzip ih =>
      obtain ⟨a, b, hS, hp, hq⟩ := ih
      obtain ⟨hx, hy⟩ := List.of_mem_zip hzip
      have hxp := hd₁.mem_children.mp hx
      have hyq := hd₂.mem_children.mp hy
      refine ⟨a, b, hS, .inr ?_, .inr ?_⟩
      · rcases hp with rfl | hp
        · exact ancestor_parent hxp
        · exact ancestor_above hxp hp
      · rcases hq with rfl | hq
        · exact ancestor_parent hyq
        · exact ancestor_above hyq hq

end Paired

namespace Seeds

theorem flip (h : Seeds O S d₁ d₂) : Seeds (flip O) (flip S) d₂ d₁ where
  forest₁ := h.forest₂
  forest₂ := h.forest₁
  coreOne _ _ _ _ hxy hxy' := (h.coreOne hxy hxy').symm
  seedOne _ _ _ _ hxy hxy' := (h.seedOne hxy hxy').symm
  contains x y hxy := (h.contains y x hxy).symm
  parent x y hxy := optionRel_flip (h.parent y x hxy)
  kind x y hxy := (h.kind y x hxy).symm
  children x y hxy := (h.children y x hxy).flip
  shape a b hS := (h.shape b a hS).symm
  apart₁ a b hS := h.apart₂ b a hS
  apart₂ a b hS := h.apart₁ b a hS

/-- What is paired is no core node. -/
theorem not_core (h : Seeds O S d₁ d₂) (hxy : Paired S d₁ d₂ x y) (y' : NodeId) : ¬ O x y' := by
  obtain ⟨a, b, hS, hx, -⟩ := hxy.under h.forest₁ h.forest₂
  exact h.apart₁ a b hS x hx y'

theorem parent_paired (h : Seeds O S d₁ d₂) (hpq : Paired S d₁ d₂ p q) (hxy : S x y) :
    d₁.parent? x ≠ some p := by
  intro hp
  have hup := h.parent x y (.inr hxy)
  rw [hp] at hup
  generalize d₂.parent? y = u at hup
  cases hup with
  | some hO => exact h.not_core hpq _ hO

theorem unique (h : Seeds O S d₁ d₂) (hxy : Paired S d₁ d₂ x y) (hxy' : Paired S d₁ d₂ x y') :
    y = y' := by
  induction hxy generalizing y' with
  | @seed a b hS =>
      generalize hx : a = x at hxy'
      cases hxy' with
      | seed hS' => exact (h.seedOne hS hS').mp hx
      | down hpq hzip =>
          subst hx
          have hp := h.forest₁.mem_children.mp (List.of_mem_zip hzip).1
          exact absurd hp (h.parent_paired hpq hS)
  | @down p q x y hpq hzip ih =>
      have hp := h.forest₁.mem_children.mp (List.of_mem_zip hzip).1
      cases hxy' with
      | seed hS => exact absurd hp (h.parent_paired hpq hS)
      | @down p' q' _ _ hpq' hzip' =>
          have hp' := h.forest₁.mem_children.mp (List.of_mem_zip hzip').1
          rw [hp] at hp'
          cases hp'
          cases ih hpq'
          exact zip_unique (h.forest₁.nodup_children p) hzip hzip'

/-- What is paired has one shape, and its children are paired. -/
theorem shape_paired (h : Seeds O S d₁ d₂) (hxy : Paired S d₁ d₂ x y) :
    d₁.kind? x = d₂.kind? y ∧ Forall₂ (Paired S d₁ d₂) (d₁.children x) (d₂.children y) := by
  have hsplit : ∀ x y, d₁.shape x = d₂.shape y → d₁.kind? x = d₂.kind? y ∧
      Forall₂ (fun a b => d₁.shape a = d₂.shape b) (d₁.children x) (d₂.children y) := by
    intro x y hshape
    rw [h.forest₁.shape_eq, h.forest₂.shape_eq, Shape.node.injEq, map_eq_map_iff_forall₂] at hshape
    exact hshape
  have hshape : d₁.shape x = d₂.shape y := by
    induction hxy with
    | seed hS => exact h.shape _ _ hS
    | down _ hzip ih => exact List.forall₂_zip (hsplit _ _ ih).2 hzip
  obtain ⟨hkind, hchildren⟩ := hsplit x y hshape
  exact ⟨hkind, List.forall₂_iff_zip.mpr ⟨hchildren.length_eq, fun hzip => .down hxy hzip⟩⟩

/-- The core, and what hangs at the same place below a seed. -/
theorem alike (h : Seeds O S d₁ d₂) :
    Alike (fun x y => O x y ∨ Paired S d₁ d₂ x y) d₁ d₂ where
  forest₁ := h.forest₁
  forest₂ := h.forest₂
  one x y x' y' hxy hxy' := by
    rcases hxy with hxy | hxy <;> rcases hxy' with hxy' | hxy'
    · exact h.coreOne hxy hxy'
    · refine iff_of_false ?_ ?_
      · rintro rfl
        exact h.not_core hxy' y hxy
      · rintro rfl
        exact h.flip.not_core hxy'.flip x hxy
    · refine iff_of_false ?_ ?_
      · rintro rfl
        exact h.not_core hxy y' hxy'
      · rintro rfl
        exact h.flip.not_core hxy.flip x' hxy'
    · constructor
      · rintro rfl
        exact h.unique hxy hxy'
      · rintro rfl
        exact h.flip.unique hxy.flip hxy'.flip
  contains x y hxy := by
    rcases hxy with hxy | hxy
    · exact h.contains x y (.inl hxy)
    · cases hxy with
      | seed hS => exact h.contains x y (.inr hS)
      | down _ hzip =>
          obtain ⟨hx, hy⟩ := List.of_mem_zip hzip
          exact ⟨h.forest₁.contains_child hx, h.forest₂.contains_child hy⟩
  mirrors x y hxy := by
    rcases hxy with hxy | hxy
    · exact ⟨h.kind x y hxy, (h.children x y hxy).imp fun _ _ hab => hab.imp_right .seed⟩
    · obtain ⟨hkind, hchildren⟩ := h.shape_paired hxy
      exact ⟨hkind, hchildren.imp fun _ _ hab => .inr hab⟩
  parent x y hxy := by
    rcases hxy with hxy | hxy
    · exact optionRel_mono (fun _ _ hO => .inl hO) (h.parent x y (.inl hxy))
    · cases hxy with
      | seed hS => exact optionRel_mono (fun _ _ hO => .inl hO) (h.parent x y (.inr hS))
      | down hpq hzip =>
          obtain ⟨hx, hy⟩ := List.of_mem_zip hzip
          rw [h.forest₁.mem_children.mp hx, h.forest₂.mem_children.mp hy]
          exact .some (.inr hpq)

end Seeds

/-- Documents with the same tree below parentless roots are alike, whatever they keep besides. -/
theorem alike_of_root_shape (hd₁ : Forest d₁) (hd₂ : Forest d₂) (hc₁ : d₁.contains root = true)
    (hc₂ : d₂.contains root = true) (hp₁ : d₁.parent? root = none) (hp₂ : d₂.parent? root = none)
    (hs : d₁.shape root = d₂.shape root) : ∃ R, Alike R d₁ d₂ ∧ R root root := by
  have hseeds : Seeds (fun _ _ => False) (fun a b => a = root ∧ b = root) d₁ d₂ := by
    refine ⟨hd₁, hd₂, fun _ _ _ _ h => h.elim, ?_, ?_, ?_, fun _ _ h => h.elim,
      fun _ _ h => h.elim, ?_, fun _ _ _ _ _ _ h => h, fun _ _ _ _ _ _ h => h⟩
    · rintro x y x' y' ⟨rfl, rfl⟩ ⟨rfl, rfl⟩
      exact iff_of_true rfl rfl
    · rintro x y (h | ⟨rfl, rfl⟩)
      · exact h.elim
      · exact ⟨hc₁, hc₂⟩
    · rintro x y (h | ⟨rfl, rfl⟩)
      · exact h.elim
      · rw [hp₁, hp₂]
        exact .none
    · rintro a b ⟨rfl, rfl⟩
      exact hs
  exact ⟨_, hseeds.alike, .inr (.seed ⟨rfl, rfl⟩)⟩

end Inlay.Document
