/-
# `Inlay.Proofs.Dispatch.Container` — a document with one more container

Where a rendered fragment is added to a node `n` of a document, the document
gets a container: a new node, the last child of `n`, over the fragment.  Here is
all that is to be known of it.

    the nodes that were there   keep kind and parent, and `n` alone gets a child
    the container               hangs under `n`, or nowhere if `n` is no node; its
                                shape is a matter of key and fragment alone
                                                              (`shape_container`)
    below the container         nothing is a node that was there
                                                     (`new_of_below_container`)

So two documents that are alike, and get a container of one key and one fragment
at paired nodes, are alike again (`Alike.appendFragment`): the containers are
seeds over the pairs that were there.
-/
import Inlay.Proofs.Dispatch.Containers
import Inlay.Proofs.Document.Copy
import Inlay.Proofs.Document.Pairing

namespace Inlay

open Document Shape

variable {d d₁ d₂ : Document} {n n₁ n₂ x : NodeId} {R : NodeId → NodeId → Prop}

/-- The shape of a container. -/
def containerShape (key fragment : String) : Shape :=
  .node (some (.element (containerOf key)))
    (pasteAll [] (unwrap (Markup.parseFragment "div" fragment)))

/-- A container is made, filled with the shapes of the fragment, and then hung. -/
theorem appendFragment_planted (hd : Forest d) (n : NodeId) (key fragment : String) :
    ∃ d', Grows d.size (fun _ => True) (d.create (.element (containerOf key))).1 d' ∧
      d'.shapesBelow ⟨d.size⟩ = pasteAll [] (unwrap (Markup.parseFragment "div" fragment)) ∧
      Dispatcher.appendFragment d n key fragment = d'.appendChild n ⟨d.size⟩ := by
  have hcreate := hd.create (.element (containerOf key))
  have hself : (d.create (.element (containerOf key))).1.contains ⟨d.size⟩ = true :=
    contains_create_self _
  have hnone : (d.create (.element (containerOf key))).1.shapesBelow ⟨d.size⟩ = [] := by
    rw [shapesBelow, children_create, children_eq_nil not_contains_size]
    rfl
  have hfill : (d.create (.element (containerOf key))).1.appendMarkup ⟨d.size⟩ fragment =
      (d.create (.element (containerOf key))).1.graftAll ⟨d.size⟩
        (unwrap (Markup.parseFragment "div" fragment)) := by
    rw [appendMarkup, if_pos hself, Document.appendFragment, contextOf_containerOf]
  have hg : Grows d.size (fun _ => True) _ _ :=
    hcreate.grows_appendMarkup ⟨d.size⟩ fragment
  refine ⟨_, hg, ?_, appendFragment_eq d n key fragment⟩
  rw [hfill, graftAll_shapes _ hcreate hself, hnone]

section

variable {key fragment : String} (hd : Forest d)

include hd

theorem size_lt_appendFragment : d.size < (Dispatcher.appendFragment d n key fragment).size := by
  obtain ⟨d', hg, -, h⟩ := appendFragment_planted hd n key fragment
  have hle := hg.size_le
  rw [size_create] at hle
  rwa [h, size_appendChild]

theorem kind?_appendFragment (hx : d.contains x = true) :
    (Dispatcher.appendFragment d n key fragment).kind? x = d.kind? x := by
  obtain ⟨d', hg, -, h⟩ := appendFragment_planted hd n key fragment
  rw [h, kind?_planted hd hg hx]

theorem contains_appendFragment (hx : d.contains x = true) :
    (Dispatcher.appendFragment d n key fragment).contains x = true := by
  obtain ⟨d', hg, -, h⟩ := appendFragment_planted hd n key fragment
  rw [h, contains_appendChild]
  exact hg.contains (contains_create _ hx)

/-- The shape of the container is the same wherever it hangs, and also where it hangs nowhere. -/
theorem shape_container :
    (Dispatcher.appendFragment d n key fragment).shape ⟨d.size⟩ = containerShape key fragment := by
  obtain ⟨d', hg, hshapes, h⟩ := appendFragment_planted hd n key fragment
  have hd' : Forest d' := hg.forest (hd.create _)
  have hself : d'.contains ⟨d.size⟩ = true := hg.contains (contains_create_self _)
  have hkind : d'.kind? ⟨d.size⟩ = some (.element (containerOf key)) := by
    have he := hg.element?_old (contains_create_self (d := d) (.element (containerOf key)))
    rw [element?, element?, kind?_create_self] at he
    split at he
    · next hk => rw [hk, Option.some.inj he]
    · cases he
  have hfilled : d'.shape ⟨d.size⟩ = containerShape key fragment := by
    rw [hd'.shape_eq, hkind, ← shapesBelow, hshapes, containerShape]
  rw [h]
  cases hn : d.contains n with
  | false => rw [appendChild_filled_of_new hd hg hn, hfilled]
  | true =>
      have hup : ¬ d'.Ancestor ⟨d.size⟩ n := by
        intro hup
        have := contains_of_ancestor_old hd (fun _ => parent?_filled hd hg) hup hn
        rw [not_contains_size] at this
        cases this
      rw [appendChild_filled hd hg hn,
        hd'.shape_hang (hg.contains (contains_create _ hn)) hself (parent?_filled_self hd hg)
          (ne_size_of_contains hn) hup, hfilled]

theorem kind?_container :
    (Dispatcher.appendFragment d n key fragment).kind? ⟨d.size⟩ =
      some (.element (containerOf key)) := by
  have hshape : _ = containerShape key fragment := shape_container (n := n) hd
  rw [(hd.appendContainer n key fragment).shape_eq] at hshape
  exact (Shape.node.inj hshape).1

theorem shapesBelow_container :
    (Dispatcher.appendFragment d n key fragment).shapesBelow ⟨d.size⟩ =
      pasteAll [] (unwrap (Markup.parseFragment "div" fragment)) := by
  have hshape : _ = containerShape key fragment := shape_container (n := n) hd
  rw [(hd.appendContainer n key fragment).shape_eq] at hshape
  exact (Shape.node.inj hshape).2

/-- All that is new is the container, or below it. -/
theorem below_container_of_new (hx : d.contains x = false)
    (hx' : (Dispatcher.appendFragment d n key fragment).contains x = true) :
    x = ⟨d.size⟩ ∨ (Dispatcher.appendFragment d n key fragment).Ancestor ⟨d.size⟩ x := by
  obtain ⟨d', hg, -, h⟩ := appendFragment_planted hd n key fragment
  rw [h] at hx' ⊢
  cases hn : d.contains n with
  | true => exact ancestor_of_planted hd hg hn hx hx'
  | false =>
      rw [appendChild_filled_of_new hd hg hn] at hx' ⊢
      exact ancestor_of_filled hd hg hx hx'

variable (hn : d.contains n = true)

include hn

theorem parent?_appendFragment (hx : d.contains x = true) :
    (Dispatcher.appendFragment d n key fragment).parent? x = d.parent? x := by
  obtain ⟨d', hg, -, h⟩ := appendFragment_planted hd n key fragment
  rw [h, parent?_planted hd hg hn hx]

theorem parent?_container :
    (Dispatcher.appendFragment d n key fragment).parent? ⟨d.size⟩ = some n := by
  obtain ⟨d', hg, -, h⟩ := appendFragment_planted hd n key fragment
  rw [h, parent?_planted_self hd hg hn]

theorem contains_container :
    (Dispatcher.appendFragment d n key fragment).contains ⟨d.size⟩ = true :=
  contains_of_parent? (parent?_container hd hn)

theorem children_appendFragment (hx : d.contains x = true) :
    (Dispatcher.appendFragment d n key fragment).children x =
      if x = n then d.children n ++ [⟨d.size⟩] else d.children x := by
  obtain ⟨d', hg, -, h⟩ := appendFragment_planted hd n key fragment
  rw [h, children_planted hd hg hn hx]

/-- The container and what is below it are new. -/
theorem new_of_below_container
    (hx : x = ⟨d.size⟩ ∨ (Dispatcher.appendFragment d n key fragment).Ancestor ⟨d.size⟩ x) :
    d.contains x = false := by
  rcases hx with rfl | hx
  · exact not_contains_size
  · obtain ⟨d', hg, -, h⟩ := appendFragment_planted hd n key fragment
    have hf : Forest (Dispatcher.appendFragment d n key fragment) :=
      hd.appendContainer n key fragment
    rw [h] at hf hx
    exact not_contains_of_mem_planted hd hg hn (hf.mem_descendants.mpr hx)

/-- Among the containers it is listed last, before those in it. -/
theorem containers_appendFragment :
    (Dispatcher.appendFragment d n key fragment).containers n =
      d.containers n ++ (markerOf key, ⟨d.size⟩) ::
        (Dispatcher.appendFragment d n key fragment).containers ⟨d.size⟩ := by
  obtain ⟨d', hg, -, h⟩ := appendFragment_planted hd n key fragment
  rw [h]
  exact containers_planted hd hg hn

end

/-- No document loses its root. -/
theorem Reachable.contains_root (hd : Reachable d) : d.contains root = true := by
  have hnew : Document.new.contains root = true := rfl
  have hgraft : ∀ ts, (Document.new.graftAll root ts).contains root = true := fun ts =>
    (forest_new.grows_graftAll hnew ts).contains hnew
  induction hd with
  | new => exact hnew
  | page text | fragment text => exact hgraft _
  | createElement _ _ ih | createText _ _ ih | createComment _ _ ih | createDoctype _ _ ih =>
      exact contains_create _ ih
  | setAttribute id _ _ _ ih | editElement id _ _ ih => exact (contains_modifyElement _).trans ih
  | appendChild p c _ ih => rwa [contains_appendChild]
  | appendMarkup p text hd ih =>
      exact (hd.forest.grows_appendMarkup _ text).contains ih
  | remove id _ ih => rwa [contains_remove]
  | @call d _ e s c hd ih =>
      rcases c.document_cases e s d with h | ⟨_, n, -, -, ns, -, h | ⟨key, fragment, h⟩⟩
      · rwa [h]
      · rwa [h, contains_removeAll]
      · rw [h]
        exact contains_appendFragment (hd.forest.removeAll ns) ((contains_removeAll ns d).trans ih)

/-! ## Alike again -/

/-- Containers of one key and one fragment, added at paired nodes, are seeds over the pairs. -/
theorem seeds_appendFragment (h : Alike R d₁ d₂) (hn : R n₁ n₂) (key fragment : String) :
    Seeds R (fun a b => a = ⟨d₁.size⟩ ∧ b = ⟨d₂.size⟩)
      (Dispatcher.appendFragment d₁ n₁ key fragment)
      (Dispatcher.appendFragment d₂ n₂ key fragment) := by
  obtain ⟨hd₁, hd₂⟩ := And.intro h.forest₁ h.forest₂
  obtain ⟨hn₁, hn₂⟩ := h.contains n₁ n₂ hn
  refine
    { forest₁ := hd₁.appendContainer _ _ _
      forest₂ := hd₂.appendContainer _ _ _
      coreOne := h.one
      seedOne := ?seedOne
      contains := ?contains
      parent := ?parent
      kind := ?kind
      children := ?children
      shape := ?shape
      apart₁ := ?apart₁
      apart₂ := ?apart₂ }
  case seedOne =>
    rintro x y x' y' ⟨rfl, rfl⟩ ⟨rfl, rfl⟩
    exact iff_of_true rfl rfl
  case contains =>
    rintro x y (hxy | ⟨rfl, rfl⟩)
    · obtain ⟨hx, hy⟩ := h.contains x y hxy
      exact ⟨contains_appendFragment hd₁ hx, contains_appendFragment hd₂ hy⟩
    · exact ⟨contains_container hd₁ hn₁, contains_container hd₂ hn₂⟩
  case parent =>
    rintro x y (hxy | ⟨rfl, rfl⟩)
    · obtain ⟨hx, hy⟩ := h.contains x y hxy
      rw [parent?_appendFragment hd₁ hn₁ hx, parent?_appendFragment hd₂ hn₂ hy]
      exact h.parent x y hxy
    · rw [parent?_container hd₁ hn₁, parent?_container hd₂ hn₂]
      exact .some hn
  case kind =>
    intro x y hxy
    obtain ⟨hx, hy⟩ := h.contains x y hxy
    rw [kind?_appendFragment hd₁ hx, kind?_appendFragment hd₂ hy]
    exact (h.mirrors x y hxy).1
  case children =>
    intro x y hxy
    obtain ⟨hx, hy⟩ := h.contains x y hxy
    rw [children_appendFragment hd₁ hn₁ hx, children_appendFragment hd₂ hn₂ hy]
    have hold : ∀ x y, R x y → List.Forall₂ (fun x y => R x y ∨ x = ⟨d₁.size⟩ ∧ y = ⟨d₂.size⟩)
        (d₁.children x) (d₂.children y) :=
      fun x y hxy => (h.mirrors x y hxy).2.imp fun _ _ hab => .inl hab
    simp only [h.one hxy hn]
    split
    · exact List.rel_append (hold n₁ n₂ hn) (.cons (.inr ⟨rfl, rfl⟩) .nil)
    · exact hold x y hxy
  case shape =>
    rintro a b ⟨rfl, rfl⟩
    rw [shape_container hd₁, shape_container hd₂]
  case apart₁ =>
    rintro a b ⟨rfl, rfl⟩ x hx y hxy
    have hnew := new_of_below_container hd₁ hn₁ hx
    rw [(h.contains x y hxy).1] at hnew
    cases hnew
  case apart₂ =>
    rintro a b ⟨rfl, rfl⟩ y hy x hxy
    have hnew := new_of_below_container hd₂ hn₂ hy
    rw [(h.contains x y hxy).2] at hnew
    cases hnew

/-- Two documents that get such containers stay alike. -/
theorem Document.Alike.appendFragment (h : Alike R d₁ d₂) (hn : R n₁ n₂) (key fragment : String) :
    ∃ R', (∀ x y, R x y → R' x y) ∧
      Alike R' (Dispatcher.appendFragment d₁ n₁ key fragment)
        (Dispatcher.appendFragment d₂ n₂ key fragment) :=
  ⟨_, fun _ _ hxy => .inl hxy, (seeds_appendFragment h hn key fragment).alike⟩

end Inlay
