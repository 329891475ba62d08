/-
# `Inlay.Proofs.Dispatch.Locality` — a call stays below its target

`KeepsAround d n d'` says that on the way from `d` to `d'` nothing happened but
below the node `n`:

    every node of d     keeps its kind, and with it its name and attributes
    n                   keeps its parent
    any other node      that is not below `n` keeps its parent and children too

It is a preorder, since what is not below `n` does not come to be below it.  A
call does two things to a document, and each keeps what is around the first node
of its target: it takes nodes below that node away, and it hangs a new container
under it.  The container is filled before it is hung; till then nothing of it
touches a node that was there.

Where the target is empty, or names no node of the document, nothing that was
there is below it, so nothing changes at all.  And since `KeepsAround` is a
preorder, what holds of a call holds of a run whose calls are all about `n`.
-/
import Inlay.Proofs.Dispatch.Log

namespace Inlay

open Document

variable {τ : Type} {e : Engine τ} {s s' : Dispatcher τ} {d d₁ d₂ : Document} {n x : NodeId}
  {c : Call}

/-- What has the kind of a node is one. -/
theorem contains_of_kind?_eq (h : d₁.kind? x = d.kind? x) (hx : d.contains x = true) :
    d₁.contains x = true := by
  cases hc : d₁.contains x with
  | true => rfl
  | false =>
      rw [kind?, node?_eq_none hc, kind?] at h
      have hnone : d.node? x = none := by simpa using h.symm
      rw [contains_iff] at hx
      simp only [node?, Array.getElem?_eq_none_iff] at hnone
      exact absurd hx (Nat.not_lt_of_le hnone)

/-- Of the nodes of `d`, those that are neither `n` nor below it are the same in `d'`, and `n` and
the nodes below it keep their kinds, `n` also its parent. -/
structure KeepsAround (d : Document) (n : NodeId) (d' : Document) : Prop where
  kind : ∀ x, d.contains x = true → d'.kind? x = d.kind? x
  parent : d.contains n = true → d'.parent? n = d.parent? n
  outside : ∀ x, d.contains x = true → x ≠ n → ¬ d.Ancestor n x → d'.node? x = d.node? x

namespace KeepsAround

theorem refl (d : Document) (n : NodeId) : KeepsAround d n d where
  kind _ _ := rfl
  parent _ := rfl
  outside _ _ _ _ := rfl

theorem contains (h : KeepsAround d n d₁) (hx : d.contains x = true) : d₁.contains x = true :=
  contains_of_kind?_eq (h.kind x hx) hx

/-- What is not below `n` does not come to be below it. -/
theorem not_ancestor (hd : Forest d) (h : KeepsAround d n d₁) (hx : d.contains x = true)
    (hne : x ≠ n) (hout : ¬ d.Ancestor n x) : ¬ d₁.Ancestor n x := by
  intro ha
  induction ha with
  | single hp =>
      rw [parent?, h.outside _ hx hne hout, ← parent?] at hp
      exact hout (ancestor_parent hp)
  | @tail p x _ hp ih =>
      rw [parent?, h.outside _ hx hne hout, ← parent?] at hp
      refine ih (hd.contains_parent hp) ?_ fun ha => hout (ancestor_above hp ha)
      rintro rfl
      exact hout (ancestor_parent hp)

theorem trans (hd : Forest d) (h : KeepsAround d n d₁) (h' : KeepsAround d₁ n d₂) :
    KeepsAround d n d₂ where
  kind x hx := (h'.kind x (h.contains hx)).trans (h.kind x hx)
  parent hn := (h'.parent (h.contains hn)).trans (h.parent hn)
  outside x hx hne hout :=
    (h'.outside x (h.contains hx) hne (h.not_ancestor hd hx hne hout)).trans
      (h.outside x hx hne hout)

end KeepsAround

/-! ## The two things that a call does -/

/-- Taking nodes below `n` away. -/
theorem keepsAround_removeAll (hd : Forest d) {ns : List NodeId} (hns : ns ⊆ d.descendants n) :
    KeepsAround d n (ns.foldl remove d) := by
  have hbelow : ∀ y ∈ ns, d.Ancestor n y := fun y hy => hd.mem_descendants.mp (hns hy)
  have hn : n ∉ ns := fun h => hd.acyclic n (hbelow n h)
  refine ⟨fun x _ => kind?_removeAll ns d, fun _ => ?_, fun x _ hne hout => ?_⟩
  · rw [parent?_removeAll, if_neg hn]
  · have hx : x ∉ ns := fun h => hout (hbelow x h)
    refine node?_congr (kind?_removeAll ns d) (by rw [parent?_removeAll, if_neg hx]) ?_
    rw [Forest.children_removeAll ns hd]
    refine List.filter_eq_self.mpr fun y hy => ?_
    -- A child of `x` that is below `n` would put `x` below `n`, or be a child of `n`.
    have : y ∉ ns := by
      intro h
      obtain ⟨p, hp, ha⟩ := ancestor_iff.mp (hbelow y h)
      rw [hd.mem_children.mp hy] at hp
      cases hp
      exact ha.elim (fun h => hne h.symm) hout
    simpa using this

/-- Hanging a new container under `n`, which need not be a node. -/
theorem keepsAround_appendFragment (hd : Forest d) (n : NodeId) (key fragment : String) :
    KeepsAround d n (Dispatcher.appendFragment d n key fragment) := by
  rw [appendFragment_eq]
  have hg : Grows d.size (fun _ => True) _ _ :=
    (hd.create (.element (containerOf key))).grows_appendMarkup ⟨d.size⟩ fragment
  generalize (d.create (.element (containerOf key))).1.appendMarkup ⟨d.size⟩ fragment = d' at hg
  refine ⟨fun x hx => kind?_planted hd hg hx, fun hn => parent?_planted hd hg hn hn,
    fun x hx hne _ => ?_⟩
  rcases appendChild_cases d' n ⟨d.size⟩ with ⟨h, -⟩ | ⟨h, hn, hnew, -⟩
  · rw [h, node?_filled hd hg hx]
  · rw [h]
    have hfresh : x ≠ ⟨d.size⟩ := ne_size_of_contains hx
    have hnode := node?_filled hd hg hx
    refine node?_congr (by rw [kind?_hang, kind?, hnode, kind?])
      (by rw [parent?_hang hnew, if_neg hfresh, parent?, hnode, parent?]) ?_
    rw [(hg.forest (hd.create _)).children_hang hn, if_neg hne, Document.children, hnode,
      ← Document.children]
    refine List.filter_eq_self.mpr fun y hy => ?_
    simpa using ne_size_of_contains (hd.contains_child hy)

theorem Rearranged.keepsAround (hd : Forest d) (h : Rearranged d n d₁) : KeepsAround d n d₁ := by
  obtain ⟨ns, hns, rfl | ⟨key, fragment, rfl⟩⟩ := h
  · exact keepsAround_removeAll hd hns
  · exact (keepsAround_removeAll hd hns).trans hd
      (keepsAround_appendFragment (hd.removeAll ns) n key fragment)

/-! ## Calls and runs -/

/-- A call keeps what is around the first node of its target, and all there is if it has none. -/
theorem Call.keepsAround (hd : Forest d) (e : Engine τ) (s : Dispatcher τ) (c : Call) :
    (c.answer e s d).document = d ∨ ∃ target n, c.target? = some target ∧
      target.first? = some n ∧ KeepsAround d n (c.answer e s d).document := by
  rcases c.document_cases e s d with h | ⟨target, n, ht, hn, h⟩
  · exact .inl h
  · exact .inr ⟨target, n, ht, hn, h.keepsAround hd⟩

/-- A run whose calls are all about `n` keeps what is around `n`. -/
theorem RunsIn.keepsAround {l : List (Step τ)} (hrun : RunsIn s d l s' d₁) (hd : Forest d)
    (haim : ∀ a ∈ l, a.call.Aims n) : KeepsAround d n d₁ := by
  induction hrun with
  | done => exact .refl _ n
  | @call s s' d d' l e c _ ih =>
      have hcall : KeepsAround d n (c.answer e s d).document := by
        rcases c.keepsAround hd e s with h | ⟨target, m, ht, hm, h⟩
        · rw [h]
          exact .refl d n
        · have hn := haim _ List.mem_cons_self target ht
          rw [hm] at hn
          cases hn
          exact h
      exact hcall.trans hd (ih (Call.forest hd) fun a ha => haim a (List.mem_cons_of_mem _ ha))

/-- Nothing is below what is no node. -/
theorem KeepsAround.node?_of_not_contains (hd : Forest d) (h : KeepsAround d n d₁)
    (hn : d.contains n = false) (hx : d.contains x = true) : d₁.node? x = d.node? x := by
  refine h.outside x hx ?_ fun ha => ?_
  · rintro rfl
    rw [hn] at hx
    cases hx
  · rw [hd.contains_ancestor ha] at hn
    cases hn

/-- Whatever a call is given, every node that was there keeps its kind, with name and attributes.
The first node of the target keeps its parent, and every node that is neither that one nor below it,
be it in the target or not, stays as it is.  If the target has no first node, or one that is no node
of the document, every node stays as it is. -/
theorem call_changes_only_below_target (hd : Reachable d) :
    (∀ x, d.contains x = true → (c.answer e s d).document.kind? x = d.kind? x) ∧
    (∀ target n, c.target? = some target → target.first? = some n → d.contains n = true →
      (c.answer e s d).document.parent? n = d.parent? n ∧
      ∀ x, d.contains x = true → x ≠ n → ¬ d.Ancestor n x →
        (c.answer e s d).document.node? x = d.node? x) ∧
    ((∀ target n, c.target? = some target → target.first? = some n → d.contains n = false) →
      ∀ x, d.contains x = true → (c.answer e s d).document.node? x = d.node? x) := by
  rcases c.keepsAround hd.forest e s with h | ⟨target, n, ht, hn, h⟩
  · rw [h]
    exact ⟨fun _ _ => rfl, fun _ _ _ _ _ => ⟨rfl, fun _ _ _ _ => rfl⟩, fun _ _ _ => rfl⟩
  · refine ⟨h.kind, fun target' n' ht' hn' hc => ?_, fun hnone x hx => ?_⟩
    · rw [ht] at ht'
      cases ht'
      rw [hn] at hn'
      cases hn'
      exact ⟨h.parent hc, h.outside⟩
    · exact h.node?_of_not_contains hd.forest (hnone target n ht hn) hx

/-- Two boxes side by side. -/
def twoBoxes : Document :=
  (((new.createElement "div").1.createElement "div").1.appendChild root ⟨1⟩).appendChild root ⟨2⟩

/-- An add about both boxes that renders `x`. -/
def addToBoxes : Step Unit where
  engine := ⟨fun _ => some (), fun _ _ => some "x"⟩
  dispatcher := { cache := ⟨[("t", ())]⟩ }
  document := twoBoxes
  call := .add (.ofNodes [⟨1⟩, ⟨2⟩]) (.key "t") (.bool true) {}

/-- The first box gets a container, and the second stays as it is. -/
theorem second_box_unchanged :
    Reachable twoBoxes ∧ addToBoxes.answer.document.children ⟨1⟩ = [⟨3⟩] ∧
    addToBoxes.answer.document.node? ⟨2⟩ = twoBoxes.node? ⟨2⟩ := by
  have hd : Reachable twoBoxes :=
    .appendChild _ _ (.appendChild _ _ (.createElement _ (.createElement _ .new)))
  have hroot : ¬ twoBoxes.Ancestor ⟨1⟩ ⟨2⟩ := by
    rw [← hd.forest.isAncestor_iff]
    decide
  obtain ⟨-, hbelow, -⟩ := call_changes_only_below_target hd
    (e := addToBoxes.engine) (s := addToBoxes.dispatcher) (c := addToBoxes.call)
  obtain ⟨-, houtside⟩ := hbelow _ ⟨1⟩ rfl rfl rfl
  exact ⟨hd, by decide, houtside ⟨2⟩ rfl (by decide) hroot⟩

end Inlay
