/-
# `Inlay.Proofs.Document.Moving` — moving a node, and taking one away

Both operations change one link.  `Relinked d c above d'` says so of all nodes:

    c            hangs under `above` now, or nowhere
    `above`      has lost c from where it may have been, and has it last
    the parent   that c had lost c, and nothing else
    otherwise    kinds, parents and child lists are what they were

Whether a node is attached depends on all links above it.  The way up from a
node that is neither `c` nor below it does not use the link of `c`, so it is the
way up it was (`ancestors_outside`).  The way up from any other node comes to
`c` as before and goes on from there (`ancestors_inside`).  Since the root is on
top and is not `c`, it is not met before `c`.  So what is below `c` comes along
as it is, and is attached exactly if the node is that it now hangs under
(`Carried`).
-/
import Inlay.Proofs.Document.Shape
import Inlay.Proofs.Dispatch.Reachable

namespace Inlay.Document

variable {d d' : Document} {x p c : NodeId} {above : Option NodeId}

/-- From `d` to `d'` the node `c` was taken from where it hung, and was made the last child of
`above` or left to hang nowhere. -/
structure Relinked (d : Document) (c : NodeId) (above : Option NodeId) (d' : Document) : Prop where
  size : d'.size = d.size
  kind : ∀ x, d'.kind? x = d.kind? x
  moved : d'.parent? c = above
  parent : ∀ x, x ≠ c → d'.parent? x = d.parent? x
  gains : ∀ p, above = some p → d'.children p = (d.children p).filter (· ≠ c) ++ [c]
  loses : ∀ q, d.parent? c = some q → above ≠ some q →
    d'.children q = (d.children q).filter (· ≠ c)
  keeps : ∀ x, d.parent? c ≠ some x → above ≠ some x → d'.children x = d.children x

/-- Between `d` and `d'` the nodes from `c` down stayed together; in `d'` they are all attached, or
all not, as `attached` says, and nothing else was attached or cut off. -/
structure Carried (d : Document) (c : NodeId) (attached : Bool) (d' : Document) : Prop where
  descendants : d'.descendants c = d.descendants c
  children : d'.children c = d.children c
  below : ∀ x ∈ d.descendants c, d'.node? x = d.node? x
  inside : ∀ x, x = c ∨ x ∈ d.descendants c → d'.isAttached x = attached
  outside : ∀ x, x ≠ c → x ∉ d.descendants c → d'.isAttached x = d.isAttached x

/-! ## The two operations change one link -/

namespace Forest

/-- Where `c` is no child there is nothing to lose. -/
theorem children_without (hd : Forest d) (h : d.parent? c ≠ some x) :
    (d.children x).filter (· ≠ c) = d.children x := by
  refine List.filter_eq_self.mpr ?_
  intro y hy
  have hne : y ≠ c := by
    rintro rfl
    exact h (hd.mem_children.mp hy)
  simpa using hne

theorem relinked_hang (hd : Forest d) (hp : d.contains p = true) (hc : d.contains c = true) :
    Relinked d c (some p) (d.hang p c) where
  size := size_hang
  kind _ := kind?_hang
  moved := by rw [parent?_hang hc, if_pos rfl]
  parent x hx := by rw [parent?_hang hc, if_neg hx]
  gains q hq := by
    cases hq
    rw [hd.children_hang hp, if_pos rfl]
  loses q _ hne := by
    rw [hd.children_hang hp, if_neg fun h => hne (congrArg some h.symm)]
  keeps x hx hne := by
    rw [hd.children_hang hp, if_neg fun h => hne (congrArg some h.symm), hd.children_without hx]

theorem relinked_remove (hd : Forest d) (c : NodeId) : Relinked d c none (d.remove c) where
  size := size_remove
  kind _ := kind?_remove
  moved := by rw [parent?_remove, if_pos rfl]
  parent x hx := by rw [parent?_remove, if_neg hx]
  gains q hq := by cases hq
  loses q _ _ := hd.children_remove q c
  keeps x hx _ := by rw [hd.children_remove, hd.children_without hx]

end Forest

/-! ## What hangs together stays together -/

namespace Relinked

variable (hd : Forest d) (hd' : Forest d') (h : Relinked d c above d')

include hd hd' h

/-- Who is neither `c` nor below it has the way up that it had. -/
theorem ancestors_outside (hx : ¬ (x = c ∨ d.Ancestor c x)) : d'.ancestors x = d.ancestors x := by
  have hclimbs : d'.Climbs x (d.ancestors x) := by
    have hway := hd.climbs_ancestors x
    generalize d.ancestors x = l at hway
    induction hway with
    | @top y hy =>
        have hne : y ≠ c := fun he => hx (.inl he)
        exact .top ((h.parent y hne).trans hy)
    | @up y q _ hy _ ih =>
        have hne : y ≠ c := fun he => hx (.inl he)
        refine .up ((h.parent y hne).trans hy) (ih ?_)
        intro hq
        refine hx (.inr ?_)
        rcases hq with rfl | hq
        · exact ancestor_parent hy
        · exact ancestor_above hy hq
  exact (hd'.climbs_ancestors x).unique hclimbs

/-- Who is below `c` has the way up to `c` that it had. -/
theorem ancestors_inside (hx : d.Ancestor c x) : ∃ way : List NodeId,
    (∀ y ∈ way, y = c ∨ d.Ancestor c y) ∧ d.ancestors x = way ++ d.ancestors c ∧
      d'.ancestors x = way ++ d'.ancestors c := by
  have hlink : ∀ y q, d.Ancestor c y → d.parent? y = some q → d'.parent? y = some q := by
    intro y q hy hq
    have hne : y ≠ c := by
      rintro rfl
      exact hd.acyclic y hy
    rw [h.parent y hne, hq]
  -- The induction is on the links from `c` down to `x`; each adds one node to the way.
  induction hx with
  | single hx =>
      refine ⟨[c], ?_, hd.ancestors_eq hx, hd'.ancestors_eq (hlink _ _ (ancestor_parent hx) hx)⟩
      intro y hy
      exact .inl (List.mem_singleton.mp hy)
  | @tail b x hb hx ih =>
      obtain ⟨way, hway, hold, hnew⟩ := ih
      refine ⟨b :: way, ?_, ?_, ?_⟩
      · intro y hy
        rcases List.mem_cons.mp hy with rfl | hy
        · exact .inr hb
        · exact hway y hy
      · rw [hd.ancestors_eq hx, hold, List.cons_append]
      · rw [hd'.ancestors_eq (hlink _ _ (ancestor_above hx hb) hx), hnew, List.cons_append]

theorem isAttached_outside (hx : ¬ (x = c ∨ d.Ancestor c x)) :
    d'.isAttached x = d.isAttached x := by
  rw [isAttached, isAttached, isAncestor, isAncestor, h.ancestors_outside hd hd' hx]

/-- From `c` down a node is attached if what `c` now hangs under is. -/
theorem isAttached_inside (htop : d.parent? root = none) (hroot : c ≠ root)
    (hup : ∀ p, above = some p → ¬ (p = c ∨ d.Ancestor c p)) (hx : x = c ∨ d.Ancestor c x) :
    d'.isAttached x = above.any d.isAttached := by
  have hnot : ¬ (root = c ∨ d.Ancestor c root) := by
    rintro (hr | hr)
    · exact hroot hr.symm
    · exact parent?_ne_none_of_ancestor hr htop
  have hxroot : x ≠ root := fun he => hnot (he ▸ hx)
  have hself : (d'.ancestors c).contains root = above.any d.isAttached := by
    cases habove : above with
    | none =>
        have hfree : d'.parent? c = none := h.moved.trans habove
        rw [(hd'.climbs_ancestors c).unique (.top hfree)]
        rfl
    | some p =>
        have hlink : d'.parent? c = some p := h.moved.trans habove
        rw [hd'.ancestors_eq hlink, h.ancestors_outside hd hd' (hup p habove)]
        simp [isAttached, isAncestor, eq_comm]
  have hskip : (d'.ancestors x).contains root = (d'.ancestors c).contains root := by
    rcases hx with rfl | hx
    · rfl
    · obtain ⟨way, hway, -, hnew⟩ := h.ancestors_inside hd hd' hx
      have hfree : root ∉ way := fun hr => hnot (hway root hr)
      rw [hnew, Bool.eq_iff_iff, List.contains_iff_mem, List.contains_iff_mem, List.mem_append,
        or_iff_right hfree]
  rw [isAttached, isAncestor, hskip, hself, decide_eq_false hxroot, Bool.false_or]

omit hd' in
/-- A node of the subtree keeps its child list. -/
theorem children_inside (hup : ∀ p, above = some p → ¬ (p = c ∨ d.Ancestor c p))
    (hx : x = c ∨ d.Ancestor c x) : d'.children x = d.children x := by
  refine h.keeps x ?_ (fun ha => hup x ha hx)
  intro hq
  rcases hx with rfl | hx
  · exact hd.acyclic x (ancestor_parent hq)
  · exact hd.acyclic c (ancestor_above hq hx)

theorem carried (htop : d.parent? root = none) (hroot : c ≠ root)
    (hup : ∀ p, above = some p → ¬ (p = c ∨ d.Ancestor c p)) :
    Carried d c (above.any d.isAttached) d' := by
  have hbelow : ∀ x ∈ d.descendants c, d.Ancestor c x := fun x hx => hd.mem_descendants.mp hx
  have hchildren : ∀ {x}, x = c ∨ d.Ancestor c x → d'.children x = d.children x :=
    h.children_inside hd hup
  refine
    { descendants := ?descendants
      children := hchildren (.inl rfl)
      below := ?below
      inside := ?inside
      outside := ?outside }
  case descendants =>
    refine hd'.descendants_eq_of_visits ?_
    rw [hchildren (.inl rfl)]
    exact (hd.visits_descendants c).congr fun x hx => hchildren (.inr (hbelow x hx))
  case below =>
    intro x hx
    have hne : x ≠ c := by
      rintro rfl
      exact hd.acyclic x (hbelow x hx)
    exact node?_congr (h.kind x) (h.parent x hne) (hchildren (.inr (hbelow x hx)))
  case inside =>
    intro x hx
    exact h.isAttached_inside hd hd' htop hroot hup (hx.imp_right (hbelow x))
  case outside =>
    intro x hne hx
    refine h.isAttached_outside hd hd' ?_
    rintro (he | ha)
    · exact hne he
    · exact hx (hd.mem_descendants.mpr ha)

end Relinked

/-! ## Both -/

/-- The exact effect of a move and of a removal, in any document whose root is on top.

A node that is not the root and that the new parent is neither equal to nor below becomes the last
child there and leaves its old place; nothing else changes.  It takes along what is below it, and
all of this is attached afterwards if the new parent is.  A removal leaves the old place and hangs
the node nowhere, so nothing from it down is attached.  Either way, every other node is attached as
before. -/
theorem moving_effect (hd : Reachable d) (htop : d.parent? root = none) :
    (∀ p c, d.contains p = true → d.contains c = true → c ≠ p → c ≠ root → ¬ d.Ancestor c p →
      Relinked d c (some p) (d.appendChild p c) ∧
      (d.appendChild p c).isAttached p = d.isAttached p ∧
      Carried d c (d.isAttached p) (d.appendChild p c)) ∧
    ∀ c, c ≠ root → Relinked d c none (d.remove c) ∧ Carried d c false (d.remove c) := by
  have hf := hd.forest
  constructor
  · intro p c hp hc hne hroot hup
    have hinside : ¬ (p = c ∨ d.Ancestor c p) := by
      rintro (he | ha)
      · exact hne he.symm
      · exact hup ha
    have hd' : Forest (d.appendChild p c) := hf.appendChild p c
    have heq : d.appendChild p c = d.hang p c := hf.appendChild_eq_hang hp hc hne.symm hup
    have hlink : Relinked d c (some p) (d.appendChild p c) := heq ▸ hf.relinked_hang hp hc
    refine ⟨hlink, hlink.isAttached_outside hf hd' hinside, ?_⟩
    refine hlink.carried hf hd' htop hroot ?_
    rintro q ⟨rfl⟩
    exact hinside
  · intro c hroot
    have hlink : Relinked d c none (d.remove c) := hf.relinked_remove c
    refine ⟨hlink, hlink.carried hf (hf.remove c) htop hroot ?_⟩
    intro q hq
    cases hq

/-- A list with two items in the page, the first over a word, and a box that hangs nowhere. -/
def listAndBox : Document :=
  let d := ((((new.createElement "ul").1.createElement "li").1.createElement "li").1.createText
    "a").1.createElement "div" |>.1
  (((d.appendChild root ⟨1⟩).appendChild ⟨1⟩ ⟨2⟩).appendChild ⟨1⟩ ⟨3⟩).appendChild ⟨2⟩ ⟨4⟩

theorem listAndBox_reachable : Reachable listAndBox :=
  .appendChild _ _ (.appendChild _ _ (.appendChild _ _ (.appendChild _ _
    (.createElement _ (.createText _ (.createElement _ (.createElement _ (.createElement _
      .new))))))))

/-- The first item, moved into the box, takes its word out of the page with it; moved to the list
that it is in, it goes behind the other; taken away, it is not attached. -/
theorem item_moved :
    Reachable listAndBox ∧ listAndBox.parent? root = none ∧
    listAndBox.children ⟨1⟩ = [⟨2⟩, ⟨3⟩] ∧
    (listAndBox.appendChild ⟨5⟩ ⟨2⟩).children ⟨1⟩ = [⟨3⟩] ∧
    (listAndBox.appendChild ⟨5⟩ ⟨2⟩).children ⟨5⟩ = [⟨2⟩] ∧
    (listAndBox.appendChild ⟨5⟩ ⟨2⟩).isAttached ⟨4⟩ = false ∧
    (listAndBox.appendChild ⟨1⟩ ⟨2⟩).children ⟨1⟩ = [⟨3⟩, ⟨2⟩] ∧
    (listAndBox.appendChild ⟨1⟩ ⟨2⟩).isAttached ⟨4⟩ = true ∧
    (listAndBox.remove ⟨2⟩).isAttached ⟨4⟩ = false := by
  have hd : Reachable listAndBox := listAndBox_reachable
  have hup : ∀ p, listAndBox.isAncestor ⟨2⟩ p = false → ¬ listAndBox.Ancestor ⟨2⟩ p := by
    intro p hp ha
    rw [hd.forest.isAncestor_iff.mpr ha] at hp
    cases hp
  have hitem : listAndBox.parent? ⟨2⟩ = some ⟨1⟩ := rfl
  have hlist : listAndBox.children ⟨1⟩ = [⟨2⟩, ⟨3⟩] := rfl
  have hword : ⟨4⟩ ∈ listAndBox.descendants ⟨2⟩ := by decide
  obtain ⟨hmove, hremove⟩ := moving_effect hd rfl
  obtain ⟨hbox, -, hout⟩ := hmove ⟨5⟩ ⟨2⟩ rfl rfl (by decide) (by decide) (hup _ (by decide))
  obtain ⟨hlast, -, hstay⟩ := hmove ⟨1⟩ ⟨2⟩ rfl rfl (by decide) (by decide) (hup _ (by decide))
  refine ⟨hd, rfl, hlist, ?_, ?_, ?_, ?_, ?_, ?_⟩
  · exact hbox.loses ⟨1⟩ hitem (by decide)
  · exact hbox.gains ⟨5⟩ rfl
  · exact hout.inside ⟨4⟩ (.inr hword)
  · exact hlast.gains ⟨1⟩ rfl
  · exact hstay.inside ⟨4⟩ (.inr hword)
  · exact (hremove ⟨2⟩ (by decide)).2.inside ⟨4⟩ (.inr hword)

end Inlay.Document
