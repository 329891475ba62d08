/-
# `Inlay.Proofs.Dispatch.Commuting` — calls about unrelated nodes

Two steady calls are about nodes neither of which is the other or above it.
Each of them is settled by what stands below its own node, and changes the
document there and nowhere else.  So neither sees what the other did, and it
remains to compare the documents, which got their changes in different order.

`Amended d ns plus d'` says what a document `d'` is that comes from `d` by
changes, without saying in which order they were made:

    ns     the nodes of d that were taken from their parents
    plus   for every node of d, the shapes of what was added behind its children
           (`extra` holds the nodes that were added there)

Taking nodes of `d` away and adding a container to one of them amend it further
(`Amended.removeAll`, `Amended.appendFragment`): all that was added before stands
below nodes that `d` does not have, so no node of `d` is there to be touched.
And two documents that amend `d` alike are alike, each node of `d` standing for
itself (`Amended.alike`).
-/
import Inlay.Proofs.Dispatch.Changes
import Inlay.Proofs.Dispatch.Locality

namespace Inlay

open Document Dispatcher
open List (Forall₂)

variable {τ : Type} {e : Engine τ} {s : Dispatcher τ} {d d' d₁ d₂ : Document}
  {n n₁ n₂ w x : NodeId} {ns ns₁ ns₂ ts : List NodeId} {plus : NodeId → List Shape}
  {extra extra₁ extra₂ : NodeId → List NodeId}

/-- `d'` is `d` less the links above `ns`, and with nodes of the shapes `plus` behind the children
of the nodes of `d`. -/
structure Amended (d : Document) (ns : List NodeId) (plus : NodeId → List Shape) (d' : Document)
    (extra : NodeId → List NodeId) : Prop where
  forest : Forest d'
  contains : ∀ x, d.contains x = true → d'.contains x = true
  kind : ∀ x, d.contains x = true → d'.kind? x = d.kind? x
  parent : ∀ x, d.contains x = true → d'.parent? x = if x ∈ ns then none else d.parent? x
  children : ∀ x, d.contains x = true →
    d'.children x = (d.children x).filter (· ∉ ns) ++ extra x
  shapes : ∀ x, (extra x).map d'.shape = plus x
  fresh : ∀ x, ∀ w ∈ extra x, d.contains x = true ∧ d.contains w = false

namespace Amended

theorem refl (hd : Forest d) : Amended d [] (fun _ => []) d fun _ => [] where
  forest := hd
  contains _ hx := hx
  kind _ _ := rfl
  parent _ _ := (if_neg List.not_mem_nil).symm
  children x _ := by simp
  shapes _ := rfl
  fresh _ _ h := absurd h List.not_mem_nil

theorem parent_extra (h : Amended d ns plus d' extra) (hw : w ∈ extra x) :
    d'.parent? w = some x := by
  rw [← h.forest.mem_children, h.children x (h.fresh x w hw).1]
  exact List.mem_append_right _ hw

/-- Below a node that `d` does not have there is none that it has. -/
theorem fresh_below (h : Amended d ns plus d' extra) (hd : Forest d) (hw : d.contains w = false)
    (hx : x = w ∨ d'.Ancestor w x) : d.contains x = false := by
  rcases hx with rfl | hx
  · exact hw
  have hup : ∀ y p, d.contains y = true → d'.parent? y = some p → d.contains p = true := by
    intro y p hy hp
    rw [h.parent y hy] at hp
    split at hp
    · cases hp
    · exact hd.contains_parent hp
  have hold : ∀ y, d'.Ancestor w y → d.contains y = true → d.contains w = true := by
    intro y hy
    induction hy with
    | single hp => exact fun hc => hup _ _ hc hp
    | tail _ hp ih => exact fun hc => ih (hup _ _ hc hp)
  cases hc : d.contains x with
  | false => rfl
  | true =>
      rw [hold x hx hc] at hw
      cases hw

/-- What was added keeps its shape when only nodes of `d` change. -/
theorem shape_extra (h : Amended d ns plus d' extra) (hd : Forest d) {d'' : Document}
    (hd'' : Forest d'') (hw : w ∈ extra x)
    (hsame : ∀ y, d'.contains y = true → d.contains y = false →
      d''.kind? y = d'.kind? y ∧ d''.children y = d'.children y) :
    d''.shape w = d'.shape w := by
  refine shape_congr h.forest hd'' fun y hy => hsame y ?_ ?_
  · rcases hy with rfl | hy
    · exact contains_of_parent? (h.parent_extra hw)
    · exact contains_of_ancestor hy
  · exact h.fresh_below hd (h.fresh x w hw).2 hy

theorem removeAll (h : Amended d ns plus d' extra) (hd : Forest d)
    (hts : ∀ x ∈ ts, d.contains x = true) :
    Amended d (ns ++ ts) plus (ts.foldl remove d') extra := by
  have hnot : ∀ y, d.contains y = false → y ∉ ts := by
    intro y hy hmem
    rw [hts y hmem] at hy
    cases hy
  refine
    { forest := h.forest.removeAll ts
      contains := fun x hx => (contains_removeAll ts d').trans (h.contains x hx)
      kind := fun x hx => (kind?_removeAll ts d').trans (h.kind x hx)
      parent := ?parent
      children := ?children
      shapes := ?shapes
      fresh := h.fresh }
  case parent =>
    intro x hx
    rw [parent?_removeAll, h.parent x hx]
    by_cases hmem : x ∈ ts <;> simp [hmem]
  case children =>
    intro x hx
    have hextra : (extra x).filter (· ∉ ts) = extra x := by
      refine List.filter_eq_self.mpr fun w hw => ?_
      simpa using hnot w (h.fresh x w hw).2
    rw [Forest.children_removeAll ts h.forest, h.children x hx, List.filter_append, hextra,
      List.filter_filter]
    congr 1
    exact List.filter_congr fun y _ => by simp [not_or, Bool.and_comm]
  case shapes =>
    intro x
    rw [← h.shapes x]
    refine List.map_congr_left fun w hw => ?_
    refine h.shape_extra hd (h.forest.removeAll ts) hw fun y hy hfresh => ?_
    refine ⟨kind?_removeAll ts d', ?_⟩
    rw [Forest.children_removeAll ts h.forest]
    refine List.filter_eq_self.mpr fun z hz => ?_
    have hbelow := h.fresh_below hd hfresh (.inr (ancestor_parent (h.forest.mem_children.mp hz)))
    simpa using hnot z hbelow

theorem appendFragment (h : Amended d ns plus d' extra) (hd : Forest d)
    (hn : d.contains n = true) (key fragment : String) :
    Amended d ns (fun x => plus x ++ if x = n then [containerShape key fragment] else [])
      (Dispatcher.appendFragment d' n key fragment)
      (fun x => extra x ++ if x = n then [⟨d'.size⟩] else []) := by
  have hn' := h.contains n hn
  have hf := h.forest.appendContainer n key fragment
  have hnew : d.contains ⟨d'.size⟩ = false := by
    by_contra hc
    have := h.contains ⟨d'.size⟩ (by simpa using hc)
    rw [not_contains_size] at this
    cases this
  refine
    { forest := hf
      contains := fun x hx => contains_appendFragment h.forest (h.contains x hx)
      kind := fun x hx => (kind?_appendFragment h.forest (h.contains x hx)).trans (h.kind x hx)
      parent := fun x hx =>
        (parent?_appendFragment h.forest hn' (h.contains x hx)).trans (h.parent x hx)
      children := ?children
      shapes := ?shapes
      fresh := ?fresh }
  case children =>
    intro x hx
    rw [children_appendFragment h.forest hn' (h.contains x hx)]
    split
    · next hxn => rw [hxn, h.children n hn, List.append_assoc]
    · rw [h.children x hx, List.append_nil]
  case shapes =>
    intro x
    have hold : (extra x).map (Dispatcher.appendFragment d' n key fragment).shape = plus x := by
      rw [← h.shapes x]
      refine List.map_congr_left fun w hw => h.shape_extra hd hf hw fun y hy hfresh => ?_
      have hyn : y ≠ n := by
        rintro rfl
        rw [hn] at hfresh
        cases hfresh
      rw [kind?_appendFragment h.forest hy, children_appendFragment h.forest hn' hy, if_neg hyn]
      exact ⟨rfl, rfl⟩
    rw [List.map_append, hold]
    split
    · rw [List.map_singleton, shape_container h.forest]
    · rfl
  case fresh =>
    intro x w hw
    rcases List.mem_append.mp hw with hw | hw
    · exact h.fresh x w hw
    · split at hw
      · next hxn =>
          rw [List.mem_singleton] at hw
          exact ⟨hxn ▸ hn, hw ▸ hnew⟩
      · cases hw

theorem nodup_extra (h : Amended d ns plus d' extra) (x : NodeId) : (extra x).Nodup := by
  by_cases hx : d.contains x = true
  · have hn := h.forest.nodup_children x
    rw [h.children x hx] at hn
    exact hn.of_append_right
  · have hnil : extra x = [] :=
      List.eq_nil_iff_forall_not_mem.mpr fun w hw => hx (h.fresh x w hw).1
    rw [hnil]
    exact List.nodup_nil

/-- Two documents that amend `d` alike: the nodes of `d` are the core, and what was added at the
same place of both are seeds. -/
theorem seeds (h₁ : Amended d ns₁ plus d₁ extra₁) (h₂ : Amended d ns₂ plus d₂ extra₂)
    (hd : Forest d) (hns : ∀ x, x ∈ ns₁ ↔ x ∈ ns₂) :
    Seeds (fun x y => x = y ∧ d.contains x = true)
      (fun a b => ∃ x, (a, b) ∈ (extra₁ x).zip (extra₂ x)) d₁ d₂ := by
  have hshapes : ∀ x, Forall₂ (fun a b => d₁.shape a = d₂.shape b) (extra₁ x) (extra₂ x) :=
    fun x => map_eq_map_iff_forall₂.mp ((h₁.shapes x).trans (h₂.shapes x).symm)
  refine
    { forest₁ := h₁.forest
      forest₂ := h₂.forest
      coreOne := ?coreOne
      seedOne := ?seedOne
      contains := ?contains
      parent := ?parent
      kind := ?kind
      children := ?children
      shape := ?shape
      apart₁ := ?apart₁
      apart₂ := ?apart₂ }
  case coreOne =>
    rintro x y x' y' ⟨rfl, -⟩ ⟨rfl, -⟩
    exact Iff.rfl
  case seedOne =>
    rintro a b a' b' ⟨x, hab⟩ ⟨x', hab'⟩
    obtain ⟨ha, hb⟩ := List.of_mem_zip hab
    obtain ⟨ha', hb'⟩ := List.of_mem_zip hab'
    constructor
    · rintro rfl
      have hp := h₁.parent_extra ha
      rw [h₁.parent_extra ha'] at hp
      cases hp
      exact zip_unique (h₁.nodup_extra x) hab hab'
    · rintro rfl
      have hp := h₂.parent_extra hb
      rw [h₂.parent_extra hb'] at hp
      cases hp
      exact zip_unique (h₂.nodup_extra x) (zip_swap hab) (zip_swap hab')
  case contains =>
    rintro x y (⟨rfl, hx⟩ | ⟨p, hxy⟩)
    · exact ⟨h₁.contains x hx, h₂.contains x hx⟩
    · obtain ⟨hx, hy⟩ := List.of_mem_zip hxy
      exact ⟨contains_of_parent? (h₁.parent_extra hx), contains_of_parent? (h₂.parent_extra hy)⟩
  case parent =>
    rintro x y (⟨rfl, hx⟩ | ⟨p, hxy⟩)
    · rw [h₁.parent x hx, h₂.parent x hx]
      simp only [hns]
      split
      · exact .none
      · cases hp : d.parent? x with
        | none => exact .none
        | some p => exact .some ⟨rfl, hd.contains_parent hp⟩
    · obtain ⟨hx, hy⟩ := List.of_mem_zip hxy
      rw [h₁.parent_extra hx, h₂.parent_extra hy]
      exact .some ⟨rfl, (h₁.fresh p x hx).1⟩
  case kind =>
    rintro x y ⟨rfl, hx⟩
    rw [h₁.kind x hx, h₂.kind x hx]
  case children =>
    rintro x y ⟨rfl, hx⟩
    rw [h₁.children x hx, h₂.children x hx]
    simp only [hns]
    refine List.rel_append ?_ ?_
    · refine List.forall₂_same.mpr fun c hc => .inl ⟨rfl, ?_⟩
      exact hd.contains_child (List.mem_of_mem_filter hc)
    · exact List.forall₂_iff_zip.mpr ⟨(hshapes x).length_eq, fun hab => .inr ⟨x, hab⟩⟩
  case shape =>
    rintro a b ⟨x, hab⟩
    exact List.forall₂_zip (hshapes x) hab
  case apart₁ =>
    rintro a b ⟨p, hab⟩ x hx y ⟨-, hold⟩
    rw [h₁.fresh_below hd (h₁.fresh p a (List.of_mem_zip hab).1).2 hx] at hold
    cases hold
  case apart₂ =>
    rintro a b ⟨p, hab⟩ y hy x ⟨rfl, hold⟩
    rw [h₂.fresh_below hd (h₂.fresh p b (List.of_mem_zip hab).2).2 hy] at hold
    cases hold

/-- Two documents that amend `d` alike are alike, and each node of `d` stands for itself. -/
theorem alike (h₁ : Amended d ns₁ plus d₁ extra₁) (h₂ : Amended d ns₂ plus d₂ extra₂)
    (hd : Forest d) (hns : ∀ x, x ∈ ns₁ ↔ x ∈ ns₂) :
    ∃ R, Alike R d₁ d₂ ∧ ∀ x, d.contains x = true → R x x :=
  ⟨_, (h₁.seeds h₂ hd hns).alike, fun _ hx => .inl ⟨rfl, hx⟩⟩

end Amended

/-! ## Changes -/

/-- The shape of what a change adds. -/
def Change.shapes (ch : Change) : List Shape :=
  ch.added.toList.map fun kf => containerShape kf.1 kf.2

/-- A change amends further what amends `d` already. -/
theorem Amended.change (h : Amended d ns plus d' extra) (hd : Forest d) (hn : d.contains n = true)
    (ch : Change) (hch : ch.taken ⊆ d.descendants n) :
    ∃ extra', Amended d (ns ++ ch.taken) (fun x => plus x ++ if x = n then ch.shapes else [])
      (ch.apply d' n) extra' := by
  have htaken : Amended d (ns ++ ch.taken) plus (ch.taken.foldl remove d') extra :=
    h.removeAll hd fun x hx => contains_of_ancestor (hd.mem_descendants.mp (hch hx))
  obtain ⟨taken, added⟩ := ch
  cases added with
  | none =>
      refine ⟨extra, ?_⟩
      simpa [Change.shapes, Change.apply] using htaken
  | some kf => exact ⟨_, htaken.appendFragment hd hn kf.1 kf.2⟩

/-- What stands below an unrelated node stays as it is. -/
theorem KeepsAround.sameBelow (h : KeepsAround d n₁ d') (hn : d.contains n₂ = true)
    (hne : n₁ ≠ n₂) (h₁₂ : ¬ d.Ancestor n₁ n₂) (h₂₁ : ¬ d.Ancestor n₂ n₁) :
    SameBelow d n₂ d' := by
  intro x hx
  have hnode : d'.node? x = d.node? x := by
    rcases hx with rfl | hx
    · exact h.outside x hn hne.symm h₁₂
    · refine h.outside x (contains_of_ancestor hx) ?_ fun ha => ?_
      · rintro rfl
        exact h₂₁ hx
      · rcases ancestor_linear ha hx with h | h | h
        · exact hne h
        · exact h₁₂ h
        · exact h₂₁ h
  rw [kind?, children_eq, hnode, ← children_eq]
  exact ⟨rfl, rfl⟩

/-- Two changes at different nodes amend a document alike in either order. -/
theorem alike_of_two_changes (hd : Forest d) (hn₁ : d.contains n₁ = true)
    (hn₂ : d.contains n₂ = true) (hne : n₁ ≠ n₂) {ch₁ ch₂ : Change}
    (hch₁ : ch₁.taken ⊆ d.descendants n₁) (hch₂ : ch₂.taken ⊆ d.descendants n₂) :
    ∃ R, Alike R (ch₂.apply (ch₁.apply d n₁) n₂) (ch₁.apply (ch₂.apply d n₂) n₁) ∧
      ∀ x, d.contains x = true → R x x := by
  obtain ⟨_, h₁⟩ := (Amended.refl hd).change hd hn₁ ch₁ hch₁
  obtain ⟨_, h₁₂⟩ := h₁.change hd hn₂ ch₂ hch₂
  obtain ⟨_, h₂⟩ := (Amended.refl hd).change hd hn₂ ch₂ hch₂
  obtain ⟨_, h₂₁⟩ := h₂.change hd hn₁ ch₁ hch₁
  have hplus : (fun x => ([] ++ if x = n₁ then ch₁.shapes else []) ++
        if x = n₂ then ch₂.shapes else []) =
      fun x => ([] ++ if x = n₂ then ch₂.shapes else []) ++
        if x = n₁ then ch₁.shapes else [] := by
    funext x
    by_cases hx : x = n₁
    · simp [hx, hne]
    · simp [hx]
  rw [hplus] at h₁₂
  exact h₁₂.alike h₂₁ hd fun x => by simp [or_comm]

/-- Two steady calls about nodes neither of which is the other or above it may be made in either
order.  Each has the same outcome first and last; the dispatcher is the same in the end, and the
documents differ in no more than the numbers of the nodes that were made on the way. -/
theorem steady_calls_commute {c₁ c₂ : Call} (hd : Reachable d) (hn₁ : d.contains n₁ = true)
    (hn₂ : d.contains n₂ = true) (hne : n₁ ≠ n₂) (h₁₂ : ¬ d.Ancestor n₁ n₂)
    (h₂₁ : ¬ d.Ancestor n₂ n₁) (hc₁ : c₁.Steady s n₁) (hc₂ : c₂.Steady s n₂) (e : Engine τ) :
    let first := c₁.answer e s d
    let firstSecond := c₂.answer e first.dispatcher first.document
    let second := c₂.answer e s d
    let secondFirst := c₁.answer e second.dispatcher second.document
    first.outcome = secondFirst.outcome ∧ second.outcome = firstSecond.outcome ∧
    firstSecond.dispatcher = secondFirst.dispatcher ∧
    (∃ R, Alike R firstSecond.document secondFirst.document ∧
      ∀ x, d.contains x = true → R x x) ∧
    ∀ x ∈ [root, n₁, n₂], firstSecond.document.shape x = secondFirst.document.shape x := by
  intro first firstSecond second secondFirst
  have hf := hd.forest
  obtain ⟨ch₁, out₁, asked₁, hch₁, ha₁⟩ := hc₁.settled hf e
  obtain ⟨ch₂, out₂, asked₂, hch₂, ha₂⟩ := hc₂.settled hf e
  have hr₁ := ch₁.rearranged hch₁
  have hr₂ := ch₂.rearranged hch₂
  have hfirst : first = ⟨s, ch₁.apply d n₁, out₁, asked₁⟩ := ha₁ d hf (.refl d n₁)
  have hsecond : second = ⟨s, ch₂.apply d n₂, out₂, asked₂⟩ := ha₂ d hf (.refl d n₂)
  have hfirstSecond : firstSecond =
      ⟨s, ch₂.apply (ch₁.apply d n₁) n₂, out₂, asked₂⟩ := by
    show c₂.answer e first.dispatcher first.document = _
    rw [hfirst]
    exact ha₂ _ (hr₁.forest hf) ((hr₁.keepsAround hf).sameBelow hn₂ hne h₁₂ h₂₁)
  have hsecondFirst : secondFirst =
      ⟨s, ch₁.apply (ch₂.apply d n₂) n₁, out₁, asked₁⟩ := by
    show c₁.answer e second.dispatcher second.document = _
    rw [hsecond]
    exact ha₁ _ (hr₂.forest hf) ((hr₂.keepsAround hf).sameBelow hn₁ hne.symm h₂₁ h₁₂)
  obtain ⟨R, halike, hsame⟩ := alike_of_two_changes hf hn₁ hn₂ hne hch₁ hch₂
  rw [hfirst, hsecond, hfirstSecond, hsecondFirst]
  refine ⟨rfl, rfl, rfl, ⟨R, halike, hsame⟩, fun x hx => halike.shape_eq (hsame x ?_)⟩
  simp only [List.mem_cons, List.not_mem_nil, or_false] at hx
  rcases hx with rfl | rfl | rfl
  · exact hd.contains_root
  · exact hn₁
  · exact hn₂

/-- An add for the key `t` about a box. -/
def fillBox (n : NodeId) (removal : Removal) : Call :=
  .add (.ofNode n) (.key "t") (.bool true) { removal := some removal }

/-- Two boxes, the second of them filled. -/
def halfFilled : Document :=
  ((fillBox ⟨2⟩ .none).answer addToBoxes.engine addToBoxes.dispatcher twoBoxes).document

/-- Filling the first box commutes with filling the second one anew. -/
theorem boxes_filled_in_either_order :
    let first := (fillBox ⟨1⟩ .none).answer addToBoxes.engine addToBoxes.dispatcher halfFilled
    let second := (fillBox ⟨2⟩ .all).answer addToBoxes.engine addToBoxes.dispatcher halfFilled
    let firstSecond :=
      (fillBox ⟨2⟩ .all).answer addToBoxes.engine first.dispatcher first.document
    let secondFirst :=
      (fillBox ⟨1⟩ .none).answer addToBoxes.engine second.dispatcher second.document
    Reachable halfFilled ∧ (fillBox ⟨1⟩ .none).Steady addToBoxes.dispatcher ⟨1⟩ ∧
    (fillBox ⟨2⟩ .all).Steady addToBoxes.dispatcher ⟨2⟩ ∧
    firstSecond.document ≠ secondFirst.document ∧
    firstSecond.document.shape root = secondFirst.document.shape root := by
  intro first second firstSecond secondFirst
  have hd : Reachable halfFilled := .call _ _ _
    (.appendChild _ _ (.appendChild _ _ (.createElement _ (.createElement _ .new))))
  have h₁₂ : ¬ halfFilled.Ancestor ⟨1⟩ ⟨2⟩ := by
    rw [← hd.forest.isAncestor_iff]
    decide +kernel
  have h₂₁ : ¬ halfFilled.Ancestor ⟨2⟩ ⟨1⟩ := by
    rw [← hd.forest.isAncestor_iff]
    decide +kernel
  have hc₁ : (fillBox ⟨1⟩ .none).Steady addToBoxes.dispatcher ⟨1⟩ := ⟨rfl, rfl, "t", rfl, rfl⟩
  have hc₂ : (fillBox ⟨2⟩ .all).Steady addToBoxes.dispatcher ⟨2⟩ := ⟨rfl, rfl, "t", rfl, rfl⟩
  obtain ⟨-, -, -, -, hshapes⟩ := steady_calls_commute hd (by decide +kernel) (by decide +kernel)
    (by decide) h₁₂ h₂₁ hc₁ hc₂ addToBoxes.engine
  exact ⟨hd, hc₁, hc₂, by decide +kernel, hshapes root (by simp)⟩

end Inlay
