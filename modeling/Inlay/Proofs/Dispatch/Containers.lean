/-
# `Inlay.Proofs.Dispatch.Containers` — the containers below a node, as a list

A dispatcher keeps no list of what it rendered: it finds the containers again by
their markers, in document order.  `Lists d c L` says that the nodes with a
marker below `c` are exactly those of the list `L` of markers and nodes, and that
each is a child of `c`.  Then what is read and done by way of the tree is read
and done in the list:

    rendered nodes of a key       the nodes with its marker       (`renderedNodes_eq`)
    taking them away              the list without them           (`removeRendered`)
    adding a fragment             one more at the end             (`appendFragment`)

That the containers are children of `c`, and so not below each other, is what
makes taking one away leave the others.  It takes fragments that hold no
container of their own (`Unmarked`).

Where containers hang below each other, taking one away takes those below it with
it (`containers_removeAll`), and what is added may bring more containers than one
(`containers_planted`); the statements for lists are what is left of these two.
-/
import Inlay.Proofs.Dispatch.Reachable

namespace Inlay

open Document

variable {d : Document} {c x : NodeId} {key m : String}

/-- Nodes with their markers. -/
abbrev Log := List (String × NodeId)

namespace Log

/-- The nodes of a key, or all of them. -/
def nodes (L : Log) : Option String → List NodeId
  | some key => (L.filter (·.1 = markerOf key)).map (·.2)
  | none => L.map (·.2)

/-- What stays when the nodes of a key go, or all of them. -/
def without (L : Log) : Option String → Log
  | some key => L.filter (·.1 ≠ markerOf key)
  | none => []

/-- The log before a template of the key is rendered. -/
def prepared (L : Log) (key : String) : Removal → Log
  | .none => L
  | .same => L.without (some key)
  | .all => L.without none

end Log

/-- An element that is no container. -/
def Unmarked (e : Element) : Prop := e.name = "div" → e.attribute? markerAttribute = none

/-- A fragment that holds no container. -/
def Clean (fragment : String) : Prop :=
  EveryOf Unmarked (unwrap (Markup.parseFragment "div" fragment))

/-- The containers below a node. -/
def Document.containers (d : Document) (c : NodeId) : Log :=
  (d.descendants c).filterMap fun x => (d.marker? x).map (·, x)

theorem mem_containers : (m, x) ∈ d.containers c ↔ x ∈ d.descendants c ∧ d.marker? x = some m := by
  simp only [containers, List.mem_filterMap, Option.map_eq_some_iff, Prod.mk.injEq]
  constructor
  · rintro ⟨y, hy, _, hm, rfl, rfl⟩
    exact ⟨hy, hm⟩
  · rintro ⟨hx, hm⟩
    exact ⟨x, hx, m, hm, rfl, rfl⟩

/-- The rendered nodes are read off the containers. -/
theorem renderedNodes_eq (d : Document) (c : NodeId) (key : Option String) :
    d.renderedNodes c key = (d.containers c).nodes key := by
  unfold renderedNodes containers
  induction d.descendants c with
  | nil => cases key <;> rfl
  | cons x rest ih =>
      rw [List.filter_cons, ih]
      cases hm : d.marker? x with
      | none => cases key <;> simp [hm]
      | some m =>
          cases key with
          | none => simp [hm, Log.nodes]
          | some k => by_cases hk : m = markerOf k <;> simp [hm, hk, Log.nodes]

/-! ## Markers -/

theorem marker?_of_element? {d' : Document} (h : d'.element? x = d.element? x) :
    d'.marker? x = d.marker? x := by
  rw [marker?, h, marker?]

theorem marker?_eq_none (h : ∀ e, d.element? x = some e → Unmarked e) : d.marker? x = none := by
  unfold marker?
  cases he : d.element? x with
  | none => rfl
  | some e =>
      simp only
      split
      · next hname => exact h e he hname
      · rfl

theorem marker?_containerOf (h : d.element? x = some (containerOf key)) :
    d.marker? x = some (markerOf key) := by
  rw [marker?, h]
  rfl

theorem marker?_removeAll (ns : List NodeId) (d : Document) :
    (ns.foldl remove d).marker? x = d.marker? x :=
  marker?_of_element? (by rw [element?, kind?_removeAll, element?])

/-! ## After nodes were taken away -/

/-- Whether a node is taken out of the tree by the removal of `ns`: one of them, or below one. -/
def Document.isGone (d : Document) (ns : List NodeId) (x : NodeId) : Bool :=
  ns.any fun m => x = m || d.isAncestor m x

namespace Document.Forest

theorem isGone_iff (hd : Forest d) {ns : List NodeId} : d.isGone ns x = true ↔ d.Gone ns x := by
  simp only [isGone, List.any_eq_true, Bool.or_eq_true, decide_eq_true_eq, hd.isAncestor_iff]
  exact Iff.rfl

/-- Taking away what is below a node leaves the node. -/
theorem not_gone (hd : Forest d) {ns : List NodeId} (hns : ns ⊆ d.descendants c) :
    ¬ d.Gone ns c := by
  rintro ⟨n, hn, hcn⟩
  have hbelow := hd.mem_descendants.mp (hns hn)
  rcases hcn with rfl | hcn
  · exact hd.acyclic _ hbelow
  · exact hd.acyclic _ (ancestor_trans hbelow hcn)

end Document.Forest

theorem filterMap_filter_of_agree {α β : Type} {f : α → Option β} {p : α → Bool} {q : β → Bool} :
    ∀ {l : List α}, (∀ x ∈ l, ∀ y, f x = some y → p x = q y) →
      (l.filter p).filterMap f = (l.filterMap f).filter q
  | [], _ => rfl
  | x :: l, h => by
      have ih := filterMap_filter_of_agree fun z hz => h z (List.mem_cons_of_mem x hz)
      have hx := h x List.mem_cons_self
      rw [List.filterMap_cons]
      cases hf : f x with
      | none =>
          rw [List.filter_cons]
          split
          · rw [List.filterMap_cons, hf, ih]
          · exact ih
      | some y =>
          rw [List.filter_cons, List.filter_cons, hx y hf]
          split
          · rw [List.filterMap_cons, hf, ih]
          · exact ih

/-- The containers that are left are those that are not gone, in the old order. -/
theorem containers_removeAll (hd : Forest d) {ns : List NodeId} (hns : ns ⊆ d.descendants c) :
    (ns.foldl remove d).containers c = (d.containers c).filter (!d.isGone ns ·.2) := by
  unfold containers
  rw [hd.descendants_removeAll ns (hd.not_gone hns)]
  simp only [marker?_removeAll]
  refine filterMap_filter_of_agree fun x _ y hy => ?_
  obtain ⟨m, -, rfl⟩ := Option.map_eq_some_iff.mp hy
  cases hg : d.isGone ns x <;> simp [← hd.isGone_iff, hg]

theorem renderedNodes_removeAll (hd : Forest d) {ns : List NodeId} (hns : ns ⊆ d.descendants c)
    (key : Option String) :
    (ns.foldl remove d).renderedNodes c key =
      (d.renderedNodes c key).filter (!d.isGone ns ·) := by
  rw [renderedNodes_eq, renderedNodes_eq, containers_removeAll hd hns]
  cases key with
  | none =>
      simp only [Log.nodes]
      rw [List.filter_map]
      rfl
  | some key =>
      simp only [Log.nodes]
      rw [List.filter_comm, List.filter_map]
      rfl

theorem mem_renderedNodes {key : Option String} : x ∈ d.renderedNodes c key ↔
    x ∈ d.descendants c ∧ ∃ m, d.marker? x = some m ∧ ∀ k ∈ key, m = markerOf k := by
  rw [renderedNodes, List.mem_filter]
  refine and_congr_right fun _ => ?_
  cases d.marker? x <;> cases key <;> simp

theorem renderedNodes_subset (d : Document) (c : NodeId) (key : Option String) :
    d.renderedNodes c key ⊆ d.renderedNodes c none := by
  intro x hx
  obtain ⟨hbelow, m, hm, -⟩ := mem_renderedNodes.mp hx
  exact mem_renderedNodes.mpr ⟨hbelow, m, hm, by simp⟩

/-- Where all rendered nodes of a key are among the nodes that are taken away, none is left. -/
theorem renderedNodes_removeAll_eq_nil (hd : Forest d) {ns : List NodeId} {key : Option String}
    (hns : ns ⊆ d.descendants c) (hall : d.renderedNodes c key ⊆ ns) :
    (ns.foldl remove d).renderedNodes c key = [] := by
  rw [renderedNodes_removeAll hd hns]
  refine List.filter_eq_nil_iff.mpr fun x hx => ?_
  have hgone : d.isGone ns x = true := hd.isGone_iff.mpr ⟨x, hall hx, .inl rfl⟩
  simp [hgone]

/-- Once rendered nodes of a key were taken away, or all were, none of the key is left. -/
theorem renderedNodes_replaced (hd : Forest d) {removal : Removal} (hr : removal ≠ .none)
    (key : String) :
    ((Dispatcher.replaced d c key removal).foldl remove d).renderedNodes c (some key) = [] := by
  refine renderedNodes_removeAll_eq_nil hd (replaced_subset c key removal) ?_
  cases removal with
  | none => exact absurd rfl hr
  | same => exact List.Subset.refl _
  | all => exact renderedNodes_subset d c (some key)

/-- A target counts as filled only where nothing is taken away first. -/
theorem isFilled_prepare_iff (hd : Forest d) {target : Selection} {o : Options} :
    Dispatcher.isFilled (Dispatcher.prepare d target key o) target key o = true ↔
      o.refill = false ∧ o.removal = .none ∧
        ∃ n, target.first? = some n ∧ d.renderedNodes n (some key) ≠ [] := by
  unfold Dispatcher.isFilled
  rw [prepare_eq]
  cases hn : target.first? with
  | none => simp
  | some n =>
      simp only [preRemoved_of_first? hn, Bool.and_eq_true, Bool.not_eq_true', Option.some.injEq,
        exists_eq_left', List.isEmpty_eq_false_iff]
      refine and_congr_right fun _ => ?_
      by_cases hr : o.removal = .none
      · rw [hr]
        exact (and_iff_right rfl).symm
      · rw [renderedNodes_replaced hd hr]
        exact iff_of_false (fun h => h rfl) fun h => hr h.1

/-! ## With one more container -/

theorem contextOf_containerOf (d : Document) (key : String) :
    (d.create (.element (containerOf key))).1.contextOf ⟨d.size⟩ = "div" := by
  have he : (d.create (.element (containerOf key))).1.element? ⟨d.size⟩ =
      some (containerOf key) := by
    rw [element?, kind?_create_self]
  rw [contextOf, he]
  rfl

/-- Filling a container with a clean fragment makes no other container. -/
theorem Clean.grows (hd : Forest d) {fragment : String} (hclean : Clean fragment) (key : String) :
    Grows d.size Unmarked (d.create (.element (containerOf key))).1
      ((d.create (.element (containerOf key))).1.appendMarkup ⟨d.size⟩ fragment) := by
  have hself : (d.create (.element (containerOf key))).1.contains ⟨d.size⟩ = true :=
    contains_create_self _
  rw [appendMarkup, if_pos hself, Document.appendFragment, contextOf_containerOf]
  exact graftAll_grows _ (hd.create _) hself (Nat.le_refl _) hclean

/-- Behind the containers that were there stand the new one and those in what it is filled with. -/
theorem containers_planted {P : Element → Prop} {d' : Document} (hd : Forest d)
    (hg : Grows d.size P (d.create (.element (containerOf key))).1 d')
    (hc : d.contains c = true) :
    (d'.appendChild c ⟨d.size⟩).containers c =
      d.containers c ++
        (markerOf key, ⟨d.size⟩) :: (d'.appendChild c ⟨d.size⟩).containers ⟨d.size⟩ := by
  have hself : (d.create (.element (containerOf key))).1.contains ⟨d.size⟩ = true :=
    contains_create_self _
  have hold : ∀ x ∈ d.descendants c,
      (d'.appendChild c ⟨d.size⟩).marker? x = d.marker? x := by
    intro x hx
    have hcx := contains_of_ancestor (hd.mem_descendants.mp hx)
    exact marker?_of_element? (by rw [element?, kind?_planted hd hg hcx, element?])
  have hown : (d'.appendChild c ⟨d.size⟩).marker? ⟨d.size⟩ = some (markerOf key) := by
    refine marker?_containerOf ?_
    rw [element?, kind?_appendChild, ← element?, hg.element?_old hself, element?, kind?_create_self]
  have hfront : (d.descendants c).filterMap
      (fun x => ((d'.appendChild c ⟨d.size⟩).marker? x).map (·, x)) = d.containers c :=
    List.filterMap_congr fun x hx => by rw [hold x hx]
  rw [containers, descendants_planted hd hg hc, List.filterMap_append, hfront,
    List.filterMap_cons, hown]
  rfl

/-- A clean fragment brings no container but its own. -/
theorem Clean.containers_appendFragment (hd : Forest d) (hc : d.contains c = true)
    {fragment : String} (hclean : Clean fragment) :
    (Dispatcher.appendFragment d c key fragment).containers c =
      d.containers c ++ [(markerOf key, ⟨d.size⟩)] := by
  have hg : Grows d.size Unmarked _ _ := hclean.grows hd key
  rw [appendFragment_eq, containers_planted hd hg hc]
  refine congrArg (_ ++ _ :: ·) (List.filterMap_eq_nil_iff.mpr fun x hx => ?_)
  rw [marker?_eq_none fun e he => element?_of_mem_planted hd hg hc hx he]
  rfl

/-- At a node that the document did not have, a clean fragment brings none at all: if the node is
one afterwards, then it is the new container or part of its content. -/
theorem Clean.containers_of_new (hd : Forest d) (hc : d.contains c = false)
    {fragment : String} (hclean : Clean fragment) :
    (Dispatcher.appendFragment d c key fragment).containers c = [] := by
  have hg : Grows d.size Unmarked _ _ := hclean.grows hd key
  have hf := hg.forest (hd.create _)
  rw [appendFragment_eq, appendChild_filled_of_new hd hg hc]
  refine List.filterMap_eq_nil_iff.mpr fun x hx => ?_
  have hbelow := hf.mem_descendants.mp hx
  have hnew : d.contains x = false := by
    by_contra hold
    have := contains_of_ancestor_old hd (fun _ => parent?_filled hd hg) hbelow (by simpa using hold)
    rw [hc] at this
    cases this
  have hne : x ≠ ⟨d.size⟩ := by
    rintro rfl
    exact parent?_ne_none_of_ancestor hbelow (parent?_filled_self hd hg)
  rw [marker?_eq_none fun e he => ?_]
  · rfl
  · refine (hg.element?_new he).resolve_left fun hold => ?_
    rw [element?, kind?_create_of_ne _ hne, kind?_eq_none hnew] at hold
    cases hold

/-! ## The list and the tree -/

/-- The nodes with a marker below `c` are those of `L`, and are children of `c`. -/
structure Lists (d : Document) (c : NodeId) (L : Log) : Prop where
  forest : Forest d
  contains : d.contains c = true
  listed : d.containers c = L
  child : ∀ m x, (m, x) ∈ L → d.parent? x = some c

namespace Lists

variable {L : Log}

/-- A node without containers below it starts an empty list. -/
theorem start (hd : Forest d) (hc : d.contains c = true)
    (hnone : ∀ x ∈ d.descendants c, d.marker? x = none) : Lists d c [] where
  forest := hd
  contains := hc
  listed := List.filterMap_eq_nil_iff.mpr fun x hx => by rw [hnone x hx]; rfl
  child _ _ h := absurd h List.not_mem_nil

theorem renderedNodes_eq (h : Lists d c L) (key : Option String) :
    d.renderedNodes c key = L.nodes key := by
  rw [Inlay.renderedNodes_eq, h.listed]

/-- Each rendered node is listed once. -/
theorem nodup_nodes (h : Lists d c L) (key : Option String) : (L.nodes key).Nodup := by
  rw [← h.renderedNodes_eq]
  exact (h.forest.nodup_descendants c).filter _

theorem marker?_of_mem (h : Lists d c L) (hx : (m, x) ∈ L) : d.marker? x = some m := by
  rw [← h.listed] at hx
  exact (mem_containers.mp hx).2

/-- A listed node is among the nodes of a key if its marker is. -/
theorem mem_nodes_some (h : Lists d c L) (hx : (m, x) ∈ L) :
    x ∈ L.nodes (some key) ↔ m = markerOf key := by
  simp only [Log.nodes, List.mem_map, List.mem_filter, decide_eq_true_eq]
  constructor
  · rintro ⟨⟨m', y⟩, ⟨hy, hm'⟩, rfl⟩
    rw [← hm']
    exact Option.some.inj ((h.marker?_of_mem hx).symm.trans (h.marker?_of_mem hy))
  · intro hm
    exact ⟨(m, x), ⟨hx, hm⟩, rfl⟩

/-! ## Taking nodes away -/

/-- Only the nodes that are taken away leave the list, for none of them hangs below another. -/
theorem removeAll (h : Lists d c L) {ns : List NodeId} (hns : ns ⊆ d.descendants c) :
    Lists (ns.foldl remove d) c (L.filter (·.2 ∉ ns)) := by
  have hgone : ∀ m x, (m, x) ∈ L → (d.isGone ns x = true ↔ x ∈ ns) := by
    intro m x hx
    rw [h.forest.isGone_iff, gone_child (h.child m x hx), or_iff_left (h.forest.not_gone hns)]
  refine ⟨h.forest.removeAll ns, (contains_removeAll ns d).trans h.contains, ?_, ?_⟩
  · rw [containers_removeAll h.forest hns, h.listed]
    refine List.filter_congr ?_
    rintro ⟨m, x⟩ hx
    rw [Bool.eq_iff_iff, Bool.not_eq_true', ← Bool.not_eq_true, hgone m x hx, decide_eq_true_iff]
  · intro m x hx
    obtain ⟨hmem, hkeep⟩ := List.mem_filter.mp hx
    rw [parent?_removeAll, if_neg (by simpa using hkeep)]
    exact h.child m x hmem

/-- Taking the rendered nodes of a key away, or all of them. -/
theorem removeRendered (h : Lists d c L) (key : Option String) :
    Lists ((d.renderedNodes c key).foldl remove d) c (L.without key) := by
  have hns : Lists _ c (L.filter (·.2 ∉ d.renderedNodes c key)) :=
    h.removeAll renderedNodes_subset_descendants
  have hkeep : L.filter (·.2 ∉ d.renderedNodes c key) = L.without key := by
    rw [h.renderedNodes_eq]
    cases key with
    | none =>
        refine List.filter_eq_nil_iff.mpr ?_
        rintro ⟨m, x⟩ hx
        have hmem : x ∈ L.nodes none := List.mem_map_of_mem hx
        simp [hmem]
    | some k =>
        refine List.filter_congr ?_
        rintro ⟨m, x⟩ hx
        simp only [h.mem_nodes_some hx]
  rwa [hkeep] at hns

/-- What is taken away before a rendering. -/
theorem prepare (h : Lists d c L) {target : Selection} (hc : target.first? = some c)
    (key : String) (o : Options) :
    Lists (Dispatcher.prepare d target key o) c (L.prepared key o.removal) := by
  rw [prepare_eq, preRemoved_of_first? hc]
  cases o.removal with
  | none => exact h
  | same => exact h.removeRendered (some key)
  | all => exact h.removeRendered none

/-! ## Adding a container -/

/-- A clean fragment adds one container, at the end. -/
theorem appendFragment (h : Lists d c L) {fragment : String} (hclean : Clean fragment) :
    Lists (Dispatcher.appendFragment d c key fragment) c (L ++ [(markerOf key, ⟨d.size⟩)]) := by
  have hg : Grows d.size Unmarked _ _ := hclean.grows h.forest key
  refine ⟨h.forest.appendContainer c key fragment, ?_, ?_, ?_⟩
  · rw [appendFragment_eq, contains_appendChild]
    exact hg.contains (contains_create _ h.contains)
  · rw [hclean.containers_appendFragment h.forest h.contains, h.listed]
  · intro m x hx
    rw [appendFragment_eq]
    rcases List.mem_append.mp hx with hx | hx
    · have hp := h.child m x hx
      rw [parent?_planted h.forest hg h.contains (contains_of_parent? hp), hp]
    · cases List.mem_singleton.mp hx
      exact parent?_planted_self h.forest hg h.contains

end Lists

end Inlay
