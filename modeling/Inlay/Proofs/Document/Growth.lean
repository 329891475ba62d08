/-
# `Inlay.Proofs.Document.Growth` — documents that only grow

Copying markup into a document adds nodes and joins texts, and does nothing
else.  `Grows n P d d'` says that `d'` comes from `d` by such steps, all of them
under nodes whose place is at least `n`, and that every element among the new
nodes satisfies `P`:

    attach p k   a new node of kind `k` becomes the last child of `p`
    join         a text under some `p` gets longer

`graftAll_grows` is the one induction over trees; everything else is read off
the two steps.  What lies below `n` is untouched (`node?_below`), nodes that
were there keep their parents, and an element of `d'` is an old one or
satisfies `P`.

The last section is about a node that is made, filled and only then hung into
the tree, as every rendered container is: the nodes that were there see nothing
but one more child of the node it hangs under (`children_planted`), and in
document order everything new comes last (`descendants_planted`).
-/
import Inlay.Document.Graft
import Inlay.Proofs.Document.Preorder

namespace Inlay.Document

variable {d d' : Document} {id x p c : NodeId} {k : NodeKind} {n : Nat} {P : Element → Prop}

theorem ext_node? (h : ∀ id, d'.node? id = d.node? id) : d' = d := by
  cases d; cases d'
  congr
  exact Array.ext_getElem? fun i => h ⟨i⟩

theorem ne_size_of_contains (h : d.contains x = true) : x ≠ ⟨d.size⟩ := by
  rintro rfl
  rw [not_contains_size] at h
  cases h

/-! ## A new last child -/

/-- Add a node as the last child of `p`. -/
def attach (d : Document) (p : NodeId) (k : NodeKind) : Document :=
  (d.create k).1.appendChild p ⟨d.size⟩

@[simp] theorem size_attach : (d.attach p k).size = d.size + 1 := by simp [attach]

theorem contains_attach_self : (d.attach p k).contains ⟨d.size⟩ = true := by
  rw [attach, contains_appendChild]
  exact contains_create_self k

theorem kind?_attach : (d.attach p k).kind? x = if x = ⟨d.size⟩ then some k else d.kind? x := by
  rw [attach, kind?_appendChild]
  split
  · next h => rw [h, kind?_create_self]
  · next h => exact kind?_create_of_ne k h

namespace Forest

theorem attach (hd : Forest d) (p : NodeId) (k : NodeKind) : Forest (d.attach p k) :=
  (hd.create k).appendChild p ⟨d.size⟩

theorem not_ancestor_size (hd : Forest d) (k : NodeKind) :
    ¬ (d.create k).1.Ancestor ⟨d.size⟩ p := by
  intro h
  have h' : d.Ancestor ⟨d.size⟩ p := ancestor_mono (fun x q hq => by rwa [parent?_create] at hq) h
  have := hd.contains_ancestor h'
  rw [not_contains_size] at this
  cases this

theorem attach_eq_hang (hd : Forest d) (hp : d.contains p = true) :
    d.attach p k = (d.create k).1.hang p ⟨d.size⟩ :=
  (hd.create k).appendChild_eq_hang (contains_create k hp) (contains_create_self k)
    (ne_size_of_contains hp) (hd.not_ancestor_size k)

theorem parent?_attach (hd : Forest d) (hp : d.contains p = true) :
    (d.attach p k).parent? x = if x = ⟨d.size⟩ then some p else d.parent? x := by
  rw [hd.attach_eq_hang hp, parent?_hang (contains_create_self k), parent?_create]

theorem children_attach (hd : Forest d) (hp : d.contains p = true) :
    (d.attach p k).children x =
      if x = p then d.children p ++ [⟨d.size⟩] else d.children x := by
  have hfresh : ∀ y, (d.children y).filter (· ≠ ⟨d.size⟩) = d.children y := by
    intro y
    refine List.filter_eq_self.mpr fun z hz => ?_
    simpa using ne_size_of_contains (hd.contains_child hz)
  rw [hd.attach_eq_hang hp, (hd.create k).children_hang (contains_create k hp), children_create,
    hfresh]
  split
  · next h => rw [h]
  · rfl

/-- The new child has no children yet. -/
theorem children_attach_self (hd : Forest d) (hp : d.contains p = true) :
    (d.attach p k).children ⟨d.size⟩ = [] := by
  rw [hd.children_attach hp, if_neg (ne_size_of_contains hp).symm,
    children_eq_nil not_contains_size]

theorem node?_attach (hd : Forest d) (hp : d.contains p = true) (hx : x ≠ ⟨d.size⟩) (hxp : x ≠ p) :
    (d.attach p k).node? x = d.node? x :=
  node?_congr (by rw [kind?_attach, if_neg hx]) (by rw [hd.parent?_attach hp, if_neg hx])
    (by rw [hd.children_attach hp, if_neg hxp])

end Forest

/-! ## Growing -/

/-- `d'` comes from `d` by new nodes and longer texts under nodes from place `n` on; the elements
among the new nodes satisfy `P`. -/
inductive Grows (n : Nat) (P : Element → Prop) (d : Document) : Document → Prop
  | refl : Grows n P d d
  | attach {d' : Document} {p : NodeId} {k : NodeKind} :
      Grows n P d d' → n ≤ p.index → d'.contains p = true → k ≠ .root →
      (∀ e, k = .element e → P e) → Grows n P d (d'.attach p k)
  | join {d' : Document} {p last : NodeId} {t s : String} :
      Grows n P d d' → n ≤ p.index → last ∈ d'.children p → d'.kind? last = some (.text t) →
      Grows n P d (d'.modifyNode last ({ · with kind := .text (t ++ s) }))

namespace Grows

theorem trans {d₁ d₂ d₃ : Document} (h : Grows n P d₁ d₂) (h' : Grows n P d₂ d₃) :
    Grows n P d₁ d₃ := by
  induction h' with
  | refl => exact h
  | attach _ hp hc hk he ih => exact .attach ih hp hc hk he
  | join _ hp hl ht ih => exact .join ih hp hl ht

theorem forest (hd : Forest d) (h : Grows n P d d') : Forest d' := by
  induction h with
  | refl => exact hd
  | attach _ _ _ _ _ ih => exact ih.attach _ _
  | join _ _ _ _ ih =>
      exact ih.congr (fun _ => parent?_modifyNode (by intro _; rfl))
        (fun _ => children_modifyNode (by intro _; rfl))

theorem size_le (h : Grows n P d d') : d.size ≤ d'.size := by
  induction h with
  | refl => exact Nat.le_refl _
  | attach _ _ _ _ _ ih => rw [size_attach]; exact Nat.le_succ_of_le ih
  | join _ _ _ _ ih => rwa [size_modifyNode]

theorem contains (h : Grows n P d d') (hx : d.contains x = true) : d'.contains x = true := by
  rw [contains_iff] at hx ⊢
  exact Nat.lt_of_lt_of_le hx h.size_le

theorem element?_join {last : NodeId} {t s : String} (h : d.kind? last = some (.text t)) :
    (d.modifyNode last ({ · with kind := .text (t ++ s) })).element? x = d.element? x := by
  by_cases hx : x = last
  · subst hx
    have : (d.modifyNode x ({ · with kind := .text (t ++ s) })).kind? x =
        some (.text (t ++ s)) := by
      simp only [kind?, node?_modifyNode, if_true] at h ⊢
      cases hn : d.node? x with
      | none => rw [hn] at h; cases h
      | some n => rfl
    simp [element?, this, h]
  · simp only [element?, kind?, node?_modifyNode, if_neg hx]

theorem element?_attach_of_ne (hx : x ≠ ⟨d.size⟩) :
    (d.attach p k).element? x = d.element? x := by
  simp only [element?, kind?_attach, if_neg hx]

/-- Elements that were there stay as they are. -/
theorem element?_old (h : Grows n P d d') (hx : d.contains x = true) :
    d'.element? x = d.element? x := by
  induction h with
  | refl => rfl
  | attach h _ _ _ _ ih =>
      rw [element?_attach_of_ne (ne_size_of_contains (h.contains hx)), ih]
  | join _ _ _ ht ih => rw [element?_join ht, ih]

/-- Every element is an old one or satisfies `P`. -/
theorem element?_new (h : Grows n P d d') {e : Element} (he : d'.element? x = some e) :
    d.element? x = some e ∨ P e := by
  induction h with
  | refl => exact .inl he
  | @attach d' p k h _ _ _ hP ih =>
      by_cases hx : x = ⟨d'.size⟩
      · subst hx
        simp only [element?, kind?_attach, if_true] at he
        cases k with
        | element e' => exact .inr (hP e (by simpa using he))
        | _ => cases he
      · rw [element?_attach_of_ne hx] at he
        exact ih he
  | join _ _ _ ht ih =>
      rw [element?_join ht] at he
      exact ih he

/-- A node that was there keeps its parent. -/
theorem parent?_old (hd : Forest d) (h : Grows n P d d') (hx : d.contains x = true) :
    d'.parent? x = d.parent? x := by
  induction h with
  | refl => rfl
  | attach h _ hp _ _ ih =>
      rw [(h.forest hd).parent?_attach hp, if_neg (ne_size_of_contains (h.contains hx)), ih]
  | join _ _ _ _ ih => rw [parent?_modifyNode (by intro _; rfl), ih]

/-- No node below place `n` hangs under one from there on. -/
theorem parent_below (hd : Forest d) (h : Grows n P d d') (hn : n ≤ d.size)
    (hin : ∀ c p, d.parent? c = some p → n ≤ p.index → n ≤ c.index) :
    ∀ c p, d'.parent? c = some p → n ≤ p.index → n ≤ c.index := by
  induction h with
  | refl => exact hin
  | attach h _ hp _ _ ih =>
      intro c q hq hle
      rw [(h.forest hd).parent?_attach hp] at hq
      split at hq
      · next hc => rw [hc]; exact Nat.le_trans hn h.size_le
      · exact ih c q hq hle
  | join _ _ _ _ ih =>
      intro c q hq hle
      rw [parent?_modifyNode (by intro _; rfl)] at hq
      exact ih c q hq hle

/-- What lies below place `n` is untouched. -/
theorem node?_below (hd : Forest d) (h : Grows n P d d') (hn : n ≤ d.size)
    (hin : ∀ c p, d.parent? c = some p → n ≤ p.index → n ≤ c.index) (hx : x.index < n) :
    d'.node? x = d.node? x := by
  induction h with
  | refl => rfl
  | @attach d' p _ h hp hc _ _ ih =>
      have hsize : x ≠ ⟨d'.size⟩ := by
        rintro rfl
        exact absurd (Nat.le_trans hn h.size_le) (Nat.not_le_of_lt hx)
      have hxp : x ≠ p := by
        rintro rfl
        exact absurd hp (Nat.not_le_of_lt hx)
      rw [(h.forest hd).node?_attach hc hsize hxp, ih]
  | @join d' p last _ _ h hp hl _ ih =>
      have hlast : n ≤ last.index :=
        h.parent_below hd hn hin last p ((h.forest hd).mem_children.mp hl) hp
      have hxl : x ≠ last := by
        rintro rfl
        exact absurd hlast (Nat.not_le_of_lt hx)
      rw [node?_modifyNode, if_neg hxl, ih]

end Grows

/-! ## Copying trees -/

open Markup (Tree Attribute)

/-- The element that is stored for an element of a tree. -/
def storedElement (name : String) (attributes : List Attribute) : Element :=
  attributes.foldl (fun e a => e.setAttribute a.key a.value) (.ofName name)

mutual

/-- Every element of a tree satisfies `P` in the form in which it is stored. -/
def Every (P : Element → Prop) : Tree → Prop
  | .element _ name attributes children contents =>
      P (storedElement name attributes) ∧ EveryOf P children ∧ EveryOf P contents
  | .document children => EveryOf P children
  | .doctype _ | .text _ | .comment _ | .instruction _ _ => True

/-- The same for several trees. -/
def EveryOf (P : Element → Prop) : List Tree → Prop
  | [] => True
  | t :: rest => Every P t ∧ EveryOf P rest

end

theorem modifyElement_create (d : Document) (e : Element) (f : Element → Element) :
    (d.create (.element e)).1.modifyElement ⟨d.size⟩ f = (d.create (.element (f e))).1 := by
  refine ext_node? fun x => ?_
  rw [modifyElement_eq, node?_modifyNode, node?_create, node?_create]
  by_cases hx : x = ⟨d.size⟩
  · simp [hx, Node.onElement]
  · simp [hx]

/-- Setting attributes of a new element is making it with them. -/
theorem setAttributes_create (d : Document) : ∀ (attributes : List Attribute) (e : Element),
    attributes.foldl (fun d' a => d'.setAttribute ⟨d.size⟩ a.key a.value)
        (d.create (.element e)).1 =
      (d.create (.element (attributes.foldl (fun e a => e.setAttribute a.key a.value) e))).1
  | [], _ => rfl
  | a :: rest, e => by
      rw [List.foldl_cons, List.foldl_cons, setAttribute, modifyElement_create]
      exact setAttributes_create d rest _

theorem graft_element (v : Markup.Vocabulary) (name : String) (attributes : List Attribute)
    (children contents : List Tree) :
    d.graft p (.element v name attributes children contents) =
      ((d.attach p (.element (storedElement name attributes))).graftAll ⟨d.size⟩ children).graftAll
        ⟨d.size⟩ contents := by
  rw [graft, attach, storedElement, ← setAttributes_create]
  rfl

theorem appendText_cases (d : Document) (p : NodeId) (s : String) :
    d.appendText p s = d ∨
    (∃ last t, (d.children p).getLast? = some last ∧ d.kind? last = some (.text t) ∧
      d.appendText p s = d.modifyNode last ({ · with kind := .text (t ++ s) })) ∨
    d.appendText p s = d.attach p (.text s) := by
  unfold appendText
  split
  · exact .inl rfl
  · cases hl : (d.children p).getLast? with
    | none => exact .inr (.inr rfl)
    | some last =>
        cases hk : d.kind? last with
        | none => exact .inr (.inr (by simp [hk, attach, createText]))
        | some kind =>
            cases kind with
            | text t => exact .inr (.inl ⟨last, t, rfl, hk, by simp [hk]⟩)
            | _ => exact .inr (.inr (by simp [hk, attach, createText]))

theorem appendText_grows (hc : d.contains p = true) (hp : n ≤ p.index) (s : String) :
    Grows n P d (d.appendText p s) := by
  rcases appendText_cases d p s with h | ⟨last, t, hl, hk, h⟩ | h
  · rw [h]; exact .refl
  · rw [h]; exact .join .refl hp (List.mem_of_getLast? hl) hk
  · rw [h]; exact .attach .refl hp hc (by simp) (by simp)

mutual

theorem graft_grows : ∀ (t : Tree) {d : Document} {p : NodeId}, Forest d → d.contains p = true →
    n ≤ p.index → Every P t → Grows n P d (d.graft p t)
  | .document children, _, _, hd, hc, hp, ht => by
      rw [graft]
      exact graftAll_grows children hd hc hp ht
  | .doctype _, _, _, _, hc, hp, _ => by
      rw [graft]
      exact .attach .refl hp hc (by simp) (by simp)
  | .text s, _, _, _, hc, hp, _ => by
      rw [graft]
      exact appendText_grows hc hp s
  | .comment _, _, _, _, hc, hp, _ => by
      rw [graft]
      exact .attach .refl hp hc (by simp) (by simp)
  | .instruction _ _, _, _, _, _, _, _ => by
      rw [graft]
      exact .refl
  | .element v name attributes children contents, d, p, hd, hc, hp, ht => by
      rw [Every] at ht
      rw [graft_element]
      have hnew : n ≤ (⟨d.size⟩ : NodeId).index :=
        Nat.le_trans hp (Nat.le_of_lt (contains_iff.mp hc))
      have h₁ : Grows n P d (d.attach p (.element (storedElement name attributes))) :=
        .attach .refl hp hc (by simp) (by rintro e ⟨rfl⟩; exact ht.1)
      have h₂ := graftAll_grows children (h₁.forest hd) contains_attach_self hnew ht.2.1
      have h₃ := graftAll_grows contents (h₂.forest (h₁.forest hd))
        (h₂.contains contains_attach_self) hnew ht.2.2
      exact h₁.trans (h₂.trans h₃)

theorem graftAll_grows : ∀ (ts : List Tree) {d : Document} {p : NodeId}, Forest d →
    d.contains p = true → n ≤ p.index → EveryOf P ts → Grows n P d (d.graftAll p ts)
  | [], _, _, _, _, _, _ => by
      rw [graftAll]
      exact .refl
  | t :: rest, _, _, hd, hc, hp, ht => by
      rw [EveryOf] at ht
      rw [graftAll]
      have h₁ := graft_grows t hd hc hp ht.1
      exact h₁.trans (graftAll_grows rest (h₁.forest hd) (h₁.contains hc) hp ht.2)

end

mutual

/-- What every stored element satisfies, every element of a tree does. -/
theorem every_of_stored (hP : ∀ name attributes, P (storedElement name attributes)) :
    ∀ t : Tree, Every P t
  | .document children => by rw [Every]; exact everyOf_of_stored hP children
  | .element _ _ _ children contents => by
      rw [Every]
      exact ⟨hP _ _, everyOf_of_stored hP children, everyOf_of_stored hP contents⟩
  | .doctype _ | .text _ | .comment _ | .instruction _ _ => by rw [Every]; trivial

theorem everyOf_of_stored (hP : ∀ name attributes, P (storedElement name attributes)) :
    ∀ ts : List Tree, EveryOf P ts
  | [] => by rw [EveryOf]; trivial
  | t :: rest => by rw [EveryOf]; exact ⟨every_of_stored hP t, everyOf_of_stored hP rest⟩

end

theorem appendMarkup_grows (hd : Forest d) (hp : n ≤ p.index)
    (hP : ∀ name attributes, P (storedElement name attributes)) (text : String) :
    Grows n P d (d.appendMarkup p text) := by
  unfold Document.appendMarkup
  split
  · next hc => exact graftAll_grows _ hd hc hp (everyOf_of_stored hP _)
  · exact .refl

namespace Forest

/-! Where the new elements do not matter. -/

theorem grows_graft (hd : Forest d) (hc : d.contains p = true) (t : Tree) :
    Grows p.index (fun _ => True) d (d.graft p t) :=
  graft_grows t hd hc (Nat.le_refl _) (every_of_stored (fun _ _ => trivial) t)

theorem grows_graftAll (hd : Forest d) (hc : d.contains p = true) (ts : List Tree) :
    Grows p.index (fun _ => True) d (d.graftAll p ts) :=
  graftAll_grows ts hd hc (Nat.le_refl _) (everyOf_of_stored (fun _ _ => trivial) ts)

theorem grows_appendMarkup (hd : Forest d) (p : NodeId) (text : String) :
    Grows p.index (fun _ => True) d (d.appendMarkup p text) :=
  appendMarkup_grows hd (Nat.le_refl _) (fun _ _ => trivial) text

theorem graft (hd : Forest d) (hc : d.contains p = true) (t : Tree) : Forest (d.graft p t) :=
  (hd.grows_graft hc t).forest hd

theorem graftAll (hd : Forest d) (hc : d.contains p = true) (ts : List Tree) :
    Forest (d.graftAll p ts) :=
  (hd.grows_graftAll hc ts).forest hd

theorem appendMarkup (hd : Forest d) (p : NodeId) (text : String) :
    Forest (d.appendMarkup p text) :=
  (hd.grows_appendMarkup p text).forest hd

end Forest

/-! ## Filling a node before it is hung

In this section `d` gets a new node of kind `k`, that node is filled, which
leads to `d'`, and at last it is hung under a node `c` of `d`. -/

/-- Where the nodes of `d` keep their parents, the way up from them stays in `d`. -/
theorem contains_of_ancestor_old (hd : Forest d)
    (hp : ∀ x, d.contains x = true → d'.parent? x = d.parent? x) {a : NodeId}
    (h : d'.Ancestor a x) (hx : d.contains x = true) : d.contains a = true := by
  induction h with
  | single h => exact hd.contains_parent ((hp _ hx).symm.trans h)
  | tail _ h ih => exact ih (hd.contains_parent ((hp _ hx).symm.trans h))

section Planted

variable (hd : Forest d) (hg : Grows d.size P (d.create k).1 d')

include hd hg

theorem node?_filled (hx : d.contains x = true) : d'.node? x = d.node? x := by
  have hin : ∀ c p, (d.create k).1.parent? c = some p → d.size ≤ p.index → d.size ≤ c.index := by
    intro c p hp hle
    rw [parent?_create] at hp
    exact absurd (contains_iff.mp (hd.contains_parent hp)) (Nat.not_lt_of_le hle)
  rw [hg.node?_below (hd.create k) (by simp) hin (contains_iff.mp hx), node?_create,
    if_neg (ne_size_of_contains hx)]

theorem parent?_filled (hx : d.contains x = true) : d'.parent? x = d.parent? x := by
  rw [parent?, node?_filled hd hg hx, parent?]

/-- The new node hangs nowhere yet. -/
theorem parent?_filled_self : d'.parent? ⟨d.size⟩ = none := by
  rw [hg.parent?_old (hd.create k) (contains_create_self k), parent?_create,
    parent?_eq_none not_contains_size]

theorem appendChild_filled (hc : d.contains c = true) :
    d'.appendChild c ⟨d.size⟩ = d'.hang c ⟨d.size⟩ := by
  refine (hg.forest (hd.create k)).appendChild_eq_hang (hg.contains (contains_create k hc))
    (hg.contains (contains_create_self k)) (ne_size_of_contains hc) fun h => ?_
  have := contains_of_ancestor_old hd (fun _ => parent?_filled hd hg) h hc
  rw [not_contains_size] at this
  cases this

/-- All that was made since is the new node, or below it. -/
theorem ancestor_of_filled (hx : d.contains x = false) (hx' : d'.contains x = true) :
    x = ⟨d.size⟩ ∨ d'.Ancestor ⟨d.size⟩ x := by
  induction hg generalizing x with
  | refl =>
      rw [contains_iff, size_create] at hx'
      have hx : ¬ x.index < d.size := by rw [← contains_iff, hx]; exact Bool.false_ne_true
      obtain ⟨i⟩ := x
      simp only at hx hx'
      exact .inl (by rw [NodeId.mk.injEq]; omega)
  | @attach d' p k' hg hp hc _ _ ih =>
      have hd' := hg.forest (hd.create k)
      have hup : ∀ y, d'.Ancestor ⟨d.size⟩ y → (d'.attach p k').Ancestor ⟨d.size⟩ y := by
        intro y hy
        refine ancestor_mono (fun z q hq => ?_) hy
        rw [hd'.parent?_attach hc, if_neg (ne_size_of_contains (contains_of_parent? hq)), hq]
      by_cases hnew : x = ⟨d'.size⟩
      · subst hnew
        have hlink : (d'.attach p k').parent? ⟨d'.size⟩ = some p := by
          rw [hd'.parent?_attach hc, if_pos rfl]
        have hfresh : d.contains p = false := by
          cases h : d.contains p with
          | false => rfl
          | true => exact absurd (contains_iff.mp h) (Nat.not_lt_of_le hp)
        rcases ih hfresh hc with rfl | h
        · exact .inr (ancestor_parent hlink)
        · exact .inr (ancestor_above hlink (hup p h))
      · have hold : d'.contains x = true := by
          rw [contains_iff, size_attach] at hx'
          rw [contains_iff]
          have hne : x.index ≠ d'.size := fun h => hnew (by cases x; exact congrArg NodeId.mk h)
          omega
        exact (ih hx hold).imp_right (hup x)
  | join hg _ hl ht ih =>
      have hsame := ih hx (by simpa using hx')
      refine hsame.imp_right (ancestor_mono fun y q hq => ?_)
      rwa [parent?_modifyNode (by intro _; rfl)]

/-- A node that the document did not have cannot take the new node: it is that one or below it, if
it is a node at all. -/
theorem appendChild_filled_of_new (hc : d.contains c = false) :
    d'.appendChild c ⟨d.size⟩ = d' := by
  refine (hg.forest (hd.create k)).appendChild_eq_self ?_
  cases hc' : d'.contains c with
  | false => exact .inl rfl
  | true => exact .inr (.inr (ancestor_of_filled hd hg hc hc'))

theorem parent?_planted (hc : d.contains c = true) (hx : d.contains x = true) :
    (d'.appendChild c ⟨d.size⟩).parent? x = d.parent? x := by
  rw [appendChild_filled hd hg hc, parent?_hang (hg.contains (contains_create_self k)),
    if_neg (ne_size_of_contains hx), parent?_filled hd hg hx]

theorem parent?_planted_self (hc : d.contains c = true) :
    (d'.appendChild c ⟨d.size⟩).parent? ⟨d.size⟩ = some c := by
  rw [appendChild_filled hd hg hc, parent?_hang (hg.contains (contains_create_self k)), if_pos rfl]

theorem kind?_planted (hx : d.contains x = true) :
    (d'.appendChild c ⟨d.size⟩).kind? x = d.kind? x := by
  rw [kind?_appendChild, kind?, node?_filled hd hg hx, kind?]

/-- All that was made since is below `c`, by way of the new node. -/
theorem ancestor_of_planted (hc : d.contains c = true) (hx : d.contains x = false)
    (hx' : (d'.appendChild c ⟨d.size⟩).contains x = true) :
    x = ⟨d.size⟩ ∨ (d'.appendChild c ⟨d.size⟩).Ancestor ⟨d.size⟩ x := by
  rw [contains_appendChild] at hx'
  refine (ancestor_of_filled hd hg hx hx').imp_right (ancestor_mono fun y q hq => ?_)
  have hne : y ≠ ⟨d.size⟩ := by
    rintro rfl
    rw [parent?_filled_self hd hg] at hq
    cases hq
  rw [appendChild_filled hd hg hc, parent?_hang (hg.contains (contains_create_self k)),
    if_neg hne, hq]

/-- The nodes that were there see one more child of `c`. -/
theorem children_planted (hc : d.contains c = true) (hx : d.contains x = true) :
    (d'.appendChild c ⟨d.size⟩).children x =
      if x = c then d.children c ++ [⟨d.size⟩] else d.children x := by
  have hfresh : (d'.children x).filter (· ≠ ⟨d.size⟩) = d.children x := by
    rw [children, node?_filled hd hg hx, ← children]
    refine List.filter_eq_self.mpr fun z hz => ?_
    simpa using ne_size_of_contains (hd.contains_child hz)
  rw [appendChild_filled hd hg hc,
    (hg.forest (hd.create k)).children_hang (hg.contains (contains_create k hc)), hfresh]
  split
  · next h => rw [h]
  · rfl

/-- In document order everything new comes last. -/
theorem descendants_planted (hc : d.contains c = true) :
    (d'.appendChild c ⟨d.size⟩).descendants c =
      d.descendants c ++ ⟨d.size⟩ :: (d'.appendChild c ⟨d.size⟩).descendants ⟨d.size⟩ := by
  have hf : Forest (d'.appendChild c ⟨d.size⟩) :=
    (hg.forest (hd.create k)).appendChild c ⟨d.size⟩
  have hold : (d'.appendChild c ⟨d.size⟩).Visits (d.children c) (d.descendants c) := by
    refine (hd.visits_descendants c).congr fun x hx => ?_
    have hbelow := hd.mem_descendants.mp hx
    rw [children_planted hd hg hc (contains_of_ancestor hbelow), if_neg]
    rintro rfl
    exact hd.acyclic x hbelow
  have hnew : (d'.appendChild c ⟨d.size⟩).Visits [⟨d.size⟩]
      (⟨d.size⟩ :: (d'.appendChild c ⟨d.size⟩).descendants ⟨d.size⟩) :=
    .next (by rw [List.append_nil]; exact hf.visits_descendants _)
  refine hf.descendants_eq_of_visits ?_
  rw [children_planted hd hg hc hc, if_pos rfl]
  exact hold.append hnew

/-- What hangs below the new node is new. -/
theorem not_contains_of_mem_planted (hc : d.contains c = true)
    (h : x ∈ (d'.appendChild c ⟨d.size⟩).descendants ⟨d.size⟩) : d.contains x = false := by
  have hf : Forest (d'.appendChild c ⟨d.size⟩) :=
    (hg.forest (hd.create k)).appendChild c ⟨d.size⟩
  cases hx : d.contains x with
  | false => rfl
  | true =>
      have := contains_of_ancestor_old hd (fun _ => parent?_planted hd hg hc)
        (hf.mem_descendants.mp h) hx
      rw [not_contains_size] at this
      cases this

/-- The elements below the new node satisfy `P`. -/
theorem element?_of_mem_planted (hc : d.contains c = true) {e : Element}
    (h : x ∈ (d'.appendChild c ⟨d.size⟩).descendants ⟨d.size⟩)
    (he : (d'.appendChild c ⟨d.size⟩).element? x = some e) : P e := by
  have hf : Forest (d'.appendChild c ⟨d.size⟩) :=
    (hg.forest (hd.create k)).appendChild c ⟨d.size⟩
  rw [element?, kind?_appendChild] at he
  rcases hg.element?_new he with he | he
  · have hne : x ≠ ⟨d.size⟩ := by
      rintro rfl
      exact hf.acyclic _ (hf.mem_descendants.mp h)
    rw [element?, kind?_create_of_ne k hne,
      kind?_eq_none (not_contains_of_mem_planted hd hg hc h)] at he
    cases he
  · exact he

end Planted

end Inlay.Document
