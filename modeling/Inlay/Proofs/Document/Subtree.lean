/-
# `Inlay.Proofs.Document.Subtree` — a subtree is listed child by child

The listing keeps a stack of nodes that it has yet to come to.  The recursion

    pre id    every child c of id in order, each followed by pre c

keeps none.  They meet in one invariant: what the loop still has to list is every
node of its stack, each followed by `pre` of it (`Visits.eq_flatMap`).  It holds
of whatever function satisfies the recursion, so that the recursion says all
there is to say: on a forest it has one solution, which is the listing
(`Forest.eq_descendants_iff`).

From the recursion follows what a subtree is in the list of a larger one.  It
stands there in one piece, right behind its top (`Forest.infix_descendants`), and
what is left of the larger list when all else is taken out is the list of the
subtree (`Forest.filter_descendants`).
-/
import Inlay.Proofs.Dispatch.Reachable

namespace Inlay

namespace Document

variable {d : Document} {id a x : NodeId} {s out : List NodeId}

/-! ## The loop and the recursion -/

namespace Visits

/-- A stack whose nodes have their lists below them is listed node by node. -/
theorem of_flatMap {pre : NodeId → List NodeId} : ∀ {s : List NodeId},
    (∀ c ∈ s, d.Visits (d.children c) (pre c)) → d.Visits s (s.flatMap fun c => c :: pre c)
  | [], _ => .done
  | c :: s, h => by
      have hc := h c List.mem_cons_self
      have hs := of_flatMap fun x hx => h x (List.mem_cons_of_mem c hx)
      rw [List.flatMap_cons]
      exact .next (hc.append hs)

/-- What is left to list is every node of the stack, each followed by what the recursion gives. -/
theorem eq_flatMap {pre : NodeId → List NodeId}
    (hpre : ∀ id, pre id = (d.children id).flatMap fun c => c :: pre c) (h : d.Visits s out) :
    out = s.flatMap fun c => c :: pre c := by
  induction h with
  | done => rfl
  | @next id rest out _ ih =>
      rw [List.flatMap_append, ← hpre] at ih
      rw [ih, List.flatMap_cons, List.cons_append]

end Visits

namespace Forest

theorem visits_iff (hd : Forest d) : d.Visits (d.children id) out ↔ out = d.descendants id := by
  constructor
  · intro h
    exact h.unique (hd.visits_descendants id)
  · rintro rfl
    exact hd.visits_descendants id

theorem descendants_eq_flatMap (hd : Forest d) (id : NodeId) :
    d.descendants id = (d.children id).flatMap fun c => c :: d.descendants c :=
  hd.descendants_eq_of_visits (.of_flatMap fun c _ => hd.visits_descendants c)

/-- The listing is the one function that satisfies the recursion. -/
theorem eq_descendants_iff (hd : Forest d) {pre : NodeId → List NodeId} :
    (∀ id, pre id = (d.children id).flatMap fun c => c :: pre c) ↔ pre = d.descendants := by
  constructor
  · intro hpre
    funext id
    rw [hpre, (hd.visits_descendants id).eq_flatMap hpre]
  · rintro rfl
    exact hd.descendants_eq_flatMap

end Forest

/-! ## The text of a node -/

theorem join_flatMap {α : Type} (f : α → List String) (xs : List α) :
    String.join (xs.flatMap f) = String.join (xs.map fun x => String.join (f x)) := by
  induction xs with
  | nil => rfl
  | cons x xs ih => rw [List.flatMap_cons, String.join_append, ih, List.map_cons, String.join_cons]

/-- The text of a node is its own, and then the texts of its children. -/
theorem Forest.textContent_eq (hd : Forest d) (id : NodeId) :
    d.textContent id = d.ownText id ++ String.join ((d.children id).map d.textContent) := by
  have hbelow : (d.descendants id).map d.ownText =
      (d.children id).flatMap fun c => d.ownText c :: (d.descendants c).map d.ownText := by
    rw [hd.descendants_eq_flatMap id, List.map_flatMap]
    rfl
  rw [textContent, String.join_cons, hbelow, join_flatMap]
  rfl

/-! ## A subtree in the list of a larger one -/

namespace Forest

/-- A node stands in every list that it is in right before what is below it. -/
theorem infix_descendants (hd : Forest d) (h : d.Ancestor a x) :
    (x :: d.descendants x) <:+: d.descendants a := by
  have hchild : ∀ {p c}, d.parent? c = some p → (c :: d.descendants c) <:+: d.descendants p := by
    intro p c hp
    obtain ⟨before, after, hsplit⟩ := List.append_of_mem (hd.mem_children.mpr hp)
    rw [hd.descendants_eq_flatMap p, hsplit, List.flatMap_append, List.flatMap_cons]
    exact ⟨_, _, List.append_assoc _ _ _⟩
  induction h with
  | single hp => exact hchild hp
  | tail _ hp ih => exact (hchild hp).trans ((List.suffix_cons _ _).isInfix.trans ih)

/-- What is below a node is what a larger list has below it, in the same order. -/
theorem filter_descendants (hd : Forest d) (h : x = a ∨ d.Ancestor a x) :
    (d.descendants a).filter (d.isAncestor x) = d.descendants x := by
  have hmem : ∀ y, d.isAncestor x y = true ↔ y ∈ d.descendants x :=
    fun y => hd.isAncestor_iff.trans hd.mem_descendants.symm
  have hall : (d.descendants x).filter (d.isAncestor x) = d.descendants x :=
    List.filter_eq_self.mpr fun y hy => (hmem y).mpr hy
  rcases h with rfl | h
  · exact hall
  -- The list has every node once, so none below `x` is in the pieces around that of `x`.
  · obtain ⟨before, after, hsplit⟩ := hd.infix_descendants h
    have honce := hd.nodup_descendants a
    rw [← hsplit] at honce ⊢
    obtain ⟨honce, -, hafter⟩ := List.nodup_append.mp honce
    obtain ⟨-, hx, hbefore⟩ := List.nodup_append.mp honce
    have hnone_before : before.filter (d.isAncestor x) = [] := by
      refine List.filter_eq_nil_iff.mpr fun y hy hxy => ?_
      exact hbefore y hy y (List.mem_cons_of_mem x ((hmem y).mp hxy)) rfl
    have hnone_after : after.filter (d.isAncestor x) = [] := by
      refine List.filter_eq_nil_iff.mpr fun y hy hxy => ?_
      exact hafter y (List.mem_append_right _ (List.mem_cons_of_mem x ((hmem y).mp hxy))) y hy rfl
    have hself : ¬ d.isAncestor x x = true :=
      fun hxx => (List.nodup_cons.mp hx).1 ((hmem x).mp hxx)
    rw [List.filter_append, List.filter_append, List.filter_cons_of_neg hself, hall, hnone_before,
      hnone_after, List.nil_append, List.append_nil]

end Forest

end Document

open Document

/-- The loop that lists what is below a node ends, with what the recursion over the children gives,
which no other function satisfies.  It comes once to every node that has the node above it, and to
no other; so a node's text is its own and then the texts of its children. -/
theorem listing_is_preorder {d : Document} (hd : Reachable d) :
    (∀ pre : NodeId → List NodeId,
      (∀ id, pre id = (d.children id).flatMap fun c => c :: pre c) ↔ pre = d.descendants) ∧
    ∀ id,
      (∀ out, d.Visits (d.children id) out ↔ out = d.descendants id) ∧
      (d.descendants id).Nodup ∧ id ∉ d.descendants id ∧
      (∀ x, x ∈ d.descendants id ↔ d.isAncestor id x = true) ∧
      d.textContent id = d.ownText id ++ String.join ((d.children id).map d.textContent) := by
  have hf := hd.forest
  refine ⟨fun _ => hf.eq_descendants_iff, fun id => ⟨fun _ => hf.visits_iff,
    hf.nodup_descendants id, fun h => hf.acyclic id (hf.mem_descendants.mp h), fun x => ?_,
    hf.textContent_eq id⟩⟩
  rw [hf.mem_descendants, hf.isAncestor_iff]

/-- A paragraph of a text and an element with a text; behind it a text, and behind that one more
paragraph, which was in the page first. -/
def letterPage : Document :=
  let d := (new.createElement "p").1.appendChild root ⟨1⟩
  let d := (d.createElement "p").1.appendChild root ⟨2⟩
  let d := (d.createText "Dear ").1.appendChild ⟨2⟩ ⟨3⟩
  let d := (d.createElement "b").1.appendChild ⟨2⟩ ⟨4⟩
  let d := (d.createText "Ada").1.appendChild ⟨4⟩ ⟨5⟩
  let d := (d.createText "!").1.appendChild root ⟨6⟩
  d.appendChild root ⟨1⟩

theorem letterPage_listed : Reachable letterPage ∧
    letterPage.descendants root = [⟨2⟩, ⟨3⟩, ⟨4⟩, ⟨5⟩, ⟨6⟩, ⟨1⟩] ∧
    (letterPage.descendants root).Nodup ∧ letterPage.textContent root = "Dear Ada!" := by
  have hd : Reachable letterPage :=
    .appendChild _ _ <| .appendChild _ _ <| .createText _ <| .appendChild _ _ <| .createText _ <|
      .appendChild _ _ <| .createElement _ <| .appendChild _ _ <| .createText _ <|
      .appendChild _ _ <| .createElement _ <| .appendChild _ _ <| .createElement _ .new
  obtain ⟨hpre, hlist⟩ := listing_is_preorder hd
  have hpre := (hpre _).mpr rfl
  obtain ⟨-, honce, -, -, htext⟩ := hlist root
  refine ⟨hd, ?_, honce, ?_⟩
  · rw [hpre]
    decide
  · rw [htext]
    decide

end Inlay
