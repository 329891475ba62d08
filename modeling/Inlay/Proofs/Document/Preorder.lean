/-
# `Inlay.Proofs.Document.Preorder` — listing a subtree

`Visits d s out` is the stack loop without a bound: started on the stack `s` it
lists `out` and ends.

    [] lists nothing
    id :: rest lists id, and then what (children of id) ++ rest lists

The nodes of a stack are `Apart` when none is twice there or above another.
A step of the loop keeps that (`apart_step`), so in a forest no node is listed
twice, and as in climbing a run of `n` steps that has not ended has seen `n`
nodes.  Hence the bounded loop of the library is the loop
(`visits_descendants`), and it lists exactly the nodes below (`mem_descendants`),
a node before what is below it and before what is in later branches (`Precedes`).

The last sections say how the list changes when nodes are taken away and when a
node gets one more child.
-/
import Inlay.Proofs.Document.Forest

namespace Inlay.Document

variable {d d' : Document} {id x p c r : NodeId}

/-! ## The loop without a bound -/

/-- The stack loop lists these nodes and ends. -/
inductive Visits (d : Document) : List NodeId → List NodeId → Prop
  | done : Visits d [] []
  | next {id : NodeId} {rest out : List NodeId} :
      Visits d (d.children id ++ rest) out → Visits d (id :: rest) (id :: out)

namespace Visits

variable {s t out out' : List NodeId}

theorem unique (h : d.Visits s out) (h' : d.Visits s out') : out = out' := by
  induction h generalizing out' with
  | done => cases h'; rfl
  | next _ ih => cases h' with | next h' => rw [ih h']

theorem append (h : d.Visits s out) (h' : d.Visits t out') : d.Visits (s ++ t) (out ++ out') := by
  induction h with
  | done => exact h'
  | next _ ih =>
      rw [List.append_assoc] at ih
      exact .next ih

/-- The loop reads no more than the child lists of what it lists. -/
theorem congr (h : d.Visits s out) (hc : ∀ x ∈ out, d'.children x = d.children x) :
    d'.Visits s out := by
  induction h with
  | done => exact .done
  | next _ ih =>
      refine .next ?_
      rw [hc _ List.mem_cons_self]
      exact ih fun x hx => hc x (List.mem_cons_of_mem _ hx)

theorem subset (h : d.Visits s out) : s ⊆ out := by
  induction h with
  | done => exact fun _ h => h
  | next _ ih =>
      intro x hx
      rcases List.mem_cons.mp hx with rfl | hx
      · exact List.mem_cons_self
      · exact List.mem_cons_of_mem _ (ih (List.mem_append_right _ hx))

theorem child_mem (h : d.Visits s out) (hp : p ∈ out) (hc : c ∈ d.children p) : c ∈ out := by
  induction h with
  | done => exact absurd hp List.not_mem_nil
  | next h ih =>
      rcases List.mem_cons.mp hp with rfl | hp
      · exact List.mem_cons_of_mem _ (h.subset (List.mem_append_left _ hc))
      · exact List.mem_cons_of_mem _ (ih hp)

end Visits

/-! ## The bound -/

/-- What is listed stands on the stack or below it. -/
theorem of_mem_visit (hd : Forest d) : ∀ {n : Nat} {s : List NodeId},
    x ∈ d.visit n s → ∃ r ∈ s, x = r ∨ d.Ancestor r x
  | 0, _, h => absurd h List.not_mem_nil
  | _ + 1, [], h => absurd h List.not_mem_nil
  | n + 1, id :: rest, h => by
      rcases List.mem_cons.mp h with rfl | h
      · exact ⟨x, List.mem_cons_self, .inl rfl⟩
      · obtain ⟨r, hr, hx⟩ := of_mem_visit hd h
        rcases List.mem_append.mp hr with hr | hr
        · have hbelow := ancestor_of_child (hd.mem_children.mp hr) hx
          exact ⟨id, List.mem_cons_self, .inr hbelow⟩
        · exact ⟨r, List.mem_cons_of_mem _ hr, hx⟩

/-- A run of `n` steps has ended, or has listed `n` nodes. -/
theorem visits_or_full (d : Document) : ∀ (n : Nat) (s : List NodeId),
    d.Visits s (d.visit n s) ∨ (d.visit n s).length = n
  | 0, _ => .inr rfl
  | _ + 1, [] => .inl .done
  | n + 1, id :: rest => by
      rcases visits_or_full d n (d.children id ++ rest) with h | h
      · exact .inl (.next h)
      · exact .inr (congrArg (· + 1) h)

/-- No node is twice there, and none is above another. -/
def Apart (d : Document) (s : List NodeId) : Prop :=
  s.Pairwise fun x y => x ≠ y ∧ ¬ d.Ancestor x y ∧ ¬ d.Ancestor y x

theorem apart_children (hd : Forest d) (p : NodeId) : d.Apart (d.children p) := by
  have hsib : ∀ x ∈ d.children p, ∀ y ∈ d.children p, ¬ d.Ancestor x y := by
    intro x hx y hy h
    obtain ⟨q, hq, ha⟩ := ancestor_iff.mp h
    have hxp := hd.mem_children.mp hx
    rw [hd.mem_children.mp hy] at hq
    cases hq
    rcases ha with rfl | ha
    · exact hd.acyclic x (ancestor_parent hxp)
    · exact hd.acyclic x (ancestor_above hxp ha)
  exact (hd.nodup_children p).imp_of_mem fun hx hy hne => ⟨hne, hsib _ hx _ hy, hsib _ hy _ hx⟩

theorem apart_step {rest : List NodeId} (hd : Forest d) (h : d.Apart (id :: rest)) :
    d.Apart (d.children id ++ rest) := by
  obtain ⟨hid, hrest⟩ := List.pairwise_cons.mp h
  refine List.pairwise_append.mpr ⟨apart_children hd id, hrest, fun x hx y hy => ?_⟩
  obtain ⟨hne, hdown, hup⟩ := hid y hy
  have hlink := hd.mem_children.mp hx
  refine ⟨?_, fun h => hdown (ancestor_trans (ancestor_parent hlink) h), fun h => ?_⟩
  · rintro rfl
    exact hdown (ancestor_parent hlink)
  · obtain ⟨q, hq, ha⟩ := ancestor_iff.mp h
    rw [hlink] at hq
    cases hq
    rcases ha with rfl | ha
    · exact hne rfl
    · exact hup ha

theorem nodup_visit (hd : Forest d) : ∀ (n : Nat) (s : List NodeId), d.Apart s →
    (d.visit n s).Nodup
  | 0, _, _ => List.nodup_nil
  | _ + 1, [], _ => List.nodup_nil
  | n + 1, id :: rest, hs => by
      refine List.nodup_cons.mpr ⟨fun h => ?_, nodup_visit hd n _ (apart_step hd hs)⟩
      obtain ⟨r, hr, hx⟩ := of_mem_visit hd h
      rcases List.mem_append.mp hr with hr | hr
      · exact hd.acyclic id (ancestor_of_child (hd.mem_children.mp hr) hx)
      · obtain ⟨hne, -, hup⟩ := (List.pairwise_cons.mp hs).1 r hr
        rcases hx with rfl | hx
        · exact hne rfl
        · exact hup hx

namespace Forest

theorem ancestor_of_mem_visit (hd : Forest d) {n : Nat} (h : x ∈ d.visit n (d.children id)) :
    d.Ancestor id x := by
  obtain ⟨r, hr, hx⟩ := of_mem_visit hd h
  exact ancestor_of_child (hd.mem_children.mp hr) hx

theorem nodup_descendants (hd : Forest d) (id : NodeId) : (d.descendants id).Nodup :=
  nodup_visit hd _ _ (apart_children hd id)

/-- The listing of the library is the listing without a bound. -/
theorem visits_descendants (hd : Forest d) (id : NodeId) :
    d.Visits (d.children id) (d.descendants id) := by
  rcases visits_or_full d d.size (d.children id) with h | h
  · exact h
  · cases hid : d.contains id with
    | false =>
        have hc : d.children id = [] := by rw [children_eq, node?_eq_none hid]; rfl
        have : d.descendants id = [] := by
          unfold descendants
          rw [hc]
          cases d.size <;> rfl
        rw [hc, this]
        exact .done
    | true =>
        have hbelow : ∀ x ∈ d.descendants id, d.Ancestor id x :=
          fun x hx => hd.ancestor_of_mem_visit hx
        have hle : (id :: d.descendants id).length ≤ d.size := by
          refine length_le_size ?_ fun x hx => ?_
          · exact List.nodup_cons.mpr
              ⟨fun hx => hd.acyclic id (hbelow id hx), hd.nodup_descendants id⟩
          · rcases List.mem_cons.mp hx with rfl | hx
            · exact hid
            · exact contains_of_ancestor (hbelow x hx)
        rw [List.length_cons, descendants, h] at hle
        exact absurd hle (Nat.not_succ_le_self _)

theorem mem_descendants (hd : Forest d) : x ∈ d.descendants id ↔ d.Ancestor id x := by
  constructor
  · exact hd.ancestor_of_mem_visit
  · intro h
    have hv := hd.visits_descendants id
    induction h with
    | single hp => exact hv.subset (hd.mem_children.mpr hp)
    | tail _ hp ih => exact hv.child_mem ih (hd.mem_children.mpr hp)

theorem descendants_eq_of_visits (hd : Forest d) {out : List NodeId}
    (h : d.Visits (d.children id) out) : d.descendants id = out :=
  (hd.visits_descendants id).unique h

end Forest

/-! ## The order of the list -/

/-- `x` and `y` are in branches of one node, that of `x` before that of `y`. -/
def Beside (d : Document) (x y : NodeId) : Prop :=
  ∃ p a b, [a, b].Sublist (d.children p) ∧
    (x = a ∨ d.Ancestor a x) ∧ (y = b ∨ d.Ancestor b y)

/-- Document order: `x` is above `y`, or beside it and first. -/
def Precedes (d : Document) (x y : NodeId) : Prop := d.Ancestor x y ∨ d.Beside x y

theorem beside_children (p : NodeId) : (d.children p).Pairwise d.Beside :=
  List.pairwise_iff_forall_sublist.mpr fun {a b} h => ⟨p, a, b, h, .inl rfl, .inl rfl⟩

theorem Beside.below_left (h : d.Beside r x) (hr : p = r ∨ d.Ancestor r p) : d.Beside p x := by
  obtain ⟨q, a, b, hab, ha, hb⟩ := h
  refine ⟨q, a, b, hab, ?_, hb⟩
  rcases hr with rfl | hr
  · exact ha
  · rcases ha with rfl | ha
    · exact .inr hr
    · exact .inr (ancestor_trans ha hr)

theorem Beside.below_right (h : d.Beside x r) (hr : p = r ∨ d.Ancestor r p) : d.Beside x p := by
  obtain ⟨q, a, b, hab, ha, hb⟩ := h
  refine ⟨q, a, b, hab, ha, ?_⟩
  rcases hr with rfl | hr
  · exact hb
  · rcases hb with rfl | hb
    · exact .inr hr
    · exact .inr (ancestor_trans hb hr)

/-- What the loop lists is in document order, if the stack is. -/
theorem pairwise_visit (hd : Forest d) : ∀ (n : Nat) (s : List NodeId), s.Pairwise d.Beside →
    (d.visit n s).Pairwise d.Precedes
  | 0, _, _ => .nil
  | _ + 1, [], _ => .nil
  | n + 1, id :: rest, hs => by
      obtain ⟨hid, hrest⟩ := List.pairwise_cons.mp hs
      have hbelow : ∀ c ∈ d.children id, d.Ancestor id c :=
        fun c hc => ancestor_parent (hd.mem_children.mp hc)
      have hstack : (d.children id ++ rest).Pairwise d.Beside :=
        List.pairwise_append.mpr ⟨beside_children id, hrest,
          fun c hc r hr => (hid r hr).below_left (.inr (hbelow c hc))⟩
      refine List.pairwise_cons.mpr ⟨fun x hx => ?_, pairwise_visit hd n _ hstack⟩
      obtain ⟨r, hr, hx⟩ := of_mem_visit hd hx
      rcases List.mem_append.mp hr with hr | hr
      · exact .inl (ancestor_of_child (hd.mem_children.mp hr) hx)
      · exact .inr ((hid r hr).below_right hx)

/-- The nodes below a node are listed in document order. -/
theorem Forest.pairwise_descendants (hd : Forest d) (id : NodeId) :
    (d.descendants id).Pairwise d.Precedes :=
  pairwise_visit hd _ _ (beside_children id)

/-! ## After nodes were taken away -/

/-- Taken out of the tree by the removal of `ns`: one of them, or below one. -/
def Gone (d : Document) (ns : List NodeId) (x : NodeId) : Prop :=
  ∃ n ∈ ns, x = n ∨ d.Ancestor n x

theorem gone_child {ns : List NodeId} (hp : d.parent? c = some p) :
    d.Gone ns c ↔ c ∈ ns ∨ d.Gone ns p := by
  constructor
  · rintro ⟨n, hn, rfl | h⟩
    · exact .inl hn
    · obtain ⟨q, hq, ha⟩ := ancestor_iff.mp h
      rw [hp] at hq
      cases hq
      exact .inr ⟨n, hn, ha.imp Eq.symm fun h => h⟩
  · rintro (hc | ⟨n, hn, hx⟩)
    · exact ⟨c, hc, .inl rfl⟩
    · refine ⟨n, hn, .inr ?_⟩
      rcases hx with rfl | hx
      · exact ancestor_parent hp
      · exact ancestor_above hp hx

open Classical in
/-- After the removal the loop lists what it listed, less what is gone. -/
theorem Visits.removeAll (hd : Forest d) (ns : List NodeId) {s out : List NodeId}
    (h : d.Visits s out) :
    (ns.foldl remove d).Visits (s.filter (¬ d.Gone ns ·)) (out.filter (¬ d.Gone ns ·)) := by
  induction h with
  | done => exact .done
  | @next id rest out _ ih =>
      rw [List.filter_append] at ih
      have hchild : ∀ c ∈ d.children id, (d.Gone ns c ↔ c ∈ ns ∨ d.Gone ns id) :=
        fun c hc => gone_child (hd.mem_children.mp hc)
      by_cases hid : d.Gone ns id
      · have hnil : (d.children id).filter (¬ d.Gone ns ·) = [] := by
          refine List.filter_eq_nil_iff.mpr fun c hc => ?_
          simp [hchild c hc, hid]
        rw [hnil] at ih
        simpa [List.filter_cons, hid] using ih
      · have hkept : (d.children id).filter (¬ d.Gone ns ·) = (ns.foldl remove d).children id := by
          rw [Forest.children_removeAll ns hd]
          refine List.filter_congr fun c hc => ?_
          simp [hchild c hc, hid]
        rw [hkept] at ih
        simpa [List.filter_cons, hid] using Visits.next ih

open Classical in
theorem Forest.descendants_removeAll (hd : Forest d) (ns : List NodeId) (hid : ¬ d.Gone ns id) :
    (ns.foldl Document.remove d).descendants id = (d.descendants id).filter (¬ d.Gone ns ·) := by
  refine (Forest.removeAll ns hd).descendants_eq_of_visits ?_
  have h : d.Visits (id :: []) (id :: d.descendants id) :=
    .next (by rw [List.append_nil]; exact hd.visits_descendants id)
  have h' := h.removeAll hd ns
  simp only [List.filter_cons, hid, not_false_eq_true, decide_true, if_true, List.filter_nil] at h'
  cases h' with
  | next h' => rwa [List.append_nil] at h'

end Inlay.Document
