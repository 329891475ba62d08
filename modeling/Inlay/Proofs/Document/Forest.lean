/-
# `Inlay.Proofs.Document.Forest` — the nodes of a document form a forest

The store says twice how nodes hang together: every node names its parent, and
every node lists its children.  `Forest d` says that the two agree and that no
node is above itself:

    count     c occurs once among the children of its parent, and nowhere else
    acyclic   no node is a proper ancestor of itself

## Why climbing ends

`Climbs d id l` is the climb without a bound: the nodes above `id`, nearest
first, up to one that has no parent.  In a forest every climb of `n` steps that
has not ended yet has seen `n` different nodes (`climbs_or_full`), and a
document has only so many.  So the bounded climb of the library is the climb
(`climbs_ancestors`), and the test for an ancestor is exact (`isAncestor_iff`).

## Why the operations keep it

Nodes that are created hang nowhere, and removal only cuts.  Hanging `c` under
`p` adds one link, and a cycle would have to run through it; then `c` would be
above `p`, which is what `appendChild` tests for.
-/
import Mathlib.Logic.Relation
import Mathlib.Data.List.Nodup
import Mathlib.Data.List.Perm.Subperm
import Inlay.Proofs.Document.Frame

namespace Inlay.Document

variable {d d' : Document} {id x p c a : NodeId}

/-- `a` is a proper ancestor of `id`. -/
def Ancestor (d : Document) : NodeId → NodeId → Prop :=
  Relation.TransGen fun p c => d.parent? c = some p

theorem ancestor_parent (h : d.parent? c = some p) : d.Ancestor p c := .single h

theorem ancestor_above (h : d.parent? c = some p) (ha : d.Ancestor a p) : d.Ancestor a c :=
  .tail ha h

theorem ancestor_iff : d.Ancestor a c ↔ ∃ p, d.parent? c = some p ∧ (a = p ∨ d.Ancestor a p) := by
  constructor
  · intro h
    cases h with
    | single h => exact ⟨a, h, .inl rfl⟩
    | tail ha h => exact ⟨_, h, .inr ha⟩
  · rintro ⟨p, h, rfl | ha⟩
    · exact ancestor_parent h
    · exact ancestor_above h ha

theorem ancestor_trans (h : d.Ancestor a p) (h' : d.Ancestor p c) : d.Ancestor a c :=
  Relation.TransGen.trans h h'

/-- Of two ancestors of a node one is the other, or above it. -/
theorem ancestor_linear {b : NodeId} (ha : d.Ancestor a c) (hb : d.Ancestor b c) :
    a = b ∨ d.Ancestor a b ∨ d.Ancestor b a := by
  induction ha with
  | single hp =>
      obtain ⟨q, hq, hb⟩ := ancestor_iff.mp hb
      rw [hp] at hq
      cases hq
      exact hb.imp Eq.symm .inr
  | tail ha hp ih =>
      obtain ⟨q, hq, hb⟩ := ancestor_iff.mp hb
      rw [hp] at hq
      cases hq
      rcases hb with rfl | hb
      · exact .inr (.inl ha)
      · exact ih hb

/-- What is below a child is below the parent. -/
theorem ancestor_of_child (h : d.parent? c = some p) (hx : x = c ∨ d.Ancestor c x) :
    d.Ancestor p x := by
  rcases hx with rfl | hx
  · exact ancestor_parent h
  · exact ancestor_trans (ancestor_parent h) hx

/-- Fewer links, fewer ancestors. -/
theorem ancestor_mono (hp : ∀ x p, d'.parent? x = some p → d.parent? x = some p)
    (h : d'.Ancestor a c) : d.Ancestor a c := by
  induction h with
  | single h => exact ancestor_parent (hp _ _ h)
  | tail _ h ih => exact ancestor_above (hp _ _ h) ih

theorem parent?_ne_none_of_ancestor (h : d.Ancestor a c) : d.parent? c ≠ none := by
  obtain ⟨p, hp, -⟩ := ancestor_iff.mp h
  rw [hp]
  simp

theorem contains_of_ancestor (h : d.Ancestor a c) : d.contains c = true := by
  obtain ⟨p, hp, -⟩ := ancestor_iff.mp h
  exact contains_of_parent? hp

/-! ## Forests -/

/-- Parents and child lists agree, and no node is above itself. -/
structure Forest (d : Document) : Prop where
  count : ∀ p c, (d.children p).count c = if d.parent? c = some p then 1 else 0
  acyclic : ∀ id, ¬ d.Ancestor id id

namespace Forest

theorem mem_children (hd : Forest d) : c ∈ d.children p ↔ d.parent? c = some p := by
  rw [← List.count_pos_iff, hd.count]
  split <;> simp_all

theorem nodup_children (hd : Forest d) (p : NodeId) : (d.children p).Nodup := by
  rw [List.nodup_iff_count_le_one]
  intro c
  rw [hd.count]
  split <;> omega

/-- Every identifier in a child list names a node. -/
theorem contains_child (hd : Forest d) (h : c ∈ d.children p) : d.contains c = true :=
  contains_of_parent? (hd.mem_children.mp h)

theorem contains_parent (hd : Forest d) (h : d.parent? c = some p) : d.contains p = true :=
  contains_of_mem_children (hd.mem_children.mpr h)

theorem contains_ancestor (hd : Forest d) (h : d.Ancestor a c) : d.contains a = true := by
  induction h with
  | single h => exact hd.contains_parent h
  | tail _ _ ih => exact ih

/-- A forest is a matter of parents and child lists alone. -/
theorem congr (hd : Forest d) (hp : ∀ x, d'.parent? x = d.parent? x)
    (hc : ∀ x, d'.children x = d.children x) : Forest d' where
  count p c := by rw [hc, hp, hd.count]
  acyclic id h := hd.acyclic id (ancestor_mono (fun x p h => (hp x).symm.trans h) h)

end Forest

/-! ## Climbing -/

/-- Climbing from a node without a bound sees these nodes and ends. -/
inductive Climbs (d : Document) : NodeId → List NodeId → Prop
  | top {id : NodeId} : d.parent? id = none → Climbs d id []
  | up {id p : NodeId} {l : List NodeId} :
      d.parent? id = some p → Climbs d p l → Climbs d id (p :: l)

theorem ancestor_of_mem_climb : ∀ {n : Nat} {id : NodeId}, a ∈ d.climb n id → d.Ancestor a id
  | 0, _, h => absurd h List.not_mem_nil
  | n + 1, id, h => by
      unfold climb at h
      split at h
      · exact absurd h List.not_mem_nil
      · next p hp =>
          rcases List.mem_cons.mp h with rfl | h
          · exact ancestor_parent hp
          · exact ancestor_above hp (ancestor_of_mem_climb h)

theorem Climbs.mem_iff {l : List NodeId} (h : d.Climbs id l) : a ∈ l ↔ d.Ancestor a id := by
  induction h with
  | top hp =>
      rw [ancestor_iff, hp]
      simp
  | up hp _ ih =>
      rw [ancestor_iff, hp, List.mem_cons, ih]
      simp

/-- A climb of `n` steps has ended, or has seen `n` nodes. -/
theorem climbs_or_full (d : Document) :
    ∀ (n : Nat) (id : NodeId), d.Climbs id (d.climb n id) ∨ (d.climb n id).length = n
  | 0, _ => .inr rfl
  | n + 1, id => by
      unfold climb
      cases hp : d.parent? id with
      | none => exact .inl (.top hp)
      | some p =>
          rcases climbs_or_full d n p with h | h
          · exact .inl (.up hp h)
          · exact .inr (by simp [h])

/-- Different nodes of a document are no more than its size. -/
theorem length_le_size {l : List NodeId} (hn : l.Nodup) (hc : ∀ x ∈ l, d.contains x = true) :
    l.length ≤ d.size := by
  have hinj : (l.map NodeId.index).Nodup :=
    hn.map fun x y h => by cases x; cases y; exact congrArg NodeId.mk h
  have hsub : l.map NodeId.index ⊆ List.range d.size := by
    intro i hi
    obtain ⟨x, hx, rfl⟩ := List.mem_map.mp hi
    exact List.mem_range.mpr (contains_iff.mp (hc x hx))
  have hle := (List.Nodup.subperm hinj hsub).length_le
  rwa [List.length_map, List.length_range] at hle

namespace Forest

theorem nodup_climb (hd : Forest d) : ∀ (n : Nat) (id : NodeId), (id :: d.climb n id).Nodup
  | 0, _ => List.nodup_singleton _
  | n + 1, id => by
      refine List.nodup_cons.mpr ⟨fun h => hd.acyclic id (ancestor_of_mem_climb h), ?_⟩
      unfold climb
      split
      · exact List.nodup_nil
      · next p _ => exact nodup_climb hd n p

/-- The climb of the library is the climb without a bound. -/
theorem climbs_ancestors (hd : Forest d) (id : NodeId) : d.Climbs id (d.ancestors id) := by
  rcases climbs_or_full d d.size id with h | h
  · exact h
  · cases hp : d.parent? id with
    | none =>
        have : d.ancestors id = [] := by
          unfold ancestors
          cases d.size <;> simp [climb, hp]
        rw [this]
        exact .top hp
    | some p =>
        have hle : (id :: d.climb d.size id).length ≤ d.size := by
          refine length_le_size (hd.nodup_climb d.size id) fun x hx => ?_
          rcases List.mem_cons.mp hx with rfl | hx
          · exact contains_of_parent? hp
          · exact hd.contains_ancestor (ancestor_of_mem_climb hx)
        rw [List.length_cons, h] at hle
        exact absurd hle (Nat.not_succ_le_self _)

theorem mem_ancestors (hd : Forest d) : a ∈ d.ancestors id ↔ d.Ancestor a id :=
  (hd.climbs_ancestors id).mem_iff

theorem isAncestor_iff (hd : Forest d) : d.isAncestor a id = true ↔ d.Ancestor a id := by
  rw [isAncestor, List.contains_iff_mem, hd.mem_ancestors]

end Forest

/-! ## The operations keep the forest -/

theorem forest_new : Forest new where
  count p c := by
    have hp : new.parent? c = none := by
      obtain ⟨i⟩ := c
      cases i <;> simp [new, parent?, node?]
    have hc : new.children p = [] := by
      obtain ⟨i⟩ := p
      cases i <;> simp [new, children_eq, node?]
    simp [hp, hc]
  acyclic id h := by
    obtain ⟨p, hp, -⟩ := ancestor_iff.mp h
    obtain ⟨i⟩ := id
    cases i <;> simp [new, parent?, node?] at hp

namespace Forest

theorem create (hd : Forest d) (k : NodeKind) : Forest (d.create k).1 :=
  hd.congr (fun _ => parent?_create k) (fun _ => children_create k)

theorem modifyElement (hd : Forest d) (id : NodeId) (f : Element → Element) :
    Forest (d.modifyElement id f) :=
  hd.congr (fun _ => parent?_modifyElement f) (fun _ => children_modifyElement f)

/-- In a forest, removal takes `c` out of every child list. -/
theorem children_remove (hd : Forest d) (x c : NodeId) :
    (d.remove c).children x = (d.children x).filter (· ≠ c) := by
  rw [Document.children_remove]
  split
  · rfl
  · next h =>
      refine (List.filter_eq_self.mpr fun y hy => ?_).symm
      have : y ≠ c := by
        rintro rfl
        exact h (hd.mem_children.mp hy)
      simp [this]

theorem remove (hd : Forest d) (c : NodeId) : Forest (d.remove c) where
  count p x := by
    rw [hd.children_remove, parent?_remove]
    by_cases hx : x = c
    · subst hx
      rw [if_pos rfl, if_neg (by simp), List.count_eq_zero]
      simp
    · rw [if_neg hx, List.count_filter (by simpa using hx), hd.count]
  acyclic id h := hd.acyclic id <| ancestor_mono (fun x p hp => by
    rw [parent?_remove] at hp
    split at hp
    · cases hp
    · exact hp) h

theorem removeAll : ∀ (ns : List NodeId) {d : Document}, Forest d →
    Forest (ns.foldl Document.remove d)
  | [], _, hd => hd
  | n :: ns, _, hd => removeAll ns (hd.remove n)

theorem children_removeAll : ∀ (ns : List NodeId) {d : Document}, Forest d →
    ∀ x, (ns.foldl Document.remove d).children x = (d.children x).filter (· ∉ ns)
  | [], _, _, x => by simp
  | n :: ns, d, hd, x => by
      rw [List.foldl_cons, children_removeAll ns (hd.remove n), hd.children_remove,
        List.filter_filter]
      exact List.filter_congr fun y _ => by simp [not_or, Bool.and_comm]

theorem children_hang (hd : Forest d) (hp : d.contains p = true) (x c : NodeId) :
    (d.hang p c).children x =
      if x = p then (d.children x).filter (· ≠ c) ++ [c] else (d.children x).filter (· ≠ c) := by
  rw [Document.children_hang hp, hd.children_remove]

end Forest

/-- A way up after `c` was hung under `p` either existed before or runs through the new link: then
it begins at `c` or below and ends at `p` or above. -/
theorem ancestor_hang (hc : d.contains c = true) (h : (d.hang p c).Ancestor a x) :
    d.Ancestor a x ∨ ((x = c ∨ d.Ancestor c x) ∧ (a = p ∨ d.Ancestor a p)) := by
  induction h with
  | @single x h =>
      rw [parent?_hang hc] at h
      split at h
      · next hx => exact .inr ⟨.inl hx, .inl (Option.some.inj h).symm⟩
      · exact .inl (ancestor_parent h)
  | @tail b x _ h ih =>
      rw [parent?_hang hc] at h
      split at h
      · next hx =>
          cases h
          rcases ih with ih | ⟨-, ih⟩
          · exact .inr ⟨.inl hx, .inr ih⟩
          · exact .inr ⟨.inl hx, ih⟩
      · rcases ih with ih | ⟨hb, ih⟩
        · exact .inl (ancestor_above h ih)
        · refine .inr ⟨.inr ?_, ih⟩
          rcases hb with rfl | hb
          · exact ancestor_parent h
          · exact ancestor_above h hb

namespace Forest

theorem hang (hd : Forest d) (hp : d.contains p = true) (hc : d.contains c = true)
    (hne : p ≠ c) (ha : ¬ d.Ancestor c p) : Forest (d.hang p c) where
  count q x := by
    rw [hd.children_hang hp, parent?_hang hc]
    have hcount : ((d.children q).filter (· ≠ c)).count x =
        if x = c then 0 else (d.children q).count x := by
      split
      · next hx => rw [List.count_eq_zero, hx]; simp
      · next hx => exact List.count_filter (by simpa using hx)
    by_cases hx : x = c
    · subst hx
      by_cases hq : q = p
      · rw [if_pos hq, List.count_append, hcount, if_pos rfl, hq]; simp
      · rw [if_neg hq, hcount, if_pos rfl]; simp [Ne.symm hq]
    · rw [if_neg hx] at hcount ⊢
      split
      · rw [List.count_append, hcount, hd.count, List.count_singleton]; simp [Ne.symm hx]
      · rw [hcount, hd.count]
  acyclic id h := by
    rcases ancestor_hang hc h with h | ⟨hlow, hhigh⟩
    · exact hd.acyclic id h
    · refine ha ?_
      rcases hlow with rfl | hlow <;> rcases hhigh with hhigh | hhigh
      · exact absurd hhigh.symm hne
      · exact hhigh
      · exact hhigh ▸ hlow
      · exact ancestor_trans hlow hhigh

theorem appendChild (hd : Forest d) (p c : NodeId) : Forest (d.appendChild p c) := by
  rcases appendChild_cases d p c with ⟨h, -⟩ | ⟨h, hp, hc, hne, ha⟩
  · rwa [h]
  · rw [h]
    refine hd.hang hp hc hne fun hanc => ?_
    rw [hd.isAncestor_iff.mpr hanc] at ha
    cases ha

/-- An append that would leave the document, or close a cycle, does nothing. -/
theorem appendChild_eq_self (hd : Forest d)
    (h : d.contains p = false ∨ d.contains c = false ∨ p = c ∨ d.Ancestor c p) :
    d.appendChild p c = d := by
  rcases appendChild_cases d p c with ⟨h', -⟩ | ⟨-, hp, hc, hne, ha⟩
  · exact h'
  · rcases h with h | h | h | h
    · rw [h] at hp; cases hp
    · rw [h] at hc; cases hc
    · exact absurd h hne
    · rw [hd.isAncestor_iff.mpr h] at ha; cases ha

/-- Appending an existing node that is neither the parent nor above it hangs it there. -/
theorem appendChild_eq_hang (hd : Forest d) (hp : d.contains p = true) (hc : d.contains c = true)
    (hne : p ≠ c) (ha : ¬ d.Ancestor c p) : d.appendChild p c = d.hang p c := by
  rcases appendChild_cases d p c with ⟨-, h⟩ | ⟨h, -⟩
  · rw [hp, hc, hd.isAncestor_iff] at h
    simp [hne, ha] at h
  · exact h

end Forest

end Inlay.Document
