/-
# `Inlay.Proofs.Document.Frame` — what each operation leaves and what it changes

A node is read through four views: its kind, its parent, its children, and the
whole of it.  For each operation there is one equation per view, true of every
identifier, whether the document has such a node or not.

    create          one more node, at the end; no parent or child list changes
    modifyElement   kinds at one node
    remove c        the parent of c, and the child list that c was in
    hang p c        the same, and then the parent of c and the child list of p

`remove` and `hang` keep every kind.  None of the four takes a node away, so
`contains` can only grow.
-/
import Inlay.Document.Basic

namespace Inlay.Document

variable {d : Document} {id x p c : NodeId}

/-! ## Reading through the whole node -/

theorem contains_iff : d.contains id = true ↔ id.index < d.size := by
  simp [contains, size]

theorem node?_eq_none (h : d.contains id = false) : d.node? id = none := by
  simp only [contains, decide_eq_false_iff_not, Nat.not_lt] at h
  exact Array.getElem?_eq_none h

theorem contains_of_parent? (h : d.parent? c = some p) : d.contains c = true := by
  cases hc : d.contains c with
  | true => rfl
  | false => simp [parent?, node?_eq_none hc] at h

theorem contains_of_mem_children (h : c ∈ d.children p) : d.contains p = true := by
  cases hp : d.contains p with
  | true => rfl
  | false => simp [children, node?_eq_none hp] at h

theorem parent?_eq_none (h : d.contains id = false) : d.parent? id = none := by
  simp [parent?, node?_eq_none h]

theorem children_eq : d.children id = ((d.node? id).map (·.children)).getD [] := by
  unfold children
  cases d.node? id <;> rfl

theorem children_eq_nil (h : d.contains id = false) : d.children id = [] := by
  rw [children_eq, node?_eq_none h]
  rfl

theorem kind?_eq_none (h : d.contains id = false) : d.kind? id = none := by
  rw [kind?, node?_eq_none h]
  rfl

/-- A node is its three views. -/
theorem node?_congr {d' : Document} (hk : d'.kind? id = d.kind? id)
    (hp : d'.parent? id = d.parent? id) (hc : d'.children id = d.children id) :
    d'.node? id = d.node? id := by
  simp only [kind?, parent?, children] at hk hp hc
  cases h' : d'.node? id with
  | none =>
      cases h : d.node? id with
      | none => rfl
      | some n => simp [h', h] at hk
  | some n' =>
      cases h : d.node? id with
      | none => simp [h', h] at hk
      | some n =>
          cases n'; cases n
          simp_all

/-! ## Changing one node -/

@[simp] theorem size_modifyNode (f : Node → Node) : (d.modifyNode id f).size = d.size := by
  simp [modifyNode, size]

@[simp] theorem contains_modifyNode (f : Node → Node) :
    (d.modifyNode id f).contains x = d.contains x := by
  simp [modifyNode, contains]

theorem node?_modifyNode (f : Node → Node) :
    (d.modifyNode id f).node? x = if x = id then (d.node? x).map f else d.node? x := by
  obtain ⟨i⟩ := id
  obtain ⟨j⟩ := x
  simp only [modifyNode, node?, Array.getElem?_modify, NodeId.mk.injEq]
  by_cases h : i = j
  · subst h; simp
  · rw [if_neg h, if_neg (Ne.symm h)]

theorem kind?_modifyNode {f : Node → Node} (hf : ∀ n, (f n).kind = n.kind) :
    (d.modifyNode id f).kind? x = d.kind? x := by
  simp only [kind?, node?_modifyNode]
  split
  · cases d.node? x with
    | none => rfl
    | some n => simp [hf]
  · rfl

theorem parent?_modifyNode {f : Node → Node} (hf : ∀ n, (f n).parent = n.parent) :
    (d.modifyNode id f).parent? x = d.parent? x := by
  simp only [parent?, node?_modifyNode]
  split
  · cases d.node? x with
    | none => rfl
    | some n => simp [hf]
  · rfl

theorem children_modifyNode {f : Node → Node} (hf : ∀ n, (f n).children = n.children) :
    (d.modifyNode id f).children x = d.children x := by
  simp only [children_eq, node?_modifyNode]
  split
  · cases d.node? x with
    | none => rfl
    | some n => simp [hf]
  · rfl

/-- What changing an element does to a node. -/
def Node.onElement (f : Element → Element) (n : Node) : Node :=
  match n.kind with
  | .element e => { n with kind := .element (f e) }
  | _ => n

theorem modifyElement_eq (f : Element → Element) :
    d.modifyElement id f = d.modifyNode id (Node.onElement f) := rfl

theorem Node.parent_onElement (f : Element → Element) (n : Node) :
    (Node.onElement f n).parent = n.parent := by
  unfold Node.onElement; split <;> rfl

theorem Node.children_onElement (f : Element → Element) (n : Node) :
    (Node.onElement f n).children = n.children := by
  unfold Node.onElement; split <;> rfl

@[simp] theorem contains_modifyElement (f : Element → Element) :
    (d.modifyElement id f).contains x = d.contains x := contains_modifyNode _

@[simp] theorem parent?_modifyElement (f : Element → Element) :
    (d.modifyElement id f).parent? x = d.parent? x :=
  parent?_modifyNode (Node.parent_onElement f)

@[simp] theorem children_modifyElement (f : Element → Element) :
    (d.modifyElement id f).children x = d.children x :=
  children_modifyNode (Node.children_onElement f)

theorem node?_modifyElement_of_ne (f : Element → Element) (h : x ≠ id) :
    (d.modifyElement id f).node? x = d.node? x := by
  rw [modifyElement_eq, node?_modifyNode, if_neg h]

theorem element?_modifyElement (f : Element → Element) :
    (d.modifyElement id f).element? id = (d.element? id).map f := by
  simp only [element?, kind?, modifyElement_eq, node?_modifyNode, if_true]
  cases d.node? id with
  | none => rfl
  | some n => cases n with | mk kind _ _ => cases kind <;> rfl

/-! ## New nodes -/

@[simp] theorem size_create (k : NodeKind) : (d.create k).1.size = d.size + 1 := by
  simp [create, size]

@[simp] theorem create_snd (k : NodeKind) : (d.create k).2 = ⟨d.size⟩ := rfl

theorem node?_create (k : NodeKind) :
    (d.create k).1.node? x = if x = ⟨d.size⟩ then some ⟨k, none, []⟩ else d.node? x := by
  obtain ⟨i⟩ := x
  simp only [create, node?, Array.getElem?_push, size, NodeId.mk.injEq]

theorem contains_create (k : NodeKind) (h : d.contains x = true) :
    (d.create k).1.contains x = true := by
  rw [contains_iff] at h ⊢
  rw [size_create]
  exact Nat.lt_succ_of_lt h

theorem contains_create_self (k : NodeKind) : (d.create k).1.contains ⟨d.size⟩ = true := by
  rw [contains_iff, size_create]
  exact Nat.lt_succ_self _

theorem not_contains_size : d.contains ⟨d.size⟩ = false := by
  simp [contains, size]

@[simp] theorem parent?_create (k : NodeKind) : (d.create k).1.parent? x = d.parent? x := by
  simp only [parent?, node?_create]
  split
  · subst x; rw [node?_eq_none not_contains_size]; rfl
  · rfl

@[simp] theorem children_create (k : NodeKind) : (d.create k).1.children x = d.children x := by
  simp only [children_eq, node?_create]
  split
  · subst x; rw [node?_eq_none not_contains_size]; rfl
  · rfl

theorem kind?_create_of_ne (k : NodeKind) (h : x ≠ ⟨d.size⟩) :
    (d.create k).1.kind? x = d.kind? x := by
  simp only [kind?, node?_create, if_neg h]

theorem kind?_create_self (k : NodeKind) : (d.create k).1.kind? ⟨d.size⟩ = some k := by
  simp [kind?, node?_create]

/-! ## Taking a node away -/

theorem remove_eq_self (h : d.parent? id = none) : d.remove id = d := by
  unfold remove
  rw [h]

@[simp] theorem size_remove : (d.remove id).size = d.size := by
  unfold remove; split <;> simp

@[simp] theorem contains_remove : (d.remove id).contains x = d.contains x := by
  unfold remove; split <;> simp

@[simp] theorem kind?_remove : (d.remove id).kind? x = d.kind? x := by
  unfold remove
  split
  · rfl
  · rw [kind?_modifyNode, kind?_modifyNode] <;> exact fun _ => rfl

theorem parent?_remove : (d.remove id).parent? x = if x = id then none else d.parent? x := by
  unfold remove
  split
  case h_1 h =>
    split
    · subst x; exact h
    · rfl
  case h_2 =>
    rw [parent?_modifyNode (by intro _; rfl)]
    simp only [parent?, node?_modifyNode]
    split
    · cases d.node? x <;> rfl
    · rfl

theorem children_remove : (d.remove id).children x =
    if d.parent? id = some x then (d.children x).filter (· ≠ id) else d.children x := by
  unfold remove
  cases h : d.parent? id with
  | none => simp
  | some p =>
      have hc : (d.modifyNode id ({ · with parent := none })).children x = d.children x :=
        children_modifyNode fun _ => rfl
      simp only [children_eq, Option.some.injEq] at hc ⊢
      rw [node?_modifyNode]
      by_cases hx : x = p
      · subst hx
        rw [if_pos rfl, if_pos rfl, ← hc]
        cases (d.modifyNode id _).node? x <;> rfl
      · rw [if_neg hx, if_neg (Ne.symm hx), hc]

/-! ## Taking several nodes away -/

@[simp] theorem size_removeAll : ∀ (ns : List NodeId) (d : Document),
    (ns.foldl remove d).size = d.size
  | [], _ => rfl
  | n :: ns, d => by rw [List.foldl_cons, size_removeAll ns, size_remove]

@[simp] theorem contains_removeAll : ∀ (ns : List NodeId) (d : Document),
    (ns.foldl remove d).contains x = d.contains x
  | [], _ => rfl
  | n :: ns, d => by rw [List.foldl_cons, contains_removeAll ns, contains_remove]

@[simp] theorem kind?_removeAll : ∀ (ns : List NodeId) (d : Document),
    (ns.foldl remove d).kind? x = d.kind? x
  | [], _ => rfl
  | n :: ns, d => by rw [List.foldl_cons, kind?_removeAll ns, kind?_remove]

theorem parent?_removeAll : ∀ (ns : List NodeId) (d : Document),
    (ns.foldl remove d).parent? x = if x ∈ ns then none else d.parent? x
  | [], _ => by simp
  | n :: ns, d => by
      rw [List.foldl_cons, parent?_removeAll ns, parent?_remove]
      by_cases hn : x = n <;> by_cases hns : x ∈ ns <;> simp [hn, hns]

/-! ## Hanging a node -/

@[simp] theorem size_hang : (d.hang p c).size = d.size := by simp [hang]

@[simp] theorem contains_hang : (d.hang p c).contains x = d.contains x := by simp [hang]

@[simp] theorem kind?_hang : (d.hang p c).kind? x = d.kind? x := by
  unfold hang
  rw [kind?_modifyNode, kind?_modifyNode, kind?_remove] <;> exact fun _ => rfl

theorem parent?_hang (hc : d.contains c = true) :
    (d.hang p c).parent? x = if x = c then some p else d.parent? x := by
  unfold hang
  rw [parent?_modifyNode (by intro _; rfl)]
  by_cases hx : x = c
  · subst hx
    rw [if_pos rfl]
    simp only [parent?, node?_modifyNode, if_true]
    cases h : (d.remove x).node? x with
    | some n => rfl
    | none =>
        have : (d.remove x).contains x = true := by rw [contains_remove]; exact hc
        simp only [contains, decide_eq_true_eq] at this
        simp only [node?, Array.getElem?_eq_none_iff] at h
        omega
  · rw [if_neg hx]
    have hr : (d.remove c).parent? x = d.parent? x := by rw [parent?_remove, if_neg hx]
    rw [← hr]
    simp only [parent?, node?_modifyNode, if_neg hx]

theorem children_hang (hp : d.contains p = true) : (d.hang p c).children x =
    if x = p then (d.remove c).children x ++ [c] else (d.remove c).children x := by
  unfold hang
  have hm : ((d.remove c).modifyNode c ({ · with parent := some p })).children x =
      (d.remove c).children x := children_modifyNode fun _ => rfl
  have hin : ((d.remove c).modifyNode c ({ · with parent := some p })).contains p = true := by
    simpa using hp
  generalize (d.remove c).modifyNode c ({ · with parent := some p }) = e at hm hin ⊢
  rw [← hm]
  simp only [children_eq, node?_modifyNode]
  by_cases hx : x = p
  · subst hx
    rw [if_pos rfl, if_pos rfl]
    cases h : e.node? x with
    | some n => rfl
    | none =>
        simp only [contains, decide_eq_true_eq] at hin
        simp only [node?, Array.getElem?_eq_none_iff] at h
        omega
  · rw [if_neg hx, if_neg hx]

/-! ## Moving a node -/

theorem appendChild_cases (d : Document) (p c : NodeId) :
    (d.appendChild p c = d ∧
      (d.contains p = false ∨ d.contains c = false ∨ p = c ∨ d.isAncestor c p = true)) ∨
    (d.appendChild p c = d.hang p c ∧
      d.contains p = true ∧ d.contains c = true ∧ p ≠ c ∧ d.isAncestor c p = false) := by
  unfold appendChild
  by_cases hp : d.contains p <;> by_cases hc : d.contains c <;> by_cases hne : p = c <;>
    by_cases ha : d.isAncestor c p <;> simp_all

@[simp] theorem size_appendChild : (d.appendChild p c).size = d.size := by
  rcases appendChild_cases d p c with ⟨h, -⟩ | ⟨h, -⟩ <;> simp [h]

@[simp] theorem contains_appendChild : (d.appendChild p c).contains x = d.contains x := by
  rcases appendChild_cases d p c with ⟨h, -⟩ | ⟨h, -⟩ <;> simp [h]

@[simp] theorem kind?_appendChild : (d.appendChild p c).kind? x = d.kind? x := by
  rcases appendChild_cases d p c with ⟨h, -⟩ | ⟨h, -⟩ <;> simp [h]

end Inlay.Document
