/-
# `Inlay.Proofs.Document.Pieces` — which nodes the writer comes to

The writer walks down from the root.  For every node that it comes to it writes
a piece of text, which may be empty, and for most elements an end tag behind
the content.  `pieces` keeps the node with every piece, and the pieces one
behind the other are the written text (`writeNode_eq_join`, `write_eq_join`).

To the writer a text, a comment and a doctype are leaves: it does not look for
children there.  The listing of what is below a node looks everywhere.  So the
writer comes to a node exactly if no leaf stands on the way (`mem_pieces`,
`mem_reached`), and

    the writer comes to everything below the root
      exactly if no leaf below the root has children     (`reached_all_iff`)
-/
import Inlay.Proofs.Document.Shape

namespace Inlay

/-- A kind that is written without looking for children. -/
def NodeKind.isLeaf : NodeKind → Bool
  | .root | .element _ => false
  | .text _ | .comment _ | .doctype _ => true

namespace Document

variable {d : Document} {id x p c : NodeId} {n : Nat} {parent : Option String} {hidden : Bool}

/-- Whether a node is a leaf to the writer; an identifier that names no node is none. -/
def isLeaf (d : Document) (id : NodeId) : Bool := (d.kind? id).any NodeKind.isLeaf

theorem contains_of_isLeaf (h : d.isLeaf x = true) : d.contains x = true := by
  cases hx : d.contains x with
  | true => rfl
  | false =>
      rw [isLeaf, kind?_eq_none hx] at h
      cases h

/-- What is written for a node and below it, with the node that each piece is written for. -/
def pieces (d : Document) (fuel : Nat) (parent : Option String) (hidden : Bool) (id : NodeId) :
    List (NodeId × String) :=
  match fuel with
  | 0 => []
  | fuel + 1 =>
    match d.kind? id with
    | none => []
    | some .root => (id, "") :: (d.children id).flatMap (d.pieces fuel parent hidden)
    | some (.text s) => [(id, writeText parent s)]
    | some (.comment s) => [(id, "<!--" ++ s ++ "-->")]
    | some (.doctype name) => [(id, "<!DOCTYPE " ++ name ++ ">")]
    | some (.element e) =>
      let bare := hidden || isVoid e.name
      let start := if hidden then "" else "<" ++ e.name ++ writeAttributes e.attributes ++ ">"
      let stop := if bare then "" else "</" ++ e.name ++ ">"
      (id, start) :: (d.children id).flatMap (d.pieces fuel (some e.name) bare) ++ [(id, stop)]

/-- The text of pieces. -/
def joined (ps : List (NodeId × String)) : String := String.join (ps.map (·.2))

theorem joined_cons (p : NodeId × String) (ps : List (NodeId × String)) :
    joined (p :: ps) = p.2 ++ joined ps := by
  rw [joined, List.map_cons, String.join_cons, joined]

theorem joined_append (ps qs : List (NodeId × String)) :
    joined (ps ++ qs) = joined ps ++ joined qs := by
  rw [joined, List.map_append, String.join_append, joined, joined]

theorem joined_flatMap (f : NodeId → List (NodeId × String)) : ∀ ids : List NodeId,
    joined (ids.flatMap f) = String.join (ids.map fun id => joined (f id))
  | [] => rfl
  | id :: ids => by
      rw [List.flatMap_cons, joined_append, joined_flatMap f ids, List.map_cons, String.join_cons]

/-- The writer writes the pieces. -/
theorem writeNode_eq_join (d : Document) : ∀ (n : Nat) (parent : Option String) (hidden : Bool)
    (id : NodeId), d.writeNode n parent hidden id = joined (d.pieces n parent hidden id)
  | 0, _, _, _ => rfl
  | n + 1, parent, hidden, id => by
      have hall : ∀ (parent : Option String) (hidden : Bool),
          String.join ((d.children id).map (d.writeNode n parent hidden)) =
            joined ((d.children id).flatMap (d.pieces n parent hidden)) := by
        intro parent hidden
        rw [joined_flatMap]
        exact congrArg _ (List.map_congr_left fun c _ => d.writeNode_eq_join n parent hidden c)
      have hone : ∀ t : String, joined [(id, t)] = t := by
        intro t
        rw [joined_cons]
        exact String.append_empty
      rw [writeNode, pieces]
      cases d.kind? id with
      | none => rfl
      | some kind =>
          cases kind with
          | root =>
              simp only [hall, joined_cons]
              exact String.empty_append.symm
          | element e =>
              simp only [hall, joined_cons, joined_append, hone, List.cons_append]
              cases hidden <;> cases isVoid e.name <;> simp [String.append_assoc]
          | text s | comment s | doctype s => simp only [hone]

/-- The pieces of the whole document. -/
def allPieces (d : Document) : List (NodeId × String) :=
  (d.children root).flatMap (d.pieces (d.size + 1) ((d.element? root).map (·.name)) false)

theorem write_eq_join (d : Document) : d.write = joined d.allPieces := by
  rw [write, inner, allPieces, joined_flatMap]
  exact congrArg _ (List.map_congr_left fun c _ => d.writeNode_eq_join _ _ _ c)

/-- The nodes that the writer of the whole document comes to. -/
def reached (d : Document) : List NodeId := d.allPieces.map (·.1)

/-! ## On the way down -/

/-- Going down from `id` one comes to `x` without leaving a leaf behind. -/
inductive Reaches (d : Document) : NodeId → NodeId → Prop
  | here (id : NodeId) : Reaches d id id
  | down {id c x : NodeId} :
      d.isLeaf id = false → c ∈ d.children id → Reaches d c x → Reaches d id x

theorem reaches_iff : d.Reaches id x ↔
    x = id ∨ d.isLeaf id = false ∧ ∃ c ∈ d.children id, d.Reaches c x := by
  constructor
  · intro h
    cases h with
    | here => exact .inl rfl
    | down hid hc h => exact .inr ⟨hid, _, hc, h⟩
  · rintro (rfl | ⟨hid, c, hc, h⟩)
    · exact .here _
    · exact .down hid hc h

namespace Reaches

theorem step (h : d.Reaches id p) (hp : d.isLeaf p = false) (hc : c ∈ d.children p) :
    d.Reaches id c := by
  induction h with
  | here => exact .down hp hc (.here c)
  | down hid hmem _ ih => exact .down hid hmem (ih hp hc)

/-- One comes to a node from its parent, which is then no leaf, or begins there. -/
theorem last (h : d.Reaches id c) (hd : Forest d) (hp : d.parent? c = some p) :
    c = id ∨ d.isLeaf p = false := by
  induction h with
  | here => exact .inl rfl
  | down hid hmem _ ih =>
      rcases ih hp with rfl | hleaf
      · have hlink := hd.mem_children.mp hmem
        rw [hp] at hlink
        cases hlink
        exact .inr hid
      · exact .inr hleaf

end Reaches

/-- With room enough, the pieces of a node are those of the nodes that one comes to. -/
theorem Forest.mem_pieces (hd : Forest d) : ∀ {n : Nat} {parent : Option String} {hidden : Bool}
    {id : NodeId}, d.contains id = true → d.room id ≤ n →
      (x ∈ (d.pieces n parent hidden id).map (·.1) ↔ d.Reaches id x)
  | 0, _, _, id, hid, hn => absurd (hd.room_pos hid) (Nat.not_lt_of_le hn)
  | n + 1, parent, hidden, id, hid, hn => by
      have hall : ∀ (parent : Option String) (hidden : Bool),
          x ∈ ((d.children id).flatMap (d.pieces n parent hidden)).map (·.1) ↔
            ∃ c ∈ d.children id, d.Reaches c x := by
        intro parent hidden
        rw [List.map_flatMap, List.mem_flatMap]
        refine exists_congr fun c => and_congr_right fun hc => ?_
        refine hd.mem_pieces (hd.contains_child hc) ?_
        rw [hd.room_child hc] at hn
        exact Nat.le_of_succ_le_succ hn
      rw [reaches_iff, pieces, isLeaf]
      cases hk : d.kind? id with
      | none =>
          rw [contains_iff] at hid
          simp only [kind?, node?, Option.map_eq_none_iff, Array.getElem?_eq_none_iff] at hk
          exact absurd hid (Nat.not_lt_of_le hk)
      | some kind =>
          cases kind with
          | root => simp [hall, NodeKind.isLeaf]
          | element e =>
              simp only [List.cons_append, List.map_cons, List.map_append, List.mem_cons,
                List.mem_append, hall, NodeKind.isLeaf, Option.any_some, List.map_nil,
                List.not_mem_nil, or_false, true_and]
              exact ⟨fun h => h.elim .inl Or.symm, fun h => h.imp_right .inl⟩
          | text s | comment s | doctype s => simp [NodeKind.isLeaf]

namespace Forest

theorem mem_reached (hd : Forest d) :
    x ∈ d.reached ↔ ∃ c ∈ d.children root, d.Reaches c x := by
  rw [reached, allPieces, List.map_flatMap, List.mem_flatMap]
  refine exists_congr fun c => and_congr_right fun hc => hd.mem_pieces (hd.contains_child hc) ?_
  exact Nat.le_succ_of_le (Nat.sub_le _ _)

/-- The writer comes to everything below the root exactly if no leaf there has children. -/
theorem reached_all_iff (hd : Forest d) : (∀ x ∈ d.descendants root, x ∈ d.reached) ↔
    ∀ x ∈ d.descendants root, d.isLeaf x = true → d.children x = [] := by
  constructor
  · intro hall x hx hleaf
    refine List.eq_nil_iff_forall_not_mem.mpr fun c hc => ?_
    have hlink := hd.mem_children.mp hc
    have hbelow := hd.mem_descendants.mp hx
    obtain ⟨r, hr, h⟩ := hd.mem_reached.mp (hall c (hd.mem_descendants.mpr
      (ancestor_above hlink hbelow)))
    rcases h.last hd hlink with rfl | hopen
    · -- A child of the root has the root as its parent, and `x` is below the root.
      have hroot := hd.mem_children.mp hr
      rw [hlink] at hroot
      cases hroot
      exact hd.acyclic _ hbelow
    · rw [hleaf] at hopen
      cases hopen
  · intro hleaves x hx
    have hbelow := hd.mem_descendants.mp hx
    rw [hd.mem_reached]
    clear hx
    induction hbelow with
    | single hp => exact ⟨_, hd.mem_children.mpr hp, .here _⟩
    | @tail y x hy hp ih =>
        obtain ⟨r, hr, h⟩ := ih
        have hc := hd.mem_children.mpr hp
        refine ⟨r, hr, h.step ?_ hc⟩
        by_contra hleaf
        have hnone := hleaves y (hd.mem_descendants.mpr hy) (by simpa using hleaf)
        rw [hnone] at hc
        cases hc

end Forest

end Document

end Inlay
