/-
# `Inlay.Proofs.Selector.Matching` — what a row of compounds matches

A row of compounds matches a node if there are nodes for all its compounds, the
last of them that node, each of them linked to the next as the combinator
between the two says:

    A > B     the node for A is the parent of the node for B
    A   B     the node for A is a proper ancestor of the node for B

Matching goes from right to left and tries, for a descendant combinator, every
ancestor in turn, the nearest first.  The first one that fits need not lead to a
match where another one does, so the row is not followed by what fits but by what
has a match above it: `upward_matches` says of a row that is cut in two that the
left part climbs from a node, and that the right part runs down from there.  The
cut moves along the row by one compound at a time.

A listing is filtered by what matches, so it has every node once and in document
order, however many alternatives match it.
-/
import Inlay.Proofs.Dispatch.Reachable
import Inlay.Selector.Reader

namespace Inlay

open Document

variable {d : Document} {x y z id : NodeId} {k : Combinator} {c : Compound}
  {acc rest : List (Combinator × Compound)}

/-! ## Rows that run down -/

/-- `y` is below `x` as the combinator between their compounds says. -/
def Combinator.Links (d : Document) : Combinator → NodeId → NodeId → Prop
  | .child, x, y => d.parent? y = some x
  | .descendant, x, y => d.Ancestor x y

/-- From `x` there are nodes below each other for the compounds, the last of them `z`. -/
inductive RunsDown (d : Document) : NodeId → List (Combinator × Compound) → NodeId → Prop
  | done {x : NodeId} : RunsDown d x [] x
  | next {x y z : NodeId} {k : Combinator} {c : Compound} {rest : List (Combinator × Compound)} :
      k.Links d x y → c.matchesNode d y = true → RunsDown d y rest z →
      RunsDown d x ((k, c) :: rest) z

namespace Complex

/-- The nodes `n 0`, `n 1` and so on fit the compounds of the row, and the last one is `id`. -/
structure Fits (d : Document) (row : Complex) (n : Nat → NodeId) (id : NodeId) : Prop where
  first : row.first.matchesNode d (n 0) = true
  next : ∀ i (h : i < row.rest.length), row.rest[i].2.matchesNode d (n (i + 1)) = true
  links : ∀ i (h : i < row.rest.length), row.rest[i].1.Links d (n i) (n (i + 1))
  last : n row.rest.length = id

end Complex

theorem runsDown_of_nodes : ∀ {rest : List (Combinator × Compound)} {n : Nat → NodeId},
    (∀ i (h : i < rest.length), rest[i].2.matchesNode d (n (i + 1)) = true) →
    (∀ i (h : i < rest.length), rest[i].1.Links d (n i) (n (i + 1))) →
    RunsDown d (n 0) rest (n rest.length)
  | [], _, _, _ => .done
  | (_, _) :: _, n, hnext, hlinks =>
      .next (hlinks 0 (Nat.zero_lt_succ _)) (hnext 0 (Nat.zero_lt_succ _))
        (runsDown_of_nodes (n := fun i => n (i + 1))
          (fun i h => hnext (i + 1) (Nat.succ_lt_succ h))
          (fun i h => hlinks (i + 1) (Nat.succ_lt_succ h)))

theorem RunsDown.nodes (h : RunsDown d x rest z) : ∃ n : Nat → NodeId, n 0 = x ∧
    (∀ i (h : i < rest.length), rest[i].2.matchesNode d (n (i + 1)) = true) ∧
    (∀ i (h : i < rest.length), rest[i].1.Links d (n i) (n (i + 1))) ∧ n rest.length = z := by
  induction h with
  | @done x =>
      exact ⟨fun _ => x, rfl, fun i h => absurd h (Nat.not_lt_zero i),
        fun i h => absurd h (Nat.not_lt_zero i), rfl⟩
  | @next x y z _ _ _ hk hc _ ih =>
      obtain ⟨n, rfl, hnext, hlinks, hlast⟩ := ih
      refine ⟨fun i => if i = 0 then x else n (i - 1), rfl, fun i h => ?_, fun i h => ?_, hlast⟩
      · cases i with
        | zero => exact hc
        | succ i => exact hnext i (Nat.lt_of_succ_lt_succ h)
      · cases i with
        | zero => exact hk
        | succ i => exact hlinks i (Nat.lt_of_succ_lt_succ h)

theorem Complex.fits_iff {row : Complex} : (∃ n, row.Fits d n id) ↔
    ∃ x, row.first.matchesNode d x = true ∧ RunsDown d x row.rest id := by
  constructor
  · rintro ⟨n, h⟩
    exact ⟨n 0, h.first, h.last ▸ runsDown_of_nodes h.next h.links⟩
  · rintro ⟨x, hx, h⟩
    obtain ⟨n, rfl, hnext, hlinks, hlast⟩ := h.nodes
    exact ⟨n, hx, hnext, hlinks, hlast⟩

/-! ## Climbing a row -/

namespace Complex

/-- One step up: any node that is linked as the combinator says, if it has a match above it. -/
theorem climbs_cons (hd : Forest d) : climbs d ((k, c) :: acc) y = true ↔
    ∃ x, k.Links d x y ∧ c.matchesNode d x = true ∧ climbs d acc x = true := by
  cases k with
  | child =>
      simp only [climbs, Combinator.Links]
      cases hp : d.parent? y with
      | none => simp
      | some p => simp
  | descendant => simp [climbs, Combinator.Links, hd.mem_ancestors]

/-- The row `acc, first, rest` cut behind `first`: `acc` is climbed from a node that matches
`first`, and `rest` runs down from it. -/
theorem upward_matches (hd : Forest d) : ∀ (rest : List (Combinator × Compound))
    (first : Compound) (acc : List (Combinator × Compound)),
    ((upward first acc rest).2.matchesNode d id = true ∧
      climbs d (upward first acc rest).1 id = true) ↔
    ∃ x, first.matchesNode d x = true ∧ climbs d acc x = true ∧ RunsDown d x rest id
  | [], first, acc => by
      constructor
      · rintro ⟨hm, hc⟩
        exact ⟨id, hm, hc, .done⟩
      · rintro ⟨x, hm, hc, h⟩
        cases h
        exact ⟨hm, hc⟩
  | (k, c) :: rest, first, acc => by
      rw [upward, upward_matches hd rest c ((k, first) :: acc)]
      constructor
      · rintro ⟨y, hc, hclimb, hdown⟩
        obtain ⟨x, hk, hfirst, hacc⟩ := (climbs_cons hd).mp hclimb
        exact ⟨x, hfirst, hacc, .next hk hc hdown⟩
      · rintro ⟨x, hfirst, hacc, h⟩
        cases h with
        | next hk hc hdown => exact ⟨_, hc, (climbs_cons hd).mpr ⟨x, hk, hfirst, hacc⟩, hdown⟩

theorem matchesNode_iff (hd : Forest d) {row : Complex} :
    row.matchesNode d id = true ↔ ∃ n, row.Fits d n id := by
  rw [fits_iff, matchesNode, Bool.and_eq_true, upward_matches hd]
  simp [climbs]

end Complex

/-! ## Groups and listings -/

theorem Selector.matchesNode_iff (hd : Forest d) {selector : Selector} :
    selector.matchesNode d id = true ↔ ∃ row ∈ selector.groups, ∃ n, row.Fits d n id := by
  simp only [Selector.matchesNode, List.any_eq_true, Complex.matchesNode_iff hd]

/-- A selector matches a node if for one of its rows there are nodes for all the compounds, the last
one that node, each the parent or a proper ancestor of the next as the row says.  What is found
under a text below a node is then all that is below it and is matched, each node once and in
document order; and nothing if the text is no selector. -/
theorem matching_is_declarative (hd : Reachable d) :
    (∀ (selector : Selector) id,
      selector.matchesNode d id = true ↔ ∃ row ∈ selector.groups, ∃ n, row.Fits d n id) ∧
    ∀ scope text,
      (∀ selector, Selector.read text = .ok selector → ∀ x, x ∈ (d.find scope text).nodes ↔
        d.Ancestor scope x ∧ ∃ row ∈ selector.groups, ∃ n, row.Fits d n x) ∧
      (∀ err, Selector.read text = .error err → (d.find scope text).nodes = []) ∧
      (d.find scope text).nodes.Pairwise d.Precedes ∧ (d.find scope text).nodes.Nodup := by
  have hf := hd.forest
  refine ⟨fun _ _ => Selector.matchesNode_iff hf, fun scope text => ?_⟩
  have hordered := hf.pairwise_descendants scope
  have honce := hf.nodup_descendants scope
  unfold Document.find
  cases hread : Selector.read text with
  | error err => exact ⟨by rintro _ ⟨⟩, fun _ _ => rfl, .nil, .nil⟩
  | ok selector =>
      refine ⟨?_, by rintro _ ⟨⟩, hordered.filter _, honce.filter _⟩
      rintro _ ⟨⟩ x
      rw [List.mem_filter, hf.mem_descendants, Selector.matchesNode_iff hf]

/-- A page with a new element in the last one. -/
def nest (d : Document) (name : String) : Document :=
  (d.createElement name).1.appendChild ⟨d.size - 1⟩ ⟨d.size⟩

/-- Elements `a`, `b`, `c`, `c` and `d`, each in the one before. -/
def nestedLetters : Document := ["a", "b", "c", "c", "d"].foldl nest new

/-- The compound that asks for a name only. -/
def Compound.named (name : String) : Compound := ⟨some name, none, [], []⟩

/-- The row `a b > c`, and what may follow it. -/
def lettersRow (rest : List (Combinator × Compound)) : Complex :=
  ⟨.named "a", (.descendant, .named "b") :: (.child, .named "c") :: rest⟩

/-- The `c` that is nearest to `d` does not hang from `b`, and the row fits all the same. -/
theorem farther_ancestor_fits :
    Reachable nestedLetters ∧ (lettersRow []).matchesNode nestedLetters ⟨4⟩ = false ∧
    (Selector.mk [lettersRow [(.descendant, .named "d")]]).matchesNode nestedLetters ⟨5⟩ =
      true := by
  have hnest : ∀ {d}, Reachable d → ∀ name, Reachable (nest d name) :=
    fun hd _ => .appendChild _ _ (.createElement _ hd)
  have hpage : Reachable nestedLetters :=
    hnest (hnest (hnest (hnest (hnest .new "a") "b") "c") "c") "d"
  obtain ⟨hmatch, -⟩ := matching_is_declarative hpage
  have hancestor : ∀ x y, nestedLetters.isAncestor x y = true → nestedLetters.Ancestor x y :=
    fun _ _ => hpage.forest.isAncestor_iff.mp
  refine ⟨hpage, by decide, (hmatch _ _).mpr ⟨_, List.mem_singleton_self _, ?_⟩⟩
  -- The nodes are 1, 2, 3 and 5.
  refine ⟨fun i => ⟨if i < 3 then i + 1 else 5⟩, by decide, ?_, ?_, rfl⟩
  · decide
  · rintro (_ | _ | _ | i) h
    · exact hancestor ⟨1⟩ ⟨2⟩ (by decide)
    · rfl
    · exact hancestor ⟨3⟩ ⟨5⟩ (by decide)
    · exact absurd h (by simp [lettersRow])

end Inlay
