/-
# `Inlay.Proofs.Dispatch.Removal` — what a removal does to document and cache

A removal about the node `n` takes away the containers below `n`: those of one
key where it is restricted to a key, and all of them else.

    restricted     the template is given as a key, the key is not blank, and the
                   removal that the options say is not `all`
    options        the dispatcher's, then those of the call, then those that the
                   data of a `dispatch` say; the last to say anything counts

Let `M` be the nodes that are taken away.  They hang nowhere after the call, no
other node changes but that its child list loses the nodes of `M`, and `get`
finds nothing more under the same template.  With `deleteCompiled` the cache
forgets every key whose marker a node of `M` has, be it the key of the call or
not, and no other key; without, it forgets none.

What is left holds nothing to take away (`renderedNodes_removeAll_eq_nil`), and a
removal that finds nothing changes nothing (`removeNodes_nil`).  So the same
removal a second time gives the answer that the first one gave.
-/
import Inlay.Proofs.Dispatch.Effect

namespace Inlay

open Document Dispatcher

variable {τ : Type} {e : Engine τ} {s : Dispatcher τ} {d : Document} {c : Call} {n x : NodeId}
  {target : Selection} {t : TemplateRef} {p : Overrides} {o : Options} {k : String}
  {ns : List NodeId} {forget : Bool}

/-! ## Which nodes are taken away -/

/-- A removal is restricted to a key. -/
def TemplateRef.Restricts (t : TemplateRef) (o : Options) (k : String) : Prop :=
  t = .key k ∧ Text.isAllBlank k = false ∧ o.removal ≠ .all

theorem TemplateRef.concreteKey?_eq_some_iff :
    t.concreteKey? = some k ↔ t = .key k ∧ Text.isAllBlank k = false := by
  cases t with
  | key k' =>
      simp only [concreteKey?, proper, TemplateRef.key.injEq]
      cases hb : Text.isAllBlank k' with
      | true =>
          refine iff_of_false (by simp) ?_
          rintro ⟨rfl, h⟩
          rw [hb] at h
          cases h
      | false =>
          simp only [Bool.false_eq_true, if_false, Option.some.injEq]
          refine ⟨?_, And.left⟩
          rintro rfl
          exact ⟨rfl, hb⟩
  | selection | absent => simp [concreteKey?]

theorem removalKey_eq_some_iff :
    removalKey o t.concreteKey? = some k ↔ t.Restricts o k := by
  unfold removalKey
  split
  · next hall => exact iff_of_false (by simp) fun h => h.2.2 hall
  · next hall =>
      rw [TemplateRef.concreteKey?_eq_some_iff, TemplateRef.Restricts, ← and_assoc,
        and_iff_left hall]

/-- A removal takes the containers below its node, of the key only that it is restricted to. -/
theorem mem_taken_iff (hd : Forest d) (hn : target.first? = some n) : x ∈ s.taken d target t p ↔
    d.Ancestor n x ∧ ∃ m, d.marker? x = some m ∧
      ∀ k, t.Restricts (s.defaults.merge p) k → m = markerOf k := by
  simp only [taken, hn, mem_renderedNodes, hd.mem_descendants, Option.mem_def,
    removalKey_eq_some_iff]

theorem taken_subset (hn : target.first? = some n) : s.taken d target t p ⊆ d.descendants n := by
  rw [taken, hn]
  exact renderedNodes_subset_descendants

/-- What `get` finds under the template of a removal is among the nodes that are taken away. -/
theorem renderedNodes_subset_taken (hn : target.first? = some n) :
    d.renderedNodes n t.concreteKey? ⊆ s.taken d target t p := by
  simp only [taken, hn]
  unfold removalKey
  split
  · exact renderedNodes_subset d n _
  · exact List.Subset.refl _

theorem taken_removeAll_eq_nil (hd : Forest d) (hn : target.first? = some n) :
    s.taken ((s.taken d target t p).foldl remove d) target t p = [] := by
  have hall : d.renderedNodes n (removalKey (s.defaults.merge p) t.concreteKey?) ⊆
      s.taken d target t p := by
    rw [taken, hn]
    exact List.Subset.refl _
  have hnone := renderedNodes_removeAll_eq_nil hd (taken_subset hn) hall
  generalize s.taken d target t p = ns at hnone
  rw [taken, hn]
  exact hnone

/-! ## The dispatcher behind a removal -/

/-- The entries of keys that no node of `ns` has as its marker. -/
def Cache.spared (d : Document) (ns : List NodeId) (c : Cache τ) : Cache τ :=
  ⟨c.entries.filter fun entry => decide (∀ x ∈ ns, d.marker? x ≠ some (markerOf entry.1))⟩

theorem removeNodes_dispatcher (s : Dispatcher τ) (d : Document) (ns : List NodeId)
    (forget : Bool) : (s.removeNodes d ns forget).1 =
      { s with cache := if forget then s.cache.spared d ns else s.cache } := by
  cases forget with
  | false => rfl
  | true =>
      simp only [removeNodes, if_true, Cache.evictMarkers_eq, Cache.spared]
      congr 2
      refine List.filter_congr fun entry _ => ?_
      rw [decide_eq_decide, List.mem_filterMap]
      constructor
      · exact fun h x hx hm => h ⟨x, hx, hm⟩
      · rintro h ⟨x, hx, hm⟩
        exact h x hx hm

theorem removeNodes_nil (s : Dispatcher τ) (d : Document) (forget : Bool) :
    s.removeNodes d [] forget = (s, d) := by
  cases forget <;> rfl

/-! ## A removal -/

/-- The exact effect of a removal, whether it is called as such or by a word with further options.
The nodes `M` that are taken away are the containers below the first node of the target, of one key
only where the removal is restricted to it.  They hang nowhere then, and every other node stays but
that child lists lose the nodes of `M`.  The cache keeps all its entries, or exactly those of keys
whose marker no node of `M` has.  Nothing is found any more under the same template, and the same
removal once more changes nothing. -/
theorem removal_effect (hd : Reachable d) (hc : c.plain = some (.remove target t p))
    (hn : target.first? = some n) (e : Engine τ) (s : Dispatcher τ) :
    let o := s.defaults.merge p
    let a := c.answer e s d
    ∃ M : List NodeId,
      (∀ x, x ∈ M ↔ d.Ancestor n x ∧
        ∃ m, d.marker? x = some m ∧ ∀ k, t.Restricts o k → m = markerOf k) ∧
      a.outcome = .target target ∧
      Pruned d n M a.document ∧
      (Dispatcher.get a.document target t).nodes = [] ∧
      a.dispatcher =
        { s with cache := if o.deleteCompiled then s.cache.spared d M else s.cache } ∧
      c.answer e a.dispatcher a.document = a := by
  intro o a
  have hf := hd.forest
  have hplain : ∀ (s : Dispatcher τ) (d : Document), c.answer e s d =
      ⟨(s.removeNodes d (s.taken d target t p) (s.defaults.merge p).deleteCompiled).1,
        (s.taken d target t p).foldl remove d, .target target, []⟩ := by
    intro s d
    rw [Call.answer_of_plain hc, Call.answer, remove_eq]
    rfl
  have hM : s.taken d target t p ⊆ d.descendants n := taken_subset hn
  have hnone : s.taken ((s.taken d target t p).foldl remove d) target t p = [] :=
    taken_removeAll_eq_nil hf hn
  have hget : ((s.taken d target t p).foldl remove d).renderedNodes n t.concreteKey? = [] :=
    renderedNodes_removeAll_eq_nil hf hM (renderedNodes_subset_taken hn)
  have ha : a = _ := hplain s d
  refine ⟨s.taken d target t p, fun x => mem_taken_iff hf hn, ?_⟩
  rw [ha, removeNodes_dispatcher, hplain]
  generalize s.taken d target t p = M at hM hnone hget
  refine ⟨rfl, pruned_removeAll hf hM, ?_, rfl, ?_⟩
  · rw [Dispatcher.get, hn]
    exact hget
  · -- The options of the second call are those of the first, for only the cache may have changed.
    have hnone' : ∀ cache : Cache τ,
        Dispatcher.taken { s with cache := cache } (M.foldl remove d) target t p = [] :=
      fun _ => hnone
    simp only [hnone', removeNodes_nil]
    rfl

/-- A word that clears everything, whatever the key that it is given. -/
def clearAll : Call :=
  .dispatch (.ofNode root) "clear" (.key "u") (.object [("removeType", .string "all")]) {}

/-- The container of `u` hangs in that of `t`; both go, and their templates with them. -/
theorem nested_containers_cleared :
    let s : Dispatcher Unit := { cache := ⟨[("t", ()), ("u", ()), ("v", ())]⟩ }
    let a := clearAll.answer refusing s nestedPage
    Reachable nestedPage ∧ a.document.parent? ⟨1⟩ = none ∧ a.document.parent? ⟨2⟩ = none ∧
    a.dispatcher.cache.entries = [("v", ())] ∧
    clearAll.answer refusing a.dispatcher a.document = a := by
  intro s a
  have hpage : Reachable nestedPage :=
    .appendChild _ _ (.setAttribute _ _ _ (.createElement _ renderedPage_reachable))
  have hplain : clearAll.plain =
      some (.remove (.ofNode root) (.key "u") { removal := some .all }) := rfl
  have hbelow : ∀ x ∈ nestedPage.descendants root, nestedPage.Ancestor root x :=
    fun x hx => hpage.forest.mem_descendants.mp hx
  obtain ⟨M, hM, -, hpruned, -, -, htwice⟩ := removal_effect hpage hplain rfl refusing s
  have hall : ∀ x m, x ∈ nestedPage.descendants root → nestedPage.marker? x = some m → x ∈ M :=
    fun x m hx hm => (hM x).mpr ⟨hbelow x hx, m, hm, fun _ h => absurd rfl h.2.2⟩
  exact ⟨hpage, hpruned.removed _ (hall ⟨1⟩ "t" (by decide) rfl),
    hpruned.removed _ (hall ⟨2⟩ "u" (by decide) rfl), rfl, htwice⟩

end Inlay
