/-
# `Inlay.Proofs.Dispatch.Refilling` — without `refill`, one container for a marker

An adding call without `refill` adds nothing where the target holds a container
with the marker of its key.  The dispatcher has no record of that: it looks below
the target, and it does so after it took rendered nodes away.

    `same`, `all`   no container with the marker is left to be found, and the
                    call renders
    `none`          nothing was taken away; the call renders unless there is
                    such a container

So a container that is added is the only one with its marker below the target,
whatever key that marker was made from.  Taking nodes away does not make two
containers out of one.  Hence a node that has no two containers with one marker
below it keeps to that: under one call (`MarkedOnce.call`), and so under a run
(`RunsIn.markedOnce`).

The fragments are to hold no containers of their own.  That the target is a node
of the document need not be asked for: one that is none stays without containers
below it (`Clean.containers_of_new`).
-/
import Inlay.Proofs.Dispatch.Coherence
import Inlay.Proofs.Dispatch.Log

namespace Inlay

open Document Dispatcher

variable {τ : Type} {e : Engine τ} {s s' : Dispatcher τ} {d d' : Document} {n : NodeId}
  {c : Call} {r : Adding} {key fragment : String} {t : τ} {l : List (Step τ)}

/-- No two containers below a node have the same marker. -/
def Document.MarkedOnce (d : Document) (n : NodeId) : Prop :=
  ∀ x y m, d.Ancestor n x → d.Ancestor n y → d.marker? x = some m → d.marker? y = some m → x = y

/-- A call that adds nothing twice: if it is an adding one, its options are without `refill`. -/
def Call.FillsOnce (s : Dispatcher τ) (d : Document) (c : Call) : Prop :=
  ∀ plain r, c.plain = some plain → plain.adding? d = some r → (r.options s).refill = false

/-! ## What is found below the target -/

theorem renderedNodes_eq_nil_iff (hd : Forest d) : d.renderedNodes n (some key) = [] ↔
    ∀ x, d.Ancestor n x → d.marker? x ≠ some (markerOf key) := by
  rw [List.eq_nil_iff_forall_not_mem]
  refine forall_congr' fun x => ?_
  rw [mem_renderedNodes, hd.mem_descendants, not_and]
  refine imp_congr_right fun _ => not_congr ?_
  simp

/-- Where nodes were taken away first, nothing with the marker of the key is found. -/
theorem unmarked_of_prepared (hd : Forest d) {target : Selection} (hn : target.first? = some n)
    {o : Options} (hremoval : o.removal ≠ .none) {x : NodeId}
    (hx : (prepare d target key o).Ancestor n x) :
    (prepare d target key o).marker? x ≠ some (markerOf key) := by
  have hnone : (prepare d target key o).renderedNodes n (some key) = [] := by
    rw [prepare_eq, preRemoved_of_first? hn, renderedNodes_replaced hd hremoval]
  exact (renderedNodes_eq_nil_iff (hd.prepare target key o)).mp hnone x hx

/-- An adding call that has its template renders it, unless it is without `refill`, nothing was
taken away, and a container with the marker of the key is below the target. -/
theorem renders_iff (hd : Forest d) (hr : c.adding? d = some r)
    (hready : r.ready? e s = some (key, t)) (hn : r.target.first? = some n) :
    .render key t ∈ (c.answer e s d).requests ↔
      ¬ ((r.options s).refill = false ∧ (r.options s).removal = .none ∧
        ∃ x, d.Ancestor n x ∧ d.marker? x = some (markerOf key)) := by
  obtain ⟨asked, s', hf, hends⟩ := adding_ends (e := e) (s := s) hr
  have hfound : (∃ n', r.target.first? = some n' ∧ d.renderedNodes n' (some key) ≠ []) ↔
      ∃ x, d.Ancestor n x ∧ d.marker? x = some (markerOf key) := by
    simp [hn, renderedNodes_eq_nil_iff hd]
  rw [← hfound, ← isFilled_prepare_iff hd, hends.eq_of_ready hready]
  simp only
  split
  · next hfilled => exact iff_of_false hf.not_render (not_not_intro hfilled)
  · next hopen => exact iff_of_true (List.mem_append_right _ List.mem_cons_self) hopen

/-! ## One step -/

namespace Document.MarkedOnce

/-- Taking nodes away leaves no containers but old ones. -/
theorem removeAll (h : d.MarkedOnce n) (ns : List NodeId) : (ns.foldl remove d).MarkedOnce n := by
  have hold : ∀ {x}, (ns.foldl remove d).Ancestor n x → d.Ancestor n x := by
    intro x
    refine ancestor_mono fun y p hp => ?_
    rw [parent?_removeAll] at hp
    split at hp
    · cases hp
    · exact hp
  intro x y m hx hy hxm hym
  rw [marker?_removeAll] at hxm hym
  exact h x y m (hold hx) (hold hy) hxm hym

/-- A container with a clean fragment is the only one with its marker, where none was before. -/
theorem appendFragment (h : d.MarkedOnce n) (hd : Forest d)
    (hnone : ∀ x, d.Ancestor n x → d.marker? x ≠ some (markerOf key)) (hclean : Clean fragment) :
    (Dispatcher.appendFragment d n key fragment).MarkedOnce n := by
  have hd' : Forest (Dispatcher.appendFragment d n key fragment) :=
    hd.appendContainer n key fragment
  have horigin : ∀ x m, (Dispatcher.appendFragment d n key fragment).Ancestor n x →
      (Dispatcher.appendFragment d n key fragment).marker? x = some m →
      (d.Ancestor n x ∧ d.marker? x = some m) ∨ (m = markerOf key ∧ x = ⟨d.size⟩) := by
    intro x m hx hm
    have hmem := mem_containers.mpr ⟨hd'.mem_descendants.mpr hx, hm⟩
    cases hin : d.contains n with
    | false =>
        rw [hclean.containers_of_new hd hin] at hmem
        cases hmem
    | true =>
        rw [hclean.containers_appendFragment hd hin] at hmem
        rcases List.mem_append.mp hmem with hmem | hmem
        · obtain ⟨hold, hm⟩ := mem_containers.mp hmem
          exact .inl ⟨hd.mem_descendants.mp hold, hm⟩
        · cases List.mem_singleton.mp hmem
          exact .inr ⟨rfl, rfl⟩
  intro x y m hx hy hxm hym
  rcases horigin x m hx hxm with ⟨hx, hxm⟩ | ⟨rfl, rfl⟩
  · rcases horigin y m hy hym with ⟨hy, hym⟩ | ⟨rfl, rfl⟩
    · exact h x y m hx hy hxm hym
    · exact absurd hxm (hnone x hx)
  · rcases horigin y _ hy hym with ⟨hy, hym⟩ | ⟨-, rfl⟩
    · exact absurd hym (hnone y hy)
    · rfl

/-- An adding call without `refill`. -/
theorem adding (h : d.MarkedOnce n) (hd : Forest d) (hr : c.adding? d = some r)
    (hn : r.target.first? = some n) (honce : (r.options s).refill = false)
    (hclean : ∀ key t fragment, .render key t ∈ (c.answer e s d).requests →
      e.render t r.data = some fragment → Clean fragment) :
    (c.answer e s d).document.MarkedOnce n := by
  obtain ⟨asked, s', -, hends⟩ := adding_ends (e := e) (s := s) hr
  cases hready : r.ready? e s with
  | none =>
      rw [hends.stops hready]
      exact h
  | some kt =>
      obtain ⟨key, t⟩ := kt
      rw [hends.eq_of_ready hready] at hclean ⊢
      simp only at hclean ⊢
      have hprepared : (prepare d r.target key (r.options s)).MarkedOnce n := by
        rw [prepare_eq]
        exact h.removeAll _
      have hforest : Forest (prepare d r.target key (r.options s)) := hd.prepare _ _ _
      by_cases hfilled : isFilled (prepare d r.target key (r.options s)) r.target key (r.options s)
      · rw [if_pos hfilled]
        exact hprepared
      · rw [if_neg hfilled] at hclean ⊢
        rcases place_document e (prepare d r.target key (r.options s)) r.target key t r.data
          (r.options s) with hplace | ⟨n', fragment, hn', hfragment, -, hplace⟩
        · rw [hplace]
          exact hprepared
        · cases hn.symm.trans hn'
          have hempty :
              (prepare d r.target key (r.options s)).renderedNodes n (some key) = [] := by
            simpa [isFilled, hn, honce] using hfilled
          rw [hplace]
          exact hprepared.appendFragment hforest ((renderedNodes_eq_nil_iff hforest).mp hempty)
            (hclean key t fragment (by simp) hfragment)

/-- One call. -/
theorem call (h : d.MarkedOnce n) (hd : Forest d) (haim : c.Aims n) (honce : c.FillsOnce s d)
    (hclean : c.Clean e s d) : (c.answer e s d).document.MarkedOnce n := by
  cases hplain : c.plain with
  | none =>
      obtain ⟨_, ha⟩ := Call.answer_of_not_plain (e := e) (s := s) (d := d) hplain
      rw [ha]
      exact h
  | some plain =>
      have hadd : ∀ r, plain.adding? d = some r → (plain.answer e s d).document.MarkedOnce n := by
        intro r hr
        have htarget : r.target.first? = some n :=
          haim _ (Call.target?_of_plain hplain (target?_of_adding? hr))
        refine h.adding hd hr htarget (honce plain r hplain hr) fun key t fragment hreq => ?_
        exact hclean plain r key t fragment hplain hr (by rwa [Call.answer_of_plain hplain])
      rw [Call.answer_of_plain hplain]
      cases plain with
      | dispatch => exact absurd hplain Call.plain_ne_dispatch
      | remove target t p =>
          show (s.remove d target t p).2.MarkedOnce n
          rw [remove_eq]
          exact h.removeAll _
      | add target t data p => exact hadd _ rfl
      | addFrom loader target location data p => exact hadd _ rfl
      | get | compiled => exact h

end Document.MarkedOnce

/-! ## A run -/

/-- A run, and every call of it. -/
theorem RunsIn.markedOnce (hrun : RunsIn s d l s' d') (hd : Forest d) (h : d.MarkedOnce n)
    (haim : ∀ a ∈ l, a.call.Aims n) (honce : ∀ a ∈ l, a.call.FillsOnce a.dispatcher a.document)
    (hclean : ∀ a ∈ l, a.call.Clean a.engine a.dispatcher a.document) :
    d'.MarkedOnce n ∧ ∀ a ∈ l, a.answer.document.MarkedOnce n := by
  induction hrun with
  | done => exact ⟨h, fun a ha => absurd ha List.not_mem_nil⟩
  | @call s s' d d' l e c _ ih =>
      have hstep : (c.answer e s d).document.MarkedOnce n :=
        h.call hd (haim _ List.mem_cons_self) (honce _ List.mem_cons_self)
          (hclean _ List.mem_cons_self)
      obtain ⟨hlast, hall⟩ := ih (Call.forest hd) hstep
        (fun a ha => haim a (List.mem_cons_of_mem _ ha))
        (fun a ha => honce a (List.mem_cons_of_mem _ ha))
        (fun a ha => hclean a (List.mem_cons_of_mem _ ha))
      refine ⟨hlast, ?_⟩
      intro a ha
      rcases List.mem_cons.mp ha with rfl | ha
      · exact hstep
      · exact hall a ha

/-- Where no call of a run refills and no two containers below `n` have one marker at first, no two
have one after any of its calls.  A call is kept from rendering by what is there only where nothing
was taken away: after a removal there is nothing below `n` with the marker of its key. -/
theorem markers_stay_distinct (hd : Reachable d) :
    (∀ {n : NodeId} {s s' : Dispatcher τ} {d' : Document} {l : List (Step τ)},
      d.MarkedOnce n → RunsIn s d l s' d' → (∀ a ∈ l, a.call.Aims n) →
      (∀ a ∈ l, a.call.FillsOnce a.dispatcher a.document) →
      (∀ a ∈ l, a.call.Clean a.engine a.dispatcher a.document) →
      d'.MarkedOnce n ∧ ∀ a ∈ l, a.answer.document.MarkedOnce n) ∧
    (∀ {n : NodeId} {e : Engine τ} {s : Dispatcher τ} {c plain : Call} {r : Adding} {key : String}
      {t : τ}, c.plain = some plain → plain.adding? d = some r → r.target.first? = some n →
      r.ready? e s = some (key, t) →
      ((r.options s).removal ≠ .none → ∀ x, (prepare d r.target key (r.options s)).Ancestor n x →
        (prepare d r.target key (r.options s)).marker? x ≠ some (markerOf key)) ∧
      (.render key t ∈ (c.answer e s d).requests ↔
        ¬ ((r.options s).refill = false ∧ (r.options s).removal = .none ∧
          ∃ x, d.Ancestor n x ∧ d.marker? x = some (markerOf key)))) := by
  refine ⟨fun honce hrun => hrun.markedOnce hd.forest honce, ?_⟩
  intro n e s c plain r key t hplain hr hn hready
  rw [Call.answer_of_plain hplain]
  exact ⟨fun hremoval x hx => unmarked_of_prepared hd.forest hn hremoval hx,
    renders_iff hd.forest hr hready hn⟩

/-- An add for a key that renders `x` into the root; nothing is added twice. -/
def fillOnce (key : String) : Call := .add (.ofNode root) (.key key) (.bool true) {}

/-- A dispatcher with templates for two keys that have one marker. -/
def twoQuotes : Dispatcher Unit where
  cache := ⟨[("a\"b", ()), ("a'b", ())]⟩
  defaults := { refill := false }

/-- An add for each of the keys. -/
def addBoth : List (Step Unit) :=
  [⟨letterEngine, twoQuotes, new, fillOnce "a\"b"⟩,
    ⟨letterEngine, twoQuotes, ((fillOnce "a\"b").answer letterEngine twoQuotes new).document,
      fillOnce "a'b"⟩]

/-- What is so of an add for any key is so of both. -/
theorem forall_addBoth {P : Step Unit → Prop}
    (h : ∀ key d, P ⟨letterEngine, twoQuotes, d, fillOnce key⟩) : ∀ a ∈ addBoth, P a := by
  intro a ha
  rcases List.mem_pair.mp ha with rfl | rfl
  · exact h _ _
  · exact h _ _

/-- The second add finds the container of the first and renders nothing: after both there is one
container below the root. -/
theorem second_quote_found_first :
    (∃ s' d', RunsIn twoQuotes new addBoth s' d' ∧ d'.MarkedOnce root ∧
      d'.containers root = [("a'b", ⟨1⟩)]) ∧
    (∀ a ∈ addBoth, a.answer.document.MarkedOnce root) ∧
    .render "a'b" () ∉ ((fillOnce "a'b").answer letterEngine twoQuotes
      ((fillOnce "a\"b").answer letterEngine twoQuotes new).document).requests := by
  have hrun : RunsIn twoQuotes new addBoth _ _ :=
    .call letterEngine (fillOnce "a\"b") (.call letterEngine (fillOnce "a'b") .done)
  have haim : ∀ a ∈ addBoth, a.call.Aims root := by
    refine forall_addBoth fun key d => ?_
    rintro target ⟨rfl⟩
    rfl
  have honce : ∀ a ∈ addBoth, a.call.FillsOnce a.dispatcher a.document := by
    refine forall_addBoth fun key d => ?_
    rintro plain r ⟨rfl⟩ ⟨rfl⟩
    rfl
  have hclean : ∀ a ∈ addBoth, a.call.Clean a.engine a.dispatcher a.document :=
    forall_addBoth fun key d => clean_letterEngine (fillOnce key) twoQuotes d
  have hstart : new.MarkedOnce root := by
    intro x y m hx
    have hnone : new.descendants root = [] := rfl
    rw [← forest_new.mem_descendants, hnone] at hx
    cases hx
  obtain ⟨hlast, hall⟩ :=
    (markers_stay_distinct .new).1 hstart hrun haim honce hclean
  have hfilled : Reachable ((fillOnce "a\"b").answer letterEngine twoQuotes new).document :=
    .call letterEngine twoQuotes (fillOnce "a\"b") .new
  have hready : Adding.ready? letterEngine twoQuotes
      ⟨.ofNode root, some "a'b", none, .bool true, {}⟩ = some ("a'b", ()) := rfl
  obtain ⟨-, hrenders⟩ :=
    (markers_stay_distinct hfilled).2 (c := fillOnce "a'b") rfl rfl (n := root) rfl hready
  refine ⟨⟨_, _, hrun, hlast, by decide⟩, hall, fun hasked => ?_⟩
  exact hrenders.mp hasked ⟨rfl, rfl, ⟨1⟩, ancestor_parent rfl, rfl⟩

end Inlay
