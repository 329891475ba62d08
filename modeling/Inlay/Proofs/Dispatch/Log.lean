/-
# `Inlay.Proofs.Dispatch.Log` — a dispatcher keeps the list it never writes down

All calls of a run are about one node `n`, which holds no container at first.
The log of the run is a list of markers and containers, kept from what the calls
are given:

    an adding call      that comes to render drops the entries of its key under
                        `same`, all of them under `all`, and then, if it adds a
                        container, pushes it with the marker of its key
    a removal           drops the entries of its key, if one is given as such and
                        not all are to go; else all of them
    any other call      leaves the log

Then after every call the rendered nodes below `n` are those of the log, in its
order.  One call keeps the list of containers equal to the log (`Lists.call`); so
does a whole run (`RunsIn.lists`).
-/
import Inlay.Proofs.Dispatch.Containers
import Inlay.Proofs.Dispatch.Run

namespace Inlay

open Document Dispatcher

variable {τ : Type} {e : Engine τ} {s s' : Dispatcher τ} {d d' : Document} {n : NodeId}
  {c : Call} {r : Adding} {L : Log} {l : List (Step τ)}

namespace Log

/-- Whether the log has a node of the key. -/
def holds (L : Log) (key : String) : Bool := L.any (·.1 = markerOf key)

/-- The log behind an adding call that comes to render; `fresh` is the next node. -/
def added (L : Log) (key : String) (fresh : NodeId) (o : Options) (fragment : Option String) :
    Log :=
  let L := L.prepared key o.removal
  if o.output = .append ∧ fragment.isSome ∧ (o.refill = true ∨ L.holds key = false) then
    L ++ [(markerOf key, fresh)]
  else L

/-- The log behind a removal. -/
def removed (L : Log) (key : Option String) (o : Options) : Log :=
  match key with
  | some key => if o.removal = .all then [] else L.without (some key)
  | none => []

theorem holds_eq (L : Log) (key : String) : L.holds key = !(L.nodes (some key)).isEmpty := by
  rw [nodes, List.isEmpty_map]
  induction L with
  | nil => rfl
  | cons x L ih =>
      rw [holds, List.any_cons, List.filter_cons]
      by_cases hx : x.1 = markerOf key
      · simp [hx]
      · simpa [hx, holds] using ih

end Log

/-- The log behind a call. -/
def Call.note (e : Engine τ) (s : Dispatcher τ) (d : Document) (L : Log) (c : Call) : Log :=
  match c.plain with
  | some (.remove _ t p) => L.removed t.concreteKey? (s.defaults.merge p)
  | some plain =>
      match plain.adding? d with
      | some r =>
          match r.ready? e s with
          | some (key, t) => L.added key ⟨d.size⟩ (r.options s) (e.render t r.data)
          | none => L
      | none => L
  | none => L

/-- A call about the node `n`, if it is about any. -/
def Call.Aims (n : NodeId) (c : Call) : Prop :=
  ∀ target, c.target? = some target → target.first? = some n

/-- What a call renders is clean. -/
def Call.Clean (e : Engine τ) (s : Dispatcher τ) (d : Document) (c : Call) : Prop :=
  ∀ plain r key t fragment, c.plain = some plain → plain.adding? d = some r →
    .render key t ∈ (c.answer e s d).requests → e.render t r.data = some fragment →
    Inlay.Clean fragment

/-- The log behind a run that begins with the log `L`. -/
def logFrom (L : Log) (l : List (Step τ)) : Log :=
  l.foldl (fun L a => a.call.note a.engine a.dispatcher a.document L) L

namespace Lists

/-- The test for a filled target is a test of the log. -/
theorem isFilled_eq (h : Lists d n L) {target : Selection} (hc : target.first? = some n)
    (key : String) (o : Options) :
    isFilled d target key o = (!o.refill && L.holds key) := by
  rw [isFilled, hc, Log.holds_eq]
  simp only
  rw [h.renderedNodes_eq]

/-- Delivering a clean fragment pushes its container. -/
theorem place (h : Lists d n L) {target : Selection} (hc : target.first? = some n)
    (key : String) {t : τ} {data : Data.Value} {o : Options}
    (hclean : ∀ fragment, e.render t data = some fragment → Inlay.Clean fragment) :
    Lists (place e d target key t data o).1 n
      (if o.output = .append ∧ (e.render t data).isSome then L ++ [(markerOf key, ⟨d.size⟩)]
        else L) := by
  unfold Dispatcher.place
  cases hr : e.render t data with
  | none => simpa using h
  | some fragment =>
      simp only [deliver_document, hc]
      cases o.output with
      | append => simpa using h.appendFragment (hclean fragment hr)
      | html | raw | compiled => simpa using h

/-- A call that comes to render. -/
theorem adding (h : Lists d n L) {key : String} {t : τ} {asked : List (Request τ)}
    {s' : Dispatcher τ} {a : Answer τ} (hends : Ends e s s' d r asked a)
    (hready : r.ready? e s = some (key, t)) (hc : r.target.first? = some n)
    (hclean : ∀ fragment, .render key t ∈ a.requests → e.render t r.data = some fragment →
      Inlay.Clean fragment) :
    Lists a.document n (L.added key ⟨d.size⟩ (r.options s) (e.render t r.data)) := by
  have hp := h.prepare hc key (r.options s)
  have hsize : (Dispatcher.prepare d r.target key (r.options s)).size = d.size := by
    rw [prepare_eq, size_removeAll]
  rw [hends.eq_of_ready hready] at hclean ⊢
  simp only at hclean ⊢
  unfold Log.added
  by_cases hfilled : isFilled (Dispatcher.prepare d r.target key (r.options s)) r.target key
      (r.options s) = true
  · rw [if_pos hfilled]
    rw [hp.isFilled_eq hc, Bool.and_eq_true, Bool.not_eq_true'] at hfilled
    simpa [hfilled.1, hfilled.2] using hp
  · rw [if_neg hfilled] at hclean ⊢
    have hroom : (r.options s).refill = true ∨
        (L.prepared key (r.options s).removal).holds key = false := by
      rw [hp.isFilled_eq hc] at hfilled
      simpa [or_iff_not_imp_left] using hfilled
    have hplace := hp.place hc key (o := r.options s)
      fun fragment => hclean fragment (by simp)
    rw [hsize] at hplace
    simpa [hroom] using hplace

/-- A removal. -/
theorem removal (h : Lists d n L) {target : Selection} (hc : target.first? = some n)
    (t : TemplateRef) (p : Overrides) :
    Lists (s.remove d target t p).2 n (L.removed t.concreteKey? (s.defaults.merge p)) := by
  have hr := h.removeRendered (removalKey (s.defaults.merge p) t.concreteKey?)
  have hlog : L.without (removalKey (s.defaults.merge p) t.concreteKey?) =
      L.removed t.concreteKey? (s.defaults.merge p) := by
    unfold Log.removed removalKey
    cases t.concreteKey? <;> split <;> rfl
  rw [hlog] at hr
  rw [Dispatcher.remove, hc]
  exact hr

/-- One call keeps the containers equal to the log. -/
theorem call (h : Lists d n L) (haim : c.Aims n) (hclean : c.Clean e s d) :
    Lists (c.answer e s d).document n (c.note e s d L) := by
  unfold Call.note
  cases hplain : c.plain with
  | none =>
      obtain ⟨_, ha⟩ := Call.answer_of_not_plain (e := e) (s := s) (d := d) hplain
      rw [ha]
      exact h
  | some plain =>
      have haims : ∀ target, plain.target? = some target → target.first? = some n :=
        fun target ht => haim target (Call.target?_of_plain hplain ht)
      have hadd : ∀ r, plain.adding? d = some r → Lists (plain.answer e s d).document n
          (match r.ready? e s with
            | some (key, t) => L.added key ⟨d.size⟩ (r.options s) (e.render t r.data)
            | none => L) := by
        intro r hr
        obtain ⟨asked, s', -, hends⟩ := adding_ends (e := e) (s := s) hr
        cases hready : r.ready? e s with
        | none =>
            rw [hends.stops hready]
            exact h
        | some kt =>
            obtain ⟨key, t⟩ := kt
            refine h.adding hends hready (haims _ (target?_of_adding? hr)) fun fragment => ?_
            have hcl := hclean plain r key t fragment hplain hr
            rwa [Call.answer_of_plain hplain] at hcl
      rw [Call.answer_of_plain hplain]
      cases plain with
      | dispatch => exact absurd hplain Call.plain_ne_dispatch
      | remove target t p => exact h.removal (haims target rfl) t p
      | add target t data p => exact hadd _ rfl
      | addFrom loader target location data p => exact hadd _ rfl
      | get | compiled => exact h

end Lists

/-- A run keeps the containers equal to its log. -/
theorem RunsIn.lists (hrun : RunsIn s d l s' d') (h : Lists d n L) (haim : ∀ a ∈ l, a.call.Aims n)
    (hclean : ∀ a ∈ l, a.call.Clean a.engine a.dispatcher a.document) :
    Lists d' n (logFrom L l) := by
  induction hrun generalizing L with
  | done => exact h
  | call e c _ ih =>
      have hnext := h.call (haim _ List.mem_cons_self) (hclean _ List.mem_cons_self)
      exact ih hnext (fun a ha => haim a (List.mem_cons_of_mem _ ha))
        (fun a ha => hclean a (List.mem_cons_of_mem _ ha))

/-- After a run whose calls are all about `n`, where no container hung below `n` at first and no
rendered fragment holds one, `get` finds the containers of the log: all of them, or those of a key
that is given as such, each once. -/
theorem get_eq_log (hd : Reachable d) (hn : d.contains n = true)
    (hnone : ∀ x ∈ d.descendants n, d.marker? x = none) (hrun : RunsIn s d l s' d')
    (haim : ∀ a ∈ l, a.call.Aims n)
    (hclean : ∀ a ∈ l, a.call.Clean a.engine a.dispatcher a.document)
    (target : Selection) (htarget : target.first? = some n) (t : TemplateRef) :
    (Dispatcher.get d' target t).nodes = (logFrom [] l).nodes t.concreteKey? ∧
      (Dispatcher.get d' target t).nodes.Nodup := by
  have h := hrun.lists (Lists.start hd.forest hn hnone) haim hclean
  have hget : (Dispatcher.get d' target t).nodes = d'.renderedNodes n t.concreteKey? := by
    rw [Dispatcher.get, htarget]
    rfl
  rw [hget, h.renderedNodes_eq]
  exact ⟨rfl, h.nodup_nodes _⟩

/-- An engine that renders every template as `x`. -/
def letterEngine : Engine Unit := ⟨fun _ => some (), fun _ _ => some "x"⟩

/-- A fragment that is text alone. -/
theorem clean_x : Inlay.Clean "x" := by
  have htrees : unwrap (Markup.parseFragment "div" "x") = [.text "x"] := rfl
  rw [Inlay.Clean, htrees, EveryOf, Every, EveryOf]
  exact ⟨trivial, trivial⟩

theorem clean_letterEngine (c : Call) (s : Dispatcher Unit) (d : Document) :
    c.Clean letterEngine s d := by
  rintro plain r key t fragment - - - ⟨rfl⟩
  exact clean_x

/-- Containers of `t` and `u`; then that of `t` is replaced, that of `u` is removed, and there is a
second one of `t`. -/
def letterCalls : List Call :=
  [.addFrom (fun _ => some "") (.ofNode root) "t" (.bool true) {},
    .addFrom (fun _ => some "") (.ofNode root) "u" (.bool true) {},
    .add (.ofNode root) (.key "t") (.bool true) { removal := some .same },
    .remove (.ofNode root) (.key "u") {},
    .dispatch (.ofNode root) "add" (.key "t") (.bool true) {}]

theorem letterCalls_aim : ∀ c ∈ letterCalls, c.Aims root := by
  intro c hc
  rw [letterCalls] at hc
  simp only [List.mem_cons, List.not_mem_nil, or_false] at hc
  rcases hc with rfl | rfl | rfl | rfl | rfl <;>
  · rintro target ⟨rfl⟩
    rfl

/-- In the end there are two containers, both of `t`. -/
theorem get_eq_log_of_letterCalls :
    let l := stepsOf letterEngine {} new letterCalls
    ∃ s' d', RunsIn {} new l s' d' ∧ logFrom [] (l.take 2) = [("t", ⟨1⟩), ("u", ⟨3⟩)] ∧
      logFrom [] (l.take 3) = [("u", ⟨3⟩), ("t", ⟨5⟩)] ∧
      logFrom [] l = [("t", ⟨5⟩), ("t", ⟨7⟩)] ∧
      (Dispatcher.get d' (.ofNode root) (.key "t")).nodes = [⟨5⟩, ⟨7⟩] ∧
      (Dispatcher.get d' (.ofNode root) (.key "u")).nodes = [] := by
  intro l
  obtain ⟨s', d', hrun⟩ := runsIn_stepsOf letterEngine {} new letterCalls
  have haim : ∀ a ∈ l, a.call.Aims root := fun a ha => letterCalls_aim _ (mem_stepsOf ha).2
  have hclean : ∀ a ∈ l, a.call.Clean a.engine a.dispatcher a.document := by
    intro a ha
    rw [(mem_stepsOf ha).1]
    exact clean_letterEngine _ _ _
  have hlog : logFrom [] l = [("t", ⟨5⟩), ("t", ⟨7⟩)] := by decide +kernel
  have hget := get_eq_log .new rfl (by decide) hrun haim hclean (.ofNode root) rfl
  refine ⟨s', d', hrun, by decide +kernel, by decide +kernel, hlog, ?_, ?_⟩
  · rw [(hget (.key "t")).1, hlog]
    decide
  · rw [(hget (.key "u")).1, hlog]
    decide

end Inlay
