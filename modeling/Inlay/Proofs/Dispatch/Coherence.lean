/-
# `Inlay.Proofs.Dispatch.Coherence` — the cache over a run

What one call may do with the cache (`Call.coherent`):

    asks       it loads and compiles only for keys without a template
    renders    it renders the template that its key has, or one that it compiled
               for the key just before
    keeps      a template is not replaced by another
    appears    a template is only stored after it was compiled
    goes       a template is gone exactly after its eviction (`Evicts`)
    others     an adding call leaves the other keys alone

Of a run this leaves: from when a key has a template, every rendering for the key
is of this one, until it is evicted (`Runs.renders_entry`).
-/
import Inlay.Proofs.Dispatch.Run

namespace Inlay

open Document Dispatcher

variable {τ : Type} {e : Engine τ} {s s' : Dispatcher τ} {d : Document} {c plain : Call}
  {r : Adding} {k key : String} {t t' : τ} {asked : List (Request τ)} {a : Answer τ}
  {l : List (Step τ)}

/-! ## Fetching -/

namespace Fetches

theorem get?_of_some (h : Fetches e s r asked s') (hk : s.cache.get? k = some t) :
    s'.cache.get? k = some t := by
  cases h with
  | nothing => exact hk
  | failed => exact hk
  | stored => exact Cache.get?_insert_of_some hk

theorem get?_of_ne (h : Fetches e s r asked s') (hk : r.key? ≠ some k) :
    s'.cache.get? k = s.cache.get? k := by
  cases h with
  | nothing => rfl
  | failed => rfl
  | @stored key _ _ _ hkey =>
      refine Cache.get?_insert_of_ne ?_
      rintro rfl
      exact hk hkey

/-- What is asked for is asked for a key without a template. -/
theorem get?_of_asked (h : Fetches e s r asked s')
    (hk : .load k ∈ asked ∨ ∃ markup, .compile k markup ∈ asked) : s.cache.get? k = none := by
  have hone : ∀ {key : String}, (∀ q ∈ asked, q = .load key ∨ ∃ markup, q = .compile key markup) →
      k = key := by
    intro key hall
    rcases hk with hq | ⟨markup, hq⟩
    · rcases hall _ hq with h | ⟨_, h⟩ <;> cases h
      rfl
    · rcases hall _ hq with h | ⟨_, h⟩ <;> cases h
      rfl
  cases h with
  | nothing => rcases hk with hq | ⟨_, hq⟩ <;> cases hq
  | failed _ hnone hall =>
      rw [hone hall]
      exact hnone
  | stored _ hnone _ _ _ hall =>
      rw [hone fun q hq => (hall q hq).imp_right fun h => ⟨_, h⟩]
      exact hnone

/-- A template that was not there was compiled for its key. -/
theorem compiled (h : Fetches e s r asked s') (hnone : s.cache.get? k = none)
    (hk : s'.cache.get? k = some t) :
    ∃ markup, .compile k markup ∈ asked ∧ e.compile markup = some t := by
  cases h with
  | nothing => rw [hnone] at hk; cases hk
  | failed => rw [hnone] at hk; cases hk
  | @stored key markup t' _ _ _ _ hcompile hmem =>
      rw [store, Cache.get?_insert] at hk
      split at hk
      · next heq =>
          subst heq
          rw [hnone] at hk
          cases hk
          exact ⟨markup, hmem, hcompile⟩
      · rw [hnone] at hk; cases hk

theorem not_render (h : Fetches e s r asked s') : .render k t ∉ asked := by
  intro hq
  cases h with
  | nothing => cases hq
  | failed _ _ hall => rcases hall _ hq with h | ⟨_, h⟩ <;> cases h
  | stored _ _ _ _ _ hall => rcases hall _ hq with h | h <;> cases h

end Fetches

theorem get?_keep (o : Options) : (s.keep key o).cache.get? k =
    if k = key ∧ o.storeCompiled = false then none else s.cache.get? k := by
  unfold keep
  cases o.storeCompiled with
  | true => simp
  | false =>
      rw [if_neg (by simp), Cache.get?_evict]
      simp

/-- An adding call renders nothing and leaves what fetching left, or renders one template, which
the cache then holds, and may forget it. -/
theorem Ends.requests_cases (h : Ends e s s' d r asked a) :
    (a.requests = asked ∧ a.dispatcher = s') ∨
    ∃ key t, r.key? = some key ∧ s'.cache.get? key = some t ∧
      a.requests = asked ++ [.render key t] ∧ a.dispatcher = s'.keep key (r.options s) := by
  cases hr : r.ready? e s with
  | none =>
      rw [h.stops hr]
      exact .inl ⟨rfl, rfl⟩
  | some kt =>
      obtain ⟨key, t⟩ := kt
      have hheld := (h.renders key t hr).1
      rw [h.eq_of_ready hr]
      simp only
      split
      · exact .inl ⟨rfl, rfl⟩
      · exact .inr ⟨key, t, (Adding.ready?_eq_some_iff.mp hr).2.1, hheld, rfl, rfl⟩

namespace Ends

theorem asked_subset (h : Ends e s s' d r asked a) : asked ⊆ a.requests := by
  rcases h.requests_cases with ⟨hreq, -⟩ | ⟨_, _, -, -, hreq, -⟩
  · rw [hreq]
    exact List.Subset.refl _
  · rw [hreq]
    exact List.subset_append_left _ _

/-- Loads and compilations are of fetching. -/
theorem asked_of_mem (h : Ends e s s' d r asked a)
    (hk : .load k ∈ a.requests ∨ ∃ markup, .compile k markup ∈ a.requests) :
    .load k ∈ asked ∨ ∃ markup, .compile k markup ∈ asked := by
  rcases h.requests_cases with ⟨hreq, -⟩ | ⟨_, _, -, -, hreq, -⟩
  · rwa [hreq] at hk
  · rw [hreq] at hk
    simpa using hk

/-- What is rendered is the template that fetching left. -/
theorem get?_of_render (h : Ends e s s' d r asked a) (hf : Fetches e s r asked s')
    (hk : .render k t ∈ a.requests) : r.key? = some k ∧ s'.cache.get? k = some t := by
  rcases h.requests_cases with ⟨hreq, -⟩ | ⟨key, t', hkey, hheld, hreq, -⟩
  · rw [hreq] at hk
    exact absurd hk hf.not_render
  · rw [hreq] at hk
    rcases List.mem_append.mp hk with hk | hk
    · exact absurd hk hf.not_render
    · cases List.mem_singleton.mp hk
      exact ⟨hkey, hheld⟩

theorem get?_of_forgotten (h : Ends e s s' d r asked a) (hf : Fetches e s r asked s')
    (ho : (r.options s).storeCompiled = false) (hk : .render k t ∈ a.requests) :
    a.dispatcher.cache.get? k = none := by
  have hkey := (h.get?_of_render hf hk).1
  rcases h.requests_cases with ⟨hreq, -⟩ | ⟨key, t', hkey', -, -, hs⟩
  · rw [hreq] at hk
    exact absurd hk hf.not_render
  · rw [hkey] at hkey'
    rw [hs, get?_keep, if_pos ⟨Option.some.inj hkey', ho⟩]

theorem get?_of_kept (h : Ends e s s' d r asked a)
    (ho : ¬ ((r.options s).storeCompiled = false ∧ ∃ t, .render k t ∈ a.requests)) :
    a.dispatcher.cache.get? k = s'.cache.get? k := by
  rcases h.requests_cases with ⟨-, hs⟩ | ⟨key, t, -, -, hreq, hs⟩
  · rw [hs]
  · rw [hs, get?_keep, if_neg]
    rintro ⟨rfl, hstore⟩
    exact ho ⟨hstore, t, by rw [hreq]; exact List.mem_append_right _ List.mem_cons_self⟩

end Ends

/-! ## One call -/

/-- A call evicts the template of a key. -/
inductive Evicts (e : Engine τ) (s : Dispatcher τ) (d : Document) (c : Call) (k : String) : Prop
  /-- It rendered for the key, and the options are not to store what was compiled. -/
  | rendered {plain : Call} {r : Adding} {t : τ} :
      c.plain = some plain → plain.adding? d = some r → r.key? = some k →
      (r.options s).storeCompiled = false → .render k t ∈ (c.answer e s d).requests →
      Evicts e s d c k
  /-- It took away a node with the marker of the key, and the options are to delete what was
  compiled. -/
  | removed {target : Selection} {t : TemplateRef} {p : Overrides} {n x : NodeId} :
      c.plain = some (.remove target t p) → (s.defaults.merge p).deleteCompiled = true →
      target.first? = some n → x ∈ d.descendants n → d.marker? x = some (markerOf k) →
      d.parent? x ≠ none → (c.answer e s d).document.parent? x = none → Evicts e s d c k

/-- What a call may do with the cache. -/
structure Coherent (e : Engine τ) (s : Dispatcher τ) (d : Document) (c : Call) : Prop where
  asks : ∀ k, (.load k ∈ (c.answer e s d).requests ∨
    ∃ markup, .compile k markup ∈ (c.answer e s d).requests) → s.cache.get? k = none
  renders : ∀ k t, .render k t ∈ (c.answer e s d).requests →
    s.cache.get? k = some t ∨ s.cache.get? k = none ∧
      ∃ markup, .compile k markup ∈ (c.answer e s d).requests ∧ e.compile markup = some t
  keeps : ∀ k t, s.cache.get? k = some t ∨ .render k t ∈ (c.answer e s d).requests →
    (c.answer e s d).dispatcher.cache.get? k = some t ∨
      (c.answer e s d).dispatcher.cache.get? k = none
  appears : ∀ k t, s.cache.get? k = none →
    (c.answer e s d).dispatcher.cache.get? k = some t →
    ∃ markup, .compile k markup ∈ (c.answer e s d).requests ∧ e.compile markup = some t
  goes : ∀ k, s.cache.get? k ≠ none →
    ((c.answer e s d).dispatcher.cache.get? k = none ↔ Evicts e s d c k)
  others : ∀ plain r k, c.plain = some plain → plain.adding? d = some r → r.key? ≠ some k →
    (c.answer e s d).dispatcher.cache.get? k = s.cache.get? k

/-- A call that asks for nothing and leaves the dispatcher. -/
theorem coherent_of_idle (hs : (c.answer e s d).dispatcher = s)
    (hreq : (c.answer e s d).requests = [])
    (hplain : ∀ target t p, c.plain ≠ some (.remove target t p)) : Coherent e s d c where
  asks k h := by
    rw [hreq] at h
    rcases h with h | ⟨_, h⟩ <;> cases h
  renders k t h := by
    rw [hreq] at h
    cases h
  keeps k t h := by
    rw [hreq, hs] at *
    rcases h with h | h
    · exact .inl h
    · cases h
  appears k t hnone h := by
    rw [hs, hnone] at h
    cases h
  goes k hk := by
    rw [hs]
    refine ⟨fun h => absurd h hk, fun h => ?_⟩
    cases h with
    | rendered _ _ _ _ h => rw [hreq] at h; cases h
    | removed h => exact absurd h (hplain _ _ _)
  others _ _ _ _ _ _ := by rw [hs]

/-- An adding call. -/
theorem coherent_of_adding (hplain : c.plain = some plain) (hr : plain.adding? d = some r) :
    Coherent e s d c := by
  obtain ⟨asked, s', hf, hends⟩ := adding_ends (e := e) (s := s) hr
  rw [← Call.answer_of_plain hplain] at hends
  have hdone : ∀ k t, s'.cache.get? k = some t →
      (c.answer e s d).dispatcher.cache.get? k = some t ∨
        (c.answer e s d).dispatcher.cache.get? k = none := by
    intro k t hk
    by_cases ho : (r.options s).storeCompiled = false ∧
        ∃ t, .render k t ∈ (c.answer e s d).requests
    · obtain ⟨ho, _, hrender⟩ := ho
      exact .inr (hends.get?_of_forgotten hf ho hrender)
    · exact .inl ((hends.get?_of_kept ho).trans hk)
  constructor
  case asks =>
    intro k hk
    exact hf.get?_of_asked (hends.asked_of_mem hk)
  case renders =>
    intro k t hk
    obtain ⟨-, hheld⟩ := hends.get?_of_render hf hk
    cases hs : s.cache.get? k with
    | none =>
        obtain ⟨markup, hmem, hcompile⟩ := hf.compiled hs hheld
        exact .inr ⟨rfl, markup, hends.asked_subset hmem, hcompile⟩
    | some t' => exact .inl ((hf.get?_of_some hs).symm.trans hheld)
  case keeps =>
    rintro k t (hk | hk)
    · exact hdone k t (hf.get?_of_some hk)
    · exact hdone k t (hends.get?_of_render hf hk).2
  case appears =>
    intro k t hnone hk
    have ho : ¬ ((r.options s).storeCompiled = false ∧
        ∃ t, .render k t ∈ (c.answer e s d).requests) := by
      rintro ⟨ho, _, hrender⟩
      rw [hends.get?_of_forgotten hf ho hrender] at hk
      cases hk
    rw [hends.get?_of_kept ho] at hk
    obtain ⟨markup, hmem, hcompile⟩ := hf.compiled hnone hk
    exact ⟨markup, hends.asked_subset hmem, hcompile⟩
  case goes =>
    intro k hk
    obtain ⟨t, ht⟩ := Option.ne_none_iff_exists'.mp hk
    constructor
    · intro hgone
      by_cases ho : (r.options s).storeCompiled = false ∧
          ∃ t, .render k t ∈ (c.answer e s d).requests
      · obtain ⟨ho, _, hrender⟩ := ho
        exact .rendered hplain hr (hends.get?_of_render hf hrender).1 ho hrender
      · rw [hends.get?_of_kept ho, hf.get?_of_some ht] at hgone
        cases hgone
    · intro h
      cases h with
      | rendered hplain' hr' _ ho hrender =>
          cases hplain.symm.trans hplain'
          cases hr.symm.trans hr'
          exact hends.get?_of_forgotten hf ho hrender
      | removed hplain' =>
          cases hplain.symm.trans hplain'
          cases hr
  case others =>
    intro plain' r' k hplain' hr' hk
    cases hplain.symm.trans hplain'
    cases hr.symm.trans hr'
    rw [hends.get?_of_kept, hf.get?_of_ne hk]
    rintro ⟨-, _, hrender⟩
    exact hk (hends.get?_of_render hf hrender).1

/-- The templates that a removal deletes are those with the marker of a node it takes away. -/
theorem get?_remove (s : Dispatcher τ) (d : Document) (target : Selection) (tr : TemplateRef)
    (p : Overrides) (k : String) :
    let deletes := (s.defaults.merge p).deleteCompiled = true ∧
      ∃ x ∈ s.taken d target tr p, d.marker? x = some (markerOf k)
    (deletes → (s.remove d target tr p).1.cache.get? k = none) ∧
    (¬ deletes → (s.remove d target tr p).1.cache.get? k = s.cache.get? k) := by
  rw [remove_eq, removeNodes]
  simp only [Cache.get?_evictMarkers]
  cases (s.defaults.merge p).deleteCompiled with
  | false => simp
  | true =>
      simp only [true_and, if_true, List.mem_filterMap]
      exact ⟨fun h => if_pos h, fun h => if_neg h⟩

/-- A removal. -/
theorem coherent_of_removal (hd : Reachable d) {target : Selection} {tr : TemplateRef}
    {p : Overrides} (hplain : c.plain = some (.remove target tr p)) : Coherent e s d c := by
  have ha : c.answer e s d = ⟨(s.remove d target tr p).1, (s.remove d target tr p).2,
      .target target, []⟩ := Call.answer_of_plain hplain
  have hcache : ∀ k, (c.answer e s d).dispatcher.cache.get? k = s.cache.get? k ∨
      (c.answer e s d).dispatcher.cache.get? k = none := by
    intro k
    rw [ha]
    obtain ⟨hgone, hstay⟩ := get?_remove s d target tr p k
    exact (em _).elim (fun h => .inr (hgone h)) (fun h => .inl (hstay h))
  have hparent : ∀ x, (c.answer e s d).document.parent? x =
      if x ∈ s.taken d target tr p then none else d.parent? x := by
    intro x
    rw [ha, remove_eq, removeNodes]
    exact parent?_removeAll _ _
  constructor
  case asks =>
    intro k hk
    rw [ha] at hk
    rcases hk with hk | ⟨_, hk⟩ <;> cases hk
  case renders =>
    intro k t hk
    rw [ha] at hk
    cases hk
  case keeps =>
    rintro k t (hk | hk)
    · exact (hcache k).imp_left fun h => h.trans hk
    · rw [ha] at hk
      cases hk
  case appears =>
    intro k t hnone hk
    rcases hcache k with h | h
    · cases (hnone.symm.trans h.symm).trans hk
    · cases h.symm.trans hk
  case goes =>
    intro k hk
    obtain ⟨hgone, hstay⟩ := get?_remove s d target tr p k
    rw [ha]
    constructor
    · intro hnone
      obtain ⟨hdelete, x, hx, hmarker⟩ := not_imp_comm.mp hstay fun h => hk (h.symm.trans hnone)
      have hcut : (c.answer e s d).document.parent? x = none := by rw [hparent, if_pos hx]
      unfold taken at hx
      split at hx
      · cases hx
      · next n hn =>
          have hbelow := renderedNodes_subset_descendants hx
          exact .removed hplain hdelete hn hbelow hmarker
            (parent?_ne_none_of_ancestor (hd.forest.mem_descendants.mp hbelow)) hcut
    · intro h
      refine hgone ?_
      cases h with
      | rendered hplain' hr' => cases hplain.symm.trans hplain'; cases hr'
      | @removed _ _ _ n x hplain' hdelete _ _ hmarker hhung hcut =>
          cases hplain.symm.trans hplain'
          rw [hparent] at hcut
          refine ⟨hdelete, x, ?_, hmarker⟩
          by_contra hx
          rw [if_neg hx] at hcut
          exact hhung hcut
  case others =>
    intro plain' r' k hplain' hr' _
    cases hplain.symm.trans hplain'
    cases hr'

/-- Every call is coherent. -/
theorem Call.coherent (e : Engine τ) (s : Dispatcher τ) (hd : Reachable d) (c : Call) :
    Coherent e s d c := by
  cases hplain : c.plain with
  | none =>
      obtain ⟨_, ha⟩ := Call.answer_of_not_plain (e := e) (s := s) (d := d) hplain
      exact coherent_of_idle (by rw [ha]) (by rw [ha]) (by rw [hplain]; simp)
  | some plain =>
      cases plain with
      | dispatch => exact absurd hplain Call.plain_ne_dispatch
      | add => exact coherent_of_adding hplain rfl
      | addFrom => exact coherent_of_adding hplain rfl
      | remove => exact coherent_of_removal hd hplain
      | get | compiled =>
          have ha := Call.answer_of_plain (e := e) (s := s) (d := d) hplain
          exact coherent_of_idle (by rw [ha]; rfl) (by rw [ha]; rfl) (by rw [hplain]; simp)

/-! ## A run -/

namespace Runs

theorem coherent (h : Runs s l s') :
    ∀ a ∈ l, Coherent a.engine a.dispatcher a.document a.call :=
  fun a ha => a.call.coherent a.engine a.dispatcher (h.reachable a ha)

/-- While a key has a template, it has the one that it began with, and no other is rendered. -/
theorem renders_entry (h : Runs s l s') (hk : ∀ t', s.cache.get? k = some t' → t' = t)
    (hheld : ∀ a ∈ l, a.dispatcher.cache.get? k ≠ none) :
    ∀ a ∈ l, a.dispatcher.cache.get? k = some t ∧
      ∀ t', .render k t' ∈ a.answer.requests → t' = t := by
  induction h with
  | done => exact fun a ha => absurd ha List.not_mem_nil
  | @call s s' d l e c hd h ih =>
      have ht : s.cache.get? k = some t := by
        obtain ⟨t₁, ht₁⟩ := Option.ne_none_iff_exists'.mp (hheld _ List.mem_cons_self)
        rwa [hk t₁ ht₁] at ht₁
      have hc := c.coherent e s hd
      intro a ha
      rcases List.mem_cons.mp ha with rfl | ha
      · refine ⟨ht, fun t' ht' => ?_⟩
        rcases hc.renders k t' ht' with h | ⟨h, -⟩
        · exact Option.some.inj (h.symm.trans ht)
        · cases h.symm.trans ht
      · refine ih (fun t' ht' => ?_) (fun b hb => hheld b (List.mem_cons_of_mem _ hb)) a ha
        rcases hc.keeps k t (.inl ht) with h | h
        · exact Option.some.inj (ht'.symm.trans h)
        · cases ht'.symm.trans h

end Runs

/-- Every call of a run is coherent.  From the call that begins with a template for a key, or that
leaves one, every rendering for the key is of this template, as long as the key has one. -/
theorem cache_stays_coherent (h : Runs s l s') :
    (∀ a ∈ l, Coherent a.engine a.dispatcher a.document a.call) ∧
    ∀ before a stretch after k t, l = before ++ a :: (stretch ++ after) →
      a.dispatcher.cache.get? k = some t ∨ a.answer.dispatcher.cache.get? k = some t →
      (∀ b ∈ stretch, b.dispatcher.cache.get? k ≠ none) →
      (∀ b ∈ stretch, b.dispatcher.cache.get? k = some t) ∧
      ∀ b ∈ a :: stretch, ∀ t', .render k t' ∈ b.answer.requests → t' = t := by
  refine ⟨h.coherent, ?_⟩
  rintro before a stretch after k t rfl ht hheld
  have hc := h.coherent a (List.mem_append_right _ List.mem_cons_self)
  obtain ⟨s₁, -, h₁⟩ := h.split
  obtain ⟨-, h₂⟩ := h₁.head
  obtain ⟨s₂, h₃, -⟩ := h₂.split
  have hleft : ∀ t', a.answer.dispatcher.cache.get? k = some t' → t' = t := by
    intro t' ht'
    rcases ht with ht | ht
    · rcases hc.keeps k t (.inl ht) with hkept | hgone
      · exact Option.some.inj (ht'.symm.trans hkept)
      · cases ht'.symm.trans hgone
    · exact Option.some.inj (ht'.symm.trans ht)
  have hstretch := h₃.renders_entry hleft hheld
  refine ⟨fun b hb => (hstretch b hb).1, fun b hb => ?_⟩
  rcases List.mem_cons.mp hb with rfl | hb
  · intro t' ht'
    rcases ht with ht | ht
    · rcases hc.renders k t' ht' with hsame | ⟨hnone, -⟩
      · exact Option.some.inj (hsame.symm.trans ht)
      · cases hnone.symm.trans ht
    · rcases hc.keeps k t' (.inr ht') with hkept | hgone
      · exact Option.some.inj (hkept.symm.trans ht)
      · cases ht.symm.trans hgone
  · exact (hstretch b hb).2

/-- A call that loads a template for `t`, with an engine that gives markup back. -/
def firstLoad : Step String where
  engine := ⟨some, fun t _ => some t⟩
  dispatcher := {}
  document := new
  call := .addFrom (fun _ => some "x") (.ofNode root) "t" (.bool true) { output := some .raw }

/-- The next call for `t`, with another loader and an engine that compiles nothing. -/
def secondLoad : Step String where
  engine := ⟨fun _ => none, fun t _ => some t⟩
  dispatcher := firstLoad.answer.dispatcher
  document := firstLoad.answer.document
  call := .addFrom (fun _ => some "y") (.ofNode root) "t" (.bool true) { output := some .raw }

/-- The second call renders what the first compiled, and nothing else. -/
theorem cache_stays_coherent_over_two_loads :
    Runs {} [firstLoad, secondLoad] secondLoad.answer.dispatcher ∧
    .render "t" "x" ∈ secondLoad.answer.requests ∧
    ∀ t, .render "t" t ∈ secondLoad.answer.requests → t = "x" := by
  have hin : RunsIn {} new [firstLoad, secondLoad] secondLoad.answer.dispatcher
      secondLoad.answer.document :=
    .call firstLoad.engine firstLoad.call (.call secondLoad.engine secondLoad.call .done)
  have hrun := hin.runs .new
  have hleft : firstLoad.answer.dispatcher.cache.get? "t" = some "x" := by decide
  obtain ⟨-, hrender⟩ := (cache_stays_coherent hrun).2 [] firstLoad [secondLoad] [] "t" "x" rfl
    (.inr hleft) (by simp [secondLoad, hleft])
  exact ⟨hrun, by decide, hrender secondLoad (by simp)⟩

end Inlay
