/-
# `Inlay.Proofs.Dispatch.Call` — calls, and what each of them can do

A `Call` is a call of the dispatcher with all that it is given; `answer` runs
it.  `plain` resolves the action word of a `dispatch`, so that everything below
is said of the other calls.

`add` and `addFrom` differ only in where key and markup come from.  Both are an
`Adding`, and both go through the same three stages:

    fetch     find the template of the key: cached, or compiled from the markup
    prepare   take rendered nodes away; stop if the target is filled
    place     render, and deliver the fragment

`ready?` is the template that an adding call comes to render.  Where it is
`none` the call stops while fetching and leaves the document alone; where it is a
template, the call prepares and places it (`Ends`, `Ends.eq_of_ready`).  `Fetches`
says what fetching may ask for and store: it asks only for a key that the cache
does not hold, and stores at most the template of this one.
-/
import Inlay.Dispatch.Dispatcher
import Inlay.Proofs.Dispatch.Cache

namespace Inlay

/-- A call of the dispatcher. -/
inductive Call
  | dispatch (target : Selection) (word : String) (t : TemplateRef) (data : Data.Value)
      (p : Overrides)
  | add (target : Selection) (t : TemplateRef) (data : Data.Value) (p : Overrides)
  | addFrom (loader : Loader) (target : Selection) (location : String) (data : Data.Value)
      (p : Overrides)
  | remove (target : Selection) (t : TemplateRef) (p : Overrides)
  | get (target : Selection) (t : TemplateRef)
  | compiled

variable {τ : Type} {e : Engine τ} {s s' : Dispatcher τ} {d : Document} {target : Selection}
  {key : String} {t : τ} {data : Data.Value} {o : Options} {c c' : Call}

namespace Call

/-- Run a call. -/
def answer (e : Engine τ) (s : Dispatcher τ) (d : Document) : Call → Answer τ
  | .dispatch target word t data p => s.dispatch e d target word t data p
  | .add target t data p => s.add e d target t data p
  | .addFrom loader target location data p => s.addFrom e loader d target location data p
  | .remove target t p =>
      let (s, d) := s.remove d target t p
      ⟨s, d, .target target, []⟩
  | .get target t => ⟨s, d, .nodes (Dispatcher.get d target t), []⟩
  | .compiled => ⟨s, d, .compiled s.cache, []⟩

/-- The nodes that a call is about. -/
def target? : Call → Option Selection
  | .dispatch target _ _ _ _ | .add target _ _ _ | .addFrom _ target _ _ _
  | .remove target _ _ | .get target _ => some target
  | .compiled => none

/-- The call for an action. -/
def ofAction (target : Selection) (t : TemplateRef) (data : Data.Value) (p : Overrides) :
    Action → Call
  | .get => .get target t
  | .compiled => .compiled
  | .remove => .remove target t (p.followedBy (.ofValue data))
  | .add => .add target t data p

/-- The call that the word of a `dispatch` names; nothing for a blank word. -/
def plain : Call → Option Call
  | .dispatch target word t data p => (Action.named? word).map (ofAction target t data p)
  | c => some c

theorem answer_of_plain (h : c.plain = some c') : c.answer e s d = c'.answer e s d := by
  cases c with
  | dispatch target word t data p =>
      rw [plain, Option.map_eq_some_iff] at h
      obtain ⟨a, ha, rfl⟩ := h
      rw [answer, Dispatcher.dispatch, ha]
      cases a <;> rfl
  | _ => cases h; rfl

/-- A blank word does nothing. -/
theorem answer_of_not_plain (h : c.plain = none) :
    ∃ target, c.answer e s d = ⟨s, d, .target target, []⟩ := by
  cases c with
  | dispatch target word t data p =>
      rw [plain, Option.map_eq_none_iff] at h
      exact ⟨target, by rw [answer, Dispatcher.dispatch, h]⟩
  | _ => cases h

/-- No word names a call with a word. -/
theorem plain_ne_dispatch {word : String} {t : TemplateRef} {p : Overrides} :
    c.plain ≠ some (.dispatch target word t data p) := by
  intro h
  cases c with
  | dispatch =>
      rw [plain, Option.map_eq_some_iff] at h
      obtain ⟨a, -, ha⟩ := h
      cases a <;> cases ha
  | _ => cases h

theorem target?_of_plain (h : c.plain = some c') (ht : c'.target? = some target) :
    c.target? = some target := by
  cases c with
  | dispatch =>
      rw [plain, Option.map_eq_some_iff] at h
      obtain ⟨a, -, rfl⟩ := h
      cases a with
      | compiled => cases ht
      | get | remove | add => exact ht
  | _ => cases h; exact ht

end Call

/-! ## Adding -/

/-- What `add` and `addFrom` are about. -/
structure Adding where
  target : Selection
  key? : Option String
  markup : Option String
  data : Data.Value
  overrides : Overrides

/-- An adding call in a document: its markup stands there, or comes from the loader. -/
def Call.adding? (d : Document) : Call → Option Adding
  | .add target t data p => some ⟨target, t.key?, (t.source? d).map d.inner, data, p⟩
  | .addFrom loader target location data p =>
      some ⟨target, TemplateRef.proper location, loader location, data, p⟩
  | _ => none

theorem target?_of_adding? {r : Adding} (h : c.adding? d = some r) :
    c.target? = some r.target := by
  cases c <;> cases h <;> rfl

namespace Dispatcher

/-- The template of a key: the cached one, else what the markup compiles to. -/
def template? (e : Engine τ) (s : Dispatcher τ) (key : String) (markup : Option String) :
    Option τ :=
  match s.cache.get? key with
  | some t => some t
  | none => markup.bind e.compile

/-- The dispatcher with a template stored under a key that has none. -/
def store (s : Dispatcher τ) (key : String) (t : τ) : Dispatcher τ :=
  { s with cache := s.cache.insert key t }

/-- The dispatcher behind a rendering. -/
def keep (s : Dispatcher τ) (key : String) (o : Options) : Dispatcher τ :=
  if o.storeCompiled then s else { s with cache := s.cache.evict key }

/-- Render a template in a prepared document and deliver the fragment. -/
def place (e : Engine τ) (d : Document) (target : Selection) (key : String) (t : τ)
    (data : Data.Value) (o : Options) : Document × Outcome τ :=
  match e.render t data with
  | none => (d, .target target)
  | some fragment => deliver d target key fragment o

theorem renderInto_eq (h : s.cache.get? key = some t) :
    renderInto e s d target key data o =
      let d' := prepare d target key o
      if isFilled d' target key o then ⟨s, d', .target target, []⟩
      else ⟨s.keep key o, (place e d' target key t data o).1,
        (place e d' target key t data o).2, [.render key t]⟩ := by
  unfold renderInto place keep
  rw [h]
  simp only
  split
  · rfl
  · cases e.render t data <;> rfl

end Dispatcher

namespace Adding

open Dispatcher

variable {r : Adding}

/-- The options of an adding call. -/
def options (s : Dispatcher τ) (r : Adding) : Options := s.defaults.merge r.overrides

/-- Data that are empty where only others are rendered. -/
def isIdle (s : Dispatcher τ) (r : Adding) : Bool := (r.options s).validate && r.data.isEmpty

/-- The key and the template that an adding call comes to render. -/
def ready? (e : Engine τ) (s : Dispatcher τ) (r : Adding) : Option (String × τ) :=
  if r.isIdle s then none
  else r.key?.bind fun key => (template? e s key r.markup).map (key, ·)

theorem ready?_eq_some_iff : r.ready? e s = some (key, t) ↔
    r.isIdle s = false ∧ r.key? = some key ∧ template? e s key r.markup = some t := by
  unfold ready?
  cases r.isIdle s with
  | true => simp
  | false =>
      cases r.key? with
      | none => simp
      | some k =>
          simp only [Bool.false_eq_true, if_false, Option.bind_some, Option.map_eq_some_iff,
            Prod.mk.injEq, Option.some.injEq, true_and]
          constructor
          · rintro ⟨_, ht, rfl, rfl⟩; exact ⟨rfl, ht⟩
          · rintro ⟨rfl, ht⟩; exact ⟨_, ht, rfl, rfl⟩

theorem ready?_of_isIdle (h : r.isIdle s = true) : r.ready? e s = none := if_pos h

theorem ready?_of_no_key (h : r.key? = none) : r.ready? e s = none := by
  rw [ready?, h]
  exact ite_self _

theorem ready?_of_no_template (hk : r.key? = some key) (h : template? e s key r.markup = none) :
    r.ready? e s = none := by
  rw [ready?, hk, Option.bind_some, h]
  exact ite_self _

end Adding

/-- What fetching asks for, and the dispatcher behind it. -/
inductive Fetches (e : Engine τ) (s : Dispatcher τ) (r : Adding) :
    List (Request τ) → Dispatcher τ → Prop
  /-- The key has a template, or there is no key to find one for. -/
  | nothing : Fetches e s r [] s
  /-- There was no markup, or it did not compile. -/
  | failed {key : String} {asked : List (Request τ)} :
      r.key? = some key → s.cache.get? key = none →
      (∀ q ∈ asked, q = .load key ∨ ∃ markup, q = .compile key markup) → Fetches e s r asked s
  | stored {key markup : String} {t : τ} {asked : List (Request τ)} :
      r.key? = some key → s.cache.get? key = none → r.markup = some markup →
      e.compile markup = some t → .compile key markup ∈ asked →
      (∀ q ∈ asked, q = .load key ∨ q = .compile key markup) →
      Fetches e s r asked (s.store key t)

namespace Dispatcher

variable {r : Adding}

theorem template?_of_get? {markup : Option String} (h : s.cache.get? key = some t) :
    template? e s key markup = some t := by
  rw [template?, h]

theorem template?_of_none {markup : Option String} (h : s.cache.get? key = none) :
    template? e s key markup = markup.bind e.compile := by
  rw [template?, h]

theorem get?_store (h : s.cache.get? key = none) : (s.store key t).cache.get? key = some t := by
  rw [store, Cache.get?_insert, if_pos rfl, h]
  rfl

end Dispatcher

open Dispatcher

/-- Where nothing is to be had for a key without template, fetching stores nothing for it. -/
theorem Fetches.get?_of_no_template {r : Adding} {asked : List (Request τ)} (h : Fetches e s r asked s')
    (hk : r.key? = some key) (hnone : s.cache.get? key = none)
    (ht : template? e s key r.markup = none) : s'.cache.get? key = none := by
  cases h with
  | nothing => exact hnone
  | failed => exact hnone
  | stored hk' hnone' hm hcompile =>
      cases hk.symm.trans hk'
      rw [template?_of_none hnone', hm, Option.bind_some, hcompile] at ht
      cases ht

/-- How an adding call ends, `s'` being the dispatcher behind fetching. -/
structure Ends (e : Engine τ) (s s' : Dispatcher τ) (d : Document) (r : Adding)
    (asked : List (Request τ)) (a : Answer τ) : Prop where
  /-- No template to render. -/
  stops : r.ready? e s = none → a = ⟨s', d, .target r.target, asked⟩
  /-- A template to render, which the dispatcher now holds. -/
  renders : ∀ key t, r.ready? e s = some (key, t) → s'.cache.get? key = some t ∧
    a = { renderInto e s' d r.target key r.data (r.options s) with
      requests := asked ++ (renderInto e s' d r.target key r.data (r.options s)).requests }

namespace Ends

variable {r : Adding} {asked : List (Request τ)} {a : Answer τ}

theorem of_none (hr : r.ready? e s = none) (ha : a = ⟨s', d, .target r.target, asked⟩) :
    Ends e s s' d r asked a where
  stops _ := ha
  renders key t h := by
    rw [hr] at h
    cases h

theorem of_some (hr : r.ready? e s = some (key, t)) (hc : s'.cache.get? key = some t)
    (ha : a = { renderInto e s' d r.target key r.data (r.options s) with
      requests := asked ++ (renderInto e s' d r.target key r.data (r.options s)).requests }) :
    Ends e s s' d r asked a where
  stops h := by
    rw [hr] at h
    cases h
  renders key t h := by
    rw [hr] at h
    cases h
    exact ⟨hc, ha⟩

end Ends

/-- An `add` looks at the data first. -/
theorem add_of_idle (e : Engine τ) (d : Document) (target : Selection) (t : TemplateRef)
    {p : Overrides} (hidle : ((s.defaults.merge p).validate && data.isEmpty) = true) :
    s.add e d target t data p = ⟨s, d, .target target, []⟩ :=
  if_pos hidle

/-- A cached template is rendered without fetching. -/
theorem add_of_get? {tr : TemplateRef} {p : Overrides} (hk : tr.key? = some key)
    (hc : s.cache.get? key = some t) :
    s.add e d target tr data p =
      if (s.defaults.merge p).validate && data.isEmpty then ⟨s, d, .target target, []⟩
      else renderInto e s d target key data (s.defaults.merge p) := by
  simp only [add, hk, Cache.contains_of_get? hc, if_true]

/-- `add` fetches, and then stops or renders. -/
theorem add_ends (e : Engine τ) (s : Dispatcher τ) (d : Document) (target : Selection)
    (t : TemplateRef) (data : Data.Value) (p : Overrides) :
    let r : Adding := ⟨target, t.key?, (t.source? d).map d.inner, data, p⟩
    ∃ asked s', Fetches e s r asked s' ∧ Ends e s s' d r asked (s.add e d target t data p) := by
  intro r
  cases hidle : r.isIdle s with
  | true => exact ⟨[], s, .nothing, .of_none (Adding.ready?_of_isIdle hidle) (if_pos hidle)⟩
  | false =>
  have hbusy : ((s.defaults.merge p).validate && data.isEmpty) = false := hidle
  simp only [add, hbusy, Bool.false_eq_true, if_false]
  cases hk : t.key? with
  | none => exact ⟨[], s, .nothing, .of_none (Adding.ready?_of_no_key hk) rfl⟩
  | some key =>
  have hready : ∀ {tm : τ}, template? e s key r.markup = some tm →
      r.ready? e s = some (key, tm) :=
    fun ht => Adding.ready?_eq_some_iff.mpr ⟨hidle, hk, ht⟩
  have hstop : template? e s key r.markup = none → r.ready? e s = none :=
    Adding.ready?_of_no_template hk
  cases hc : s.cache.get? key with
  | some tm =>
      simp only [Cache.contains_of_get? hc, if_true]
      exact ⟨[], s, .nothing, .of_some (hready (template?_of_get? hc)) hc rfl⟩
  | none =>
  rw [template?_of_none hc] at hready hstop
  simp only [Cache.contains_eq_false.mpr hc, Bool.false_eq_true, if_false]
  cases hs : t.source? d with
  | none =>
      have hm : r.markup = none := Option.map_eq_none_iff.mpr hs
      exact ⟨[], s, .nothing, .of_none (hstop (by rw [hm]; rfl)) rfl⟩
  | some source =>
  have hm : r.markup = some (d.inner source) := Option.map_eq_some_iff.mpr ⟨source, hs, rfl⟩
  rw [hm, Option.bind_some] at hready hstop
  simp only [compileInto]
  cases ht : e.compile (d.inner source) with
  | none =>
      refine ⟨[.compile key (d.inner source)], s, .failed hk hc fun q hq => ?_,
        .of_none (hstop ht) rfl⟩
      exact .inr ⟨_, List.mem_singleton.mp hq⟩
  | some tm =>
      refine ⟨[.compile key (d.inner source)], s.store key tm,
        .stored hk hc hm ht List.mem_cons_self fun q hq => ?_,
        .of_some (hready ht) (get?_store hc) rfl⟩
      exact .inr (List.mem_singleton.mp hq)

/-- Once the location has a template, `addFrom` is an `add` that finds it. -/
theorem Ends.of_cached {loader : Loader} {location : String} {p : Overrides}
    {asked : List (Request τ)} (hkey : TemplateRef.proper location = some location)
    (hs : s'.defaults = s.defaults) (hc : s'.cache.get? location = some t)
    (ht : template? e s location (loader location) = some t) :
    Ends e s s' d ⟨target, TemplateRef.proper location, loader location, data, p⟩ asked
      { s'.add e d target (.key location) data p with
        requests := asked ++ (s'.add e d target (.key location) data p).requests } := by
  have hkey' : (TemplateRef.key location).key? = some location := hkey
  rw [add_of_get? hkey' hc, hs]
  cases hidle : (s.defaults.merge p).validate && data.isEmpty with
  | true => exact .of_none (Adding.ready?_of_isIdle hidle) (by simp)
  | false => exact .of_some (Adding.ready?_eq_some_iff.mpr ⟨hidle, hkey, ht⟩) hc rfl

/-- `addFrom` fetches, and then stops or renders. -/
theorem addFrom_ends (e : Engine τ) (s : Dispatcher τ) (d : Document) (loader : Loader)
    (target : Selection) (location : String) (data : Data.Value) (p : Overrides) :
    let r : Adding := ⟨target, TemplateRef.proper location, loader location, data, p⟩
    ∃ asked s', Fetches e s r asked s' ∧
      Ends e s s' d r asked (s.addFrom e loader d target location data p) := by
  intro r
  cases hblank : Text.isAllBlank location with
  | true =>
      have hkey : r.key? = none := if_pos hblank
      exact ⟨[], s, .nothing, .of_none (Adding.ready?_of_no_key hkey) (if_pos hblank)⟩
  | false =>
  have hkey : TemplateRef.proper location = some location := if_neg (by simp [hblank])
  simp only [addFrom, hblank, Bool.false_eq_true, if_false]
  cases hc : s.cache.get? location with
  | some tm =>
      simp only [Cache.contains_of_get? hc, if_true]
      exact ⟨[], s, .nothing, .of_cached hkey rfl hc (template?_of_get? hc)⟩
  | none =>
  have htemplate : template? e s location r.markup = r.markup.bind e.compile := template?_of_none hc
  simp only [Cache.contains_eq_false.mpr hc, Bool.false_eq_true, if_false]
  cases hl : loader location with
  | none =>
      have hm : r.markup = none := hl
      have hnone : template? e s location r.markup = none := htemplate.trans (by rw [hm]; rfl)
      refine ⟨[.load location], s, .failed hkey hc fun q hq => ?_,
        .of_none (Adding.ready?_of_no_template hkey hnone) rfl⟩
      exact .inl (List.mem_singleton.mp hq)
  | some markup =>
  have hm : r.markup = some markup := hl
  have hcompile : template? e s location r.markup = e.compile markup :=
    htemplate.trans (by rw [hm]; rfl)
  simp only [compileInto]
  cases ht : e.compile markup with
  | none =>
      refine ⟨[.load location, .compile location markup], s, .failed hkey hc fun q hq => ?_,
        .of_none (Adding.ready?_of_no_template hkey (hcompile.trans ht)) rfl⟩
      rcases List.mem_cons.mp hq with h | h
      · exact .inl h
      · exact .inr ⟨_, List.mem_singleton.mp h⟩
  | some tm =>
      exact ⟨[.load location, .compile location markup], s.store location tm,
        .stored hkey hc hm ht (by simp) (by simp),
        .of_cached hkey rfl (get?_store hc) (hcompile.trans ht)⟩

/-- Every adding call fetches, and then stops or renders. -/
theorem adding_ends {r : Adding} (h : c.adding? d = some r) :
    ∃ asked s', Fetches e s r asked s' ∧ Ends e s s' d r asked (c.answer e s d) := by
  cases c with
  | add target t data p => cases h; exact add_ends e s d target t data p
  | addFrom loader target location data p =>
      cases h; exact addFrom_ends e s d loader target location data p
  | _ => cases h

/-- How a call that comes to render ends, all told. -/
theorem Ends.eq_of_ready {r : Adding} {asked : List (Request τ)} {a : Answer τ}
    (h : Ends e s s' d r asked a) (hr : r.ready? e s = some (key, t)) :
    a = let o := r.options s
      let d' := prepare d r.target key o
      if isFilled d' r.target key o then ⟨s', d', .target r.target, asked⟩
      else ⟨s'.keep key o, (place e d' r.target key t r.data o).1,
        (place e d' r.target key t r.data o).2, asked ++ [.render key t]⟩ := by
  obtain ⟨hc, ha⟩ := h.renders key t hr
  rw [ha, renderInto_eq hc]
  simp only
  split
  · simp
  · rfl

end Inlay
