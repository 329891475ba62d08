/-
# `Inlay.Proofs.Dispatch.OneShot` — templates that were to be used once

With `storeCompiled` off a compiled template is to go again: an adding call
compiles it, stores it, renders it and forgets it.  The call forgets it where it
renders, whether or not the template takes the data, and nowhere else.  So of a
key that had no template before, none is left behind if the call

    does not come to compile      there is nothing to forget
    compiles and renders          it was forgotten

and one is left behind if it stops in between.  There are two such places
(`LeavesBehind`), and `oneShot_stays_iff` says that there is no third:

    emptyData   `addFrom` loads and compiles before it looks at the data
    filled      the target turns out to hold the template already

The second takes a call that is not to refill and takes nothing away first, for
after that no container of the key is left in the target (`isFilled_prepare_iff`).
-/
import Inlay.Proofs.Dispatch.Coherence
import Inlay.Proofs.Dispatch.Containers
import Inlay.Proofs.Dispatch.Failure
import Inlay.Template.Compiled

namespace Inlay

open Document Dispatcher

variable {τ : Type} {e : Engine τ} {s s' : Dispatcher τ} {d : Document} {c : Call} {r : Adding}
  {key : String} {target : Selection} {data : Data.Value} {p : Overrides}

/-- A call that has a template to store for the key, and stops before it renders it. -/
inductive LeavesBehind (e : Engine τ) (s : Dispatcher τ) (d : Document) : Call → String → Prop
  | emptyData {loader : Loader} {target : Selection} {location markup : String}
      {data : Data.Value} {p : Overrides} {t : τ} :
      TemplateRef.proper location = some location →
      ((s.defaults.merge p).validate && data.isEmpty) = true →
      loader location = some markup → e.compile markup = some t →
      LeavesBehind e s d (.addFrom loader target location data p) location
  | filled {c : Call} {r : Adding} {key markup : String} {t : τ} {n : NodeId} :
      c.adding? d = some r → r.key? = some key → r.isIdle s = false →
      r.markup = some markup → e.compile markup = some t →
      (r.options s).refill = false → (r.options s).removal = .none →
      r.target.first? = some n → d.renderedNodes n (some key) ≠ [] → LeavesBehind e s d c key

/-! ## Calls with data to render -/

/-- What an adding call with data to render leaves for a key that had no template is what its markup
compiles to, unless it renders that and is to keep no template. -/
theorem get?_of_busy (hr : c.adding? d = some r) (hbusy : r.isIdle s = false)
    (hk : r.key? = some key) (hnone : s.cache.get? key = none) :
    (c.answer e s d).dispatcher.cache.get? key =
      if (r.options s).storeCompiled = true ∨
          isFilled (prepare d r.target key (r.options s)) r.target key (r.options s) = true
      then r.markup.bind e.compile else none := by
  obtain ⟨asked, s', hf, hends⟩ := adding_ends (e := e) (s := s) hr
  have htemplate : template? e s key r.markup = r.markup.bind e.compile := template?_of_none hnone
  cases ht : r.markup.bind e.compile with
  | none =>
      have hnot : template? e s key r.markup = none := htemplate.trans ht
      rw [hends.stops (Adding.ready?_of_no_template hk hnot), ite_self]
      exact hf.get?_of_no_template hk hnone hnot
  | some t =>
      have hready : r.ready? e s = some (key, t) :=
        Adding.ready?_eq_some_iff.mpr ⟨hbusy, hk, htemplate.trans ht⟩
      have hheld : s'.cache.get? key = some t := (hends.renders key t hready).1
      rw [hends.eq_of_ready hready]
      cases hfilled : isFilled (prepare d r.target key (r.options s)) r.target key (r.options s) with
      | true => simp only [hfilled, if_true, or_true, hheld]
      | false =>
          simp only [hfilled, Bool.false_eq_true, if_false, or_false, get?_keep, true_and]
          cases (r.options s).storeCompiled with
          | true => exact hheld
          | false => rfl

/-- So a template is left that was to be used once if the markup compiled and the target turned out
to be filled. -/
theorem stays_of_busy (hr : c.adding? d = some r) (hbusy : r.isIdle s = false)
    (hk : r.key? = some key) (hnone : s.cache.get? key = none)
    (hone : (r.options s).storeCompiled = false) :
    (c.answer e s d).dispatcher.cache.get? key ≠ none ↔
      (∃ t, r.markup.bind e.compile = some t) ∧
      isFilled (prepare d r.target key (r.options s)) r.target key (r.options s) = true := by
  simp only [get?_of_busy hr hbusy hk hnone, hone, Bool.false_eq_true, false_or]
  split
  · next hfilled => rw [and_iff_left hfilled, Option.ne_none_iff_exists']
  · next hopen => exact iff_of_false (fun h => h rfl) fun h => hopen h.2

theorem leavesBehind_iff_of_busy (hr : c.adding? d = some r) (hk : r.key? = some key)
    (hbusy : r.isIdle s = false) :
    LeavesBehind e s d c key ↔ (∃ t, r.markup.bind e.compile = some t) ∧
      (r.options s).refill = false ∧ (r.options s).removal = .none ∧
      ∃ n, r.target.first? = some n ∧ d.renderedNodes n (some key) ≠ [] := by
  constructor
  · intro h
    cases h with
    | emptyData _ hidle =>
        cases hr
        exact absurd (hbusy.symm.trans hidle) Bool.false_ne_true
    | @filled _ r' _ markup t n hr' _ _ hm hcompile hrefill hremoval hn hfull =>
        cases hr.symm.trans hr'
        exact ⟨⟨t, by rw [hm, Option.bind_some, hcompile]⟩, hrefill, hremoval, n, hn, hfull⟩
  · rintro ⟨⟨t, ht⟩, hrefill, hremoval, n, hn, hfull⟩
    obtain ⟨markup, hm, hcompile⟩ := Option.bind_eq_some_iff.mp ht
    exact .filled hr hk hbusy hm hcompile hrefill hremoval hn hfull

/-! ## Calls with empty data -/

/-- An `add` looks at the data before it compiles. -/
theorem not_leavesBehind_add {t : TemplateRef}
    (hidle : ((s.defaults.merge p).validate && data.isEmpty) = true) :
    ¬ LeavesBehind e s d (.add target t data p) key := by
  intro h
  cases h with
  | filled hr _ hbusy =>
      cases hr
      exact absurd (hbusy.symm.trans hidle) Bool.false_ne_true

theorem leavesBehind_addFrom_iff {loader : Loader} {location : String}
    (hproper : TemplateRef.proper location = some location)
    (hidle : ((s.defaults.merge p).validate && data.isEmpty) = true) :
    LeavesBehind e s d (.addFrom loader target location data p) location ↔
      ∃ t, (loader location).bind e.compile = some t := by
  constructor
  · intro h
    cases h with
    | @emptyData _ _ _ markup _ _ t _ _ hm hcompile =>
        exact ⟨t, by rw [hm, Option.bind_some, hcompile]⟩
    | filled hr _ hbusy =>
        cases hr
        exact absurd (hbusy.symm.trans hidle) Bool.false_ne_true
  · rintro ⟨t, ht⟩
    obtain ⟨markup, hm, hcompile⟩ := Option.bind_eq_some_iff.mp ht
    exact .emptyData hproper hidle hm hcompile

/-- An `addFrom` compiles first, and leaves what it compiled. -/
theorem get?_addFrom_of_idle (e : Engine τ) (d : Document) (target : Selection) (loader : Loader)
    {location : String} (hproper : TemplateRef.proper location = some location)
    (hnone : s.cache.get? location = none)
    (hidle : ((s.defaults.merge p).validate && data.isEmpty) = true) :
    (s.addFrom e loader d target location data p).dispatcher.cache.get? location =
      (loader location).bind e.compile := by
  have hblank : Text.isAllBlank location = false := by
    by_contra h
    have hno : TemplateRef.proper location = none := if_pos (by simpa using h)
    rw [hno] at hproper
    cases hproper
  simp only [addFrom, hblank, Cache.contains_eq_false.mpr hnone, Bool.false_eq_true, if_false]
  cases loader location with
  | none => exact hnone
  | some markup =>
      simp only [compileInto, Option.bind_some]
      cases e.compile markup with
      | none => exact hnone
      | some t =>
          have hidle' : (((s.store location t).defaults.merge p).validate && data.isEmpty) = true :=
            hidle
          show ((s.store location t).add e d target (.key location) data p).dispatcher.cache.get?
            location = some t
          rw [add_of_idle e d target _ hidle']
          exact get?_store hnone

/-! ## Both -/

/-- An adding call that is to keep no template leaves one for a key that had none exactly if it
compiled it and stopped before rendering, be it for empty data or because the target is filled. -/
theorem oneShot_stays_iff (hd : Reachable d) (hr : c.adding? d = some r) (hk : r.key? = some key)
    (hnone : s.cache.get? key = none) (hone : (r.options s).storeCompiled = false) :
    (c.answer e s d).dispatcher.cache.get? key ≠ none ↔ LeavesBehind e s d c key := by
  cases hidle : r.isIdle s with
  | false =>
      rw [stays_of_busy hr hidle hk hnone hone, isFilled_prepare_iff hd.forest,
        leavesBehind_iff_of_busy hr hk hidle]
  | true =>
      cases c with
      | add target t data p =>
          cases hr
          rw [Call.answer, add_of_idle e d target t hidle]
          exact iff_of_false (fun h => h hnone) (not_leavesBehind_add hidle)
      | addFrom loader target location data p =>
          cases hr
          cases TemplateRef.proper_eq hk
          rw [Call.answer, get?_addFrom_of_idle e d target loader hk hnone hidle,
            leavesBehind_addFrom_iff hk hidle, Option.ne_none_iff_exists']
      | _ => cases hr

/-- A page on which `#out` holds a container of `#t`. -/
def filledPage : Document :=
  .parse "<p id=t>x</p><div id=out><div data-template-id='#t'>old</div></div>"

/-- An add for both that is to keep no template. -/
def addOnce (refill : Bool) : Call :=
  .add (filledPage.select "#out") (.key "#t") (.bool true)
    { refill := some refill, storeCompiled := some false }

/-- Stopped at the filled target, it leaves the template that it compiled. -/
theorem template_left_at_filled_target :
    ∃ r, (addOnce false).adding? filledPage = some r ∧ r.key? = some "#t" ∧
    ({} : Dispatcher CompiledTemplate).cache.get? "#t" = none ∧
    (r.options ({} : Dispatcher CompiledTemplate)).storeCompiled = false ∧
    ((addOnce false).answer CompiledTemplate.engine {} filledPage).dispatcher.cache.keys =
      ["#t"] :=
  ⟨_, rfl, rfl, rfl, rfl, by decide +kernel⟩

/-- Where it refills, it leaves none. -/
theorem refilled_once_forgotten :
    Reachable filledPage ∧ ∃ r, (addOnce true).adding? filledPage = some r ∧
    r.key? = some "#t" ∧ (r.options ({} : Dispatcher CompiledTemplate)).storeCompiled = false ∧
    ((addOnce true).answer CompiledTemplate.engine {} filledPage).dispatcher.cache.get? "#t" =
      none := by
  refine ⟨.parse _, _, rfl, rfl, rfl, ?_⟩
  by_contra hleft
  cases (oneShot_stays_iff (.parse _) rfl rfl rfl rfl).mp hleft with
  | filled hr _ _ _ _ hrefill =>
      cases hr
      cases hrefill

end Inlay
