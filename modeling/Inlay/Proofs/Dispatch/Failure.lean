/-
# `Inlay.Proofs.Dispatch.Failure` — what is left of an add that fails

`Fails` lists the ways in which an adding call comes to nothing:

    emptyData       empty data, where data are checked
    noKey           a reference that has no key
    blankLocation   a location of blanks only
    noSource        no node holds the markup
    notLoaded       the loader has no markup
    notCompiled     the markup does not compile
    notRendered     the template refuses the data

An adding call fails in one of these ways, or finds its template in the target,
or renders it (`fails_or_renders`).  Every failed call answers its target.  The
first six leave the document as it was.  The last comes after rendered nodes were
taken away, and they stay away (`Fails.answer`): the document is as it was only if
there were none to take (`removeAll_eq_self_iff`).  So a template that refuses its
data costs the containers that it was to replace.
-/
import Inlay.Proofs.Dispatch.Reachable

namespace Inlay

open Document Dispatcher

variable {τ : Type} {e : Engine τ} {s s' : Dispatcher τ} {d : Document} {c : Call} {r : Adding}

/-- Why an adding call comes to nothing. -/
inductive Failure
  | emptyData
  | noKey
  | blankLocation
  | noSource
  | notLoaded
  | notCompiled
  | notRendered (key : String)

/-- A call comes to nothing for this reason. -/
inductive Fails (e : Engine τ) (s : Dispatcher τ) (d : Document) : Call → Failure → Prop
  | emptyData {c : Call} {r : Adding} :
      c.adding? d = some r → r.isIdle s = true → Fails e s d c .emptyData
  | noKey {target : Selection} {t : TemplateRef} {data : Data.Value} {p : Overrides} :
      t.key? = none → Fails e s d (.add target t data p) .noKey
  | blankLocation {loader : Loader} {target : Selection} {location : String} {data : Data.Value}
      {p : Overrides} :
      Text.isAllBlank location = true →
      Fails e s d (.addFrom loader target location data p) .blankLocation
  | noSource {target : Selection} {t : TemplateRef} {data : Data.Value} {p : Overrides}
      {key : String} :
      t.key? = some key → s.cache.get? key = none → t.source? d = none →
      Fails e s d (.add target t data p) .noSource
  | notLoaded {loader : Loader} {target : Selection} {location : String} {data : Data.Value}
      {p : Overrides} :
      s.cache.get? location = none → loader location = none →
      Fails e s d (.addFrom loader target location data p) .notLoaded
  | notCompiled {c : Call} {r : Adding} {key markup : String} :
      c.adding? d = some r → r.key? = some key → s.cache.get? key = none →
      r.markup = some markup → e.compile markup = none → Fails e s d c .notCompiled
  | notRendered {c : Call} {r : Adding} {key : String} {t : τ} :
      c.adding? d = some r → r.ready? e s = some (key, t) →
      isFilled (prepare d r.target key (r.options s)) r.target key (r.options s) = false →
      e.render t r.data = none → Fails e s d c (.notRendered key)

/-- The nodes that an adding call has taken away when it fails. -/
def Call.lost (s : Dispatcher τ) (d : Document) (c : Call) : Failure → List NodeId
  | .notRendered key =>
      match c.adding? d with
      | some r => preRemoved d r.target key (r.options s)
      | none => []
  | _ => []

theorem TemplateRef.proper_eq {k key : String} (h : TemplateRef.proper k = some key) : k = key := by
  unfold TemplateRef.proper at h
  split at h
  · cases h
  · exact Option.some.inj h

/-- An adding call fails, or has a template to render and either finds it there already or renders
it. -/
theorem fails_or_renders (hr : c.adding? d = some r) :
    (∃ f, Fails e s d c f) ∨ ∃ key t, r.ready? e s = some (key, t) ∧
      (isFilled (prepare d r.target key (r.options s)) r.target key (r.options s) = true ∨
        (e.render t r.data).isSome) := by
  cases hidle : r.isIdle s with
  | true => exact .inl ⟨_, .emptyData hr hidle⟩
  | false =>
  cases hk : r.key? with
  | none =>
      refine .inl ?_
      cases c with
      | add => cases hr; exact ⟨_, .noKey hk⟩
      | addFrom loader target location data p =>
          cases hr
          refine ⟨_, .blankLocation ?_⟩
          by_contra hb
          exact absurd (hk.symm.trans (if_neg hb)) (by simp)
      | _ => cases hr
  | some key =>
  cases ht : template? e s key r.markup with
  | none =>
      cases hc : s.cache.get? key with
      | some t => rw [template?_of_get? hc] at ht; cases ht
      | none =>
          rw [template?_of_none hc] at ht
          refine .inl ?_
          cases hm : r.markup with
          | some markup =>
              rw [hm] at ht
              exact ⟨_, .notCompiled hr hk hc hm ht⟩
          | none =>
              cases c with
              | add => cases hr; exact ⟨_, .noSource hk hc (Option.map_eq_none_iff.mp hm)⟩
              | addFrom loader target location data p =>
                  cases hr
                  have hkey : location = key := TemplateRef.proper_eq hk
                  subst hkey
                  exact ⟨_, .notLoaded hc hm⟩
              | _ => cases hr
  | some t =>
      have hready : r.ready? e s = some (key, t) := Adding.ready?_eq_some_iff.mpr ⟨hidle, hk, ht⟩
      cases hf : isFilled (prepare d r.target key (r.options s)) r.target key (r.options s) with
      | true => exact .inr ⟨key, t, hready, .inl hf⟩
      | false =>
          cases hrender : e.render t r.data with
          | none => exact .inl ⟨_, .notRendered hr hready hf hrender⟩
          | some fragment => exact .inr ⟨key, t, hready, .inr (by rw [hrender]; rfl)⟩

/-! ## Stopping before the document is touched -/

/-- A call that fails before rendering has no template to render. -/
theorem Fails.not_ready {f : Failure} (h : Fails e s d c f) (hf : ∀ key, f ≠ .notRendered key) :
    ∃ r, c.adding? d = some r ∧ r.ready? e s = none := by
  cases h with
  | emptyData hr hidle => exact ⟨_, hr, Adding.ready?_of_isIdle hidle⟩
  | noKey hk => exact ⟨_, rfl, Adding.ready?_of_no_key hk⟩
  | blankLocation hb => exact ⟨_, rfl, Adding.ready?_of_no_key (if_pos hb)⟩
  | noSource hk hc hs =>
      refine ⟨_, rfl, Adding.ready?_of_no_template hk ?_⟩
      rw [template?_of_none hc, hs]
      rfl
  | @notLoaded loader target location data p hc hl =>
      refine ⟨_, rfl, ?_⟩
      by_cases hb : Text.isAllBlank location = true
      · exact Adding.ready?_of_no_key (if_pos hb)
      · refine Adding.ready?_of_no_template (if_neg hb) ?_
        rw [template?_of_none hc, hl]
        rfl
  | notCompiled hr hk hc hm ht =>
      refine ⟨_, hr, Adding.ready?_of_no_template hk ?_⟩
      rw [template?_of_none hc, hm, Option.bind_some, ht]
  | notRendered => exact absurd rfl (hf _)

/-! ## The document behind a failure -/

/-- A failed call answers its target and leaves the document but for the nodes it took away. -/
theorem Fails.answer {f : Failure} (h : Fails e s d c f) :
    ∃ target, c.target? = some target ∧ (c.answer e s d).outcome = .target target ∧
      (c.answer e s d).document = (c.lost s d f).foldl Document.remove d := by
  have hstop : (∀ key, f ≠ .notRendered key) → ∃ target, c.target? = some target ∧
      (c.answer e s d).outcome = .target target ∧ (c.answer e s d).document = d := by
    intro hf
    obtain ⟨r, hr, hnone⟩ := h.not_ready hf
    obtain ⟨asked, s', -, hends⟩ := adding_ends (e := e) (s := s) hr
    refine ⟨r.target, target?_of_adding? hr, ?_⟩
    rw [hends.stops hnone]
    exact ⟨rfl, rfl⟩
  cases f with
  | notRendered key =>
      cases h with
      | @notRendered _ r _ t hr hready hfilled hrender =>
          obtain ⟨asked, s', -, hends⟩ := adding_ends (e := e) (s := s) hr
          refine ⟨r.target, target?_of_adding? hr, ?_⟩
          rw [hends.eq_of_ready hready]
          simp only [hfilled, Bool.false_eq_true, if_false, place, hrender, Call.lost, hr,
            ← prepare_eq]
          exact ⟨trivial, trivial⟩
  | _ => exact hstop (by intro key; simp)

/-- Taking away a node that hangs somewhere shows in that node. -/
theorem removeAll_eq_self_iff {ns : List NodeId} (hns : ∀ n ∈ ns, d.parent? n ≠ none) :
    (∀ id, (ns.foldl Document.remove d).node? id = d.node? id) ↔ ns = [] := by
  constructor
  · intro h
    cases ns with
    | nil => rfl
    | cons n ns =>
        have hp : ((n :: ns).foldl Document.remove d).parent? n = none := by
          rw [parent?_removeAll, if_pos List.mem_cons_self]
        rw [parent?, h, ← parent?] at hp
        exact absurd hp (hns n List.mem_cons_self)
  · rintro rfl _
    rfl

theorem lost_hangs (hd : Forest d) {f : Failure} : ∀ n ∈ c.lost s d f, d.parent? n ≠ none := by
  intro n hn
  unfold Call.lost at hn
  split at hn
  · split at hn
    · unfold preRemoved at hn
      split at hn
      · cases hn
      · next m _ =>
          exact parent?_ne_none_of_ancestor
            (hd.mem_descendants.mp (replaced_subset m _ _ hn))
    · cases hn
  · cases hn

/-- A failed add answers its target.  It leaves every node as it was, unless it is a template that
refuses its data after rendered nodes were taken away; those then hang nowhere, and nothing else
changes. -/
theorem failed_add_unchanged_iff (hd : Reachable d) {f : Failure} (h : Fails e s d c f) :
    (∃ target, c.target? = some target ∧ (c.answer e s d).outcome = .target target) ∧
    (c.answer e s d).document = (c.lost s d f).foldl Document.remove d ∧
    ((∀ id, (c.answer e s d).document.node? id = d.node? id) ↔ c.lost s d f = []) := by
  obtain ⟨target, ht, ho, hdoc⟩ := h.answer
  refine ⟨⟨target, ht, ho⟩, hdoc, ?_⟩
  rw [hdoc]
  exact removeAll_eq_self_iff (lost_hangs hd.forest)

/-! ## A container lost to a refusal -/

/-- An engine whose templates refuse all data. -/
def refusing : Engine Unit := ⟨fun _ => some (), fun _ _ => none⟩

/-- A page that holds a container for the key `t`. -/
def renderedPage : Document :=
  ((new.createElement "div").1.setAttribute ⟨1⟩ markerAttribute "t").appendChild root ⟨1⟩

/-- A dispatcher that holds a template for the key `t`. -/
def holdingT : Dispatcher Unit := { cache := ⟨[("t", ())]⟩ }

/-- An add for the key `t`. -/
def addT (removal : Removal) : Call :=
  .add (.ofNode root) (.key "t") (.bool true) { removal := some removal }

theorem renderedPage_reachable : Reachable renderedPage :=
  .appendChild _ _ (.setAttribute _ _ _ (.createElement _ .new))

theorem addT_fails (removal : Removal) :
    Fails refusing holdingT renderedPage (addT removal) (.notRendered "t") := by
  refine .notRendered rfl (t := ()) ?_ rfl rfl
  rfl

/-- The container of `t` is lost to an add that comes to nothing. -/
theorem refused_data_cost_container :
    Reachable renderedPage ∧ Fails refusing holdingT renderedPage (addT .same) (.notRendered "t") ∧
    renderedPage.parent? ⟨1⟩ = some root ∧
    ((addT .same).answer refusing holdingT renderedPage).document.parent? ⟨1⟩ = none :=
  ⟨renderedPage_reachable, addT_fails .same, by decide, by decide⟩

/-- Where nothing was to be replaced, nothing is lost. -/
theorem refused_data_cost_nothing :
    Reachable renderedPage ∧ Fails refusing holdingT renderedPage (addT .none) (.notRendered "t") ∧
    ∀ id, ((addT .none).answer refusing holdingT renderedPage).document.node? id =
      renderedPage.node? id := by
  obtain ⟨-, -, hsame⟩ := failed_add_unchanged_iff renderedPage_reachable (addT_fails .none)
  exact ⟨renderedPage_reachable, addT_fails .none, hsame.mpr rfl⟩

end Inlay
