/-
# `Inlay.Proofs.Dispatch.Changes` — what a call is about to do, before it does it

A call that finds its template in the cache and keeps it there, or that takes
rendered nodes away and forgets no template, is `Steady`: the dispatcher behind
it is the one before it.  What it does to the document is a `Change` below the
first node `n` of its target:

    taken   nodes below n, which are taken away
    added   key and text of a fragment, for which n gets a container then

The change is settled by what stands below `n` alone, and so is what the call
answers.  In another document that is the same below `n` (`SameBelow`) the call
makes the same change and gives the same answer (`Call.Steady.settled`).
-/
import Inlay.Proofs.Dispatch.Container

namespace Inlay

open Document Dispatcher
open List (Forall₂)

variable {τ : Type} {e : Engine τ} {s : Dispatcher τ} {d d' : Document} {n : NodeId} {c : Call}
  {target : Selection} {key : String} {t : τ} {data : Data.Value} {o : Options}

/-- Nodes that are taken away, and a fragment that is added then. -/
structure Change where
  taken : List NodeId
  added : Option (String × String)

namespace Change

/-- Make a change below a node. -/
def apply (d : Document) (n : NodeId) (ch : Change) : Document :=
  match ch.added with
  | none => ch.taken.foldl Document.remove d
  | some (key, fragment) =>
      Dispatcher.appendFragment (ch.taken.foldl Document.remove d) n key fragment

theorem rearranged {ch : Change} (h : ch.taken ⊆ d.descendants n) :
    Rearranged d n (ch.apply d n) := by
  obtain ⟨taken, added⟩ := ch
  refine ⟨taken, h, ?_⟩
  cases added with
  | none => exact .inl rfl
  | some kf => exact .inr ⟨kf.1, kf.2, rfl⟩

end Change

/-! ## The same below a node -/

/-- The node `n` and the nodes below it have the same kinds and children in both documents. -/
def SameBelow (d : Document) (n : NodeId) (d' : Document) : Prop :=
  ∀ x, x = n ∨ d.Ancestor n x → d'.kind? x = d.kind? x ∧ d'.children x = d.children x

namespace SameBelow

theorem refl (d : Document) (n : NodeId) : SameBelow d n d := fun _ _ => ⟨rfl, rfl⟩

/-- The same rendered nodes are found below `n`, before nodes below it are taken away and after. -/
theorem renderedNodes_eq (h : SameBelow d n d') (hd : Forest d) (hd' : Forest d')
    {ns : List NodeId} (hns : ns ⊆ d.descendants n) (key : Option String) :
    (ns.foldl Document.remove d').renderedNodes n key =
      (ns.foldl Document.remove d).renderedNodes n key := by
  have hone : OneToOne fun x y => x = y ∧ (y = n ∨ d.Ancestor n y) := by
    rintro x y x' y' ⟨rfl, -⟩ ⟨rfl, -⟩
    exact Iff.rfl
  have hpaired : Forall₂ (fun x y => x = y ∧ (y = n ∨ d.Ancestor n y)) ns ns :=
    List.forall₂_same.mpr fun x hx => ⟨rfl, .inr (hd.mem_descendants.mp (hns hx))⟩
  have hm := (mirrors_below hd h).removeAll hone hd' hd hpaired
  have hall := hm.renderedNodes (hd'.removeAll ns) (hd.removeAll ns) ⟨rfl, .inl rfl⟩ key
  rw [← List.forall₂_eq_eq_eq]
  exact hall.imp fun _ _ hxy => hxy.1

theorem replaced_eq (h : SameBelow d n d') (hd : Forest d) (hd' : Forest d') (key : String)
    (removal : Removal) : replaced d' n key removal = replaced d n key removal := by
  have hsame := h.renderedNodes_eq hd hd' (List.nil_subset _)
  cases removal with
  | none => rfl
  | same => exact hsame (some key)
  | all => exact hsame none

end SameBelow

/-! ## Steady calls -/

/-- A call about the node `n` that leaves the dispatcher: an add that finds its template in the
cache and keeps it, or a removal that forgets none. -/
def Call.Steady (s : Dispatcher τ) (n : NodeId) (c : Call) : Prop :=
  match c.plain with
  | some (.add target t _ p) => target.first? = some n ∧ (s.defaults.merge p).storeCompiled = true ∧
      ∃ key, t.key? = some key ∧ s.cache.contains key = true
  | some (.addFrom _ target location _ p) => target.first? = some n ∧
      (s.defaults.merge p).storeCompiled = true ∧ s.cache.contains location = true
  | some (.remove target _ p) =>
      target.first? = some n ∧ (s.defaults.merge p).deleteCompiled = false
  | _ => False

/-- In every document that is the same below `n` the answer leaves the dispatcher, makes one and the
same change below `n`, and has the same outcome. -/
def Settled (s : Dispatcher τ) (d : Document) (n : NodeId) (answer : Document → Answer τ) : Prop :=
  ∃ (ch : Change) (outcome : Outcome τ) (asked : List (Request τ)), ch.taken ⊆ d.descendants n ∧
    ∀ d', Forest d' → SameBelow d n d' → answer d' = ⟨s, ch.apply d' n, outcome, asked⟩

theorem settled_idle {answer : Document → Answer τ} {target : Selection}
    (h : ∀ d', answer d' = ⟨s, d', .target target, []⟩) : Settled s d n answer :=
  ⟨⟨[], none⟩, .target target, [], List.nil_subset _, fun d' _ _ => h d'⟩

/-- What is placed, if anything, is a matter of the rendering and the options alone. -/
theorem place_settled (hn : target.first? = some n) (key : String) (t : τ) (data : Data.Value)
    (o : Options) : ∃ added outcome, ∀ d, place e d target key t data o =
      (match added with
        | none => d
        | some (key, fragment) => Dispatcher.appendFragment d n key fragment, outcome) := by
  unfold place
  cases e.render t data with
  | none => exact ⟨none, .target target, fun _ => rfl⟩
  | some fragment =>
      unfold deliver
      rw [hn]
      cases o.output with
      | raw | compiled => exact ⟨none, .raw fragment, fun _ => rfl⟩
      | html => exact ⟨none, .html (Document.parse fragment), fun _ => rfl⟩
      | append => exact ⟨some (key, fragment), .target target, fun _ => rfl⟩

/-- Rendering a cached template that stays in the cache. -/
theorem settled_renderInto (hd : Forest d) (hn : target.first? = some n)
    (hc : s.cache.get? key = some t) (hstore : o.storeCompiled = true) :
    Settled s d n fun d' => renderInto e s d' target key data o := by
  have hns : replaced d n key o.removal ⊆ d.descendants n := replaced_subset n key o.removal
  have hprepare : ∀ d', Forest d' → SameBelow d n d' →
      prepare d' target key o = (replaced d n key o.removal).foldl Document.remove d' := by
    intro d' hd' h
    rw [prepare_eq, preRemoved_of_first? hn, h.replaced_eq hd hd']
  have hkeep : s.keep key o = s := if_pos hstore
  generalize replaced d n key o.removal = ns at hns hprepare
  have hfilled : ∀ d', Forest d' → SameBelow d n d' →
      isFilled (ns.foldl Document.remove d') target key o =
        isFilled (ns.foldl Document.remove d) target key o := by
    intro d' hd' h
    unfold isFilled
    rw [hn]
    simp only
    rw [h.renderedNodes_eq hd hd' hns]
  cases hf : isFilled (ns.foldl Document.remove d) target key o with
  | true =>
      refine ⟨⟨ns, none⟩, .target target, [], hns, fun d' hd' h => ?_⟩
      show renderInto e s d' target key data o = _
      rw [renderInto_eq hc, hprepare d' hd' h]
      simp only [hfilled d' hd' h, hf, if_true]
      rfl
  | false =>
      obtain ⟨added, outcome, hplace⟩ := place_settled (e := e) hn key t data o
      refine ⟨⟨ns, added⟩, outcome, [.render key t], hns, fun d' hd' h => ?_⟩
      show renderInto e s d' target key data o = _
      rw [renderInto_eq hc, hprepare d' hd' h]
      simp only [hfilled d' hd' h, hf, Bool.false_eq_true, if_false, hplace, hkeep]
      rfl

theorem settled_add (hd : Forest d) (hn : target.first? = some n) {tr : TemplateRef}
    {p : Overrides} (hkey : tr.key? = some key) (hc : s.cache.contains key = true)
    (hstore : (s.defaults.merge p).storeCompiled = true) :
    Settled s d n fun d' => s.add e d' target tr data p := by
  obtain ⟨t, ht⟩ := Option.isSome_iff_exists.mp hc
  simp only [add_of_get? hkey ht]
  cases (s.defaults.merge p).validate && data.isEmpty with
  | true => exact settled_idle fun _ => rfl
  | false =>
      simp only [Bool.false_eq_true, if_false]
      exact settled_renderInto hd hn ht hstore

theorem settled_addFrom (hd : Forest d) (hn : target.first? = some n) {loader : Loader}
    {location : String} {p : Overrides} (hc : s.cache.contains location = true)
    (hstore : (s.defaults.merge p).storeCompiled = true) :
    Settled s d n fun d' => s.addFrom e loader d' target location data p := by
  unfold Dispatcher.addFrom
  cases hblank : Text.isAllBlank location with
  | true => exact settled_idle fun _ => rfl
  | false =>
      have hkey : (TemplateRef.key location).key? = some location := if_neg (by simp [hblank])
      simp only [hc, Bool.false_eq_true, if_false, if_true]
      exact settled_add hd hn hkey hc hstore

theorem settled_remove (hd : Forest d) (hn : target.first? = some n) (tr : TemplateRef)
    {p : Overrides} (hkeep : (s.defaults.merge p).deleteCompiled = false) :
    Settled s d n fun d' => (Call.remove target tr p).answer e s d' := by
  have htaken : ∀ d', s.taken d' target tr p =
      d'.renderedNodes n (removalKey (s.defaults.merge p) tr.concreteKey?) := by
    intro d'
    rw [taken, hn]
  refine ⟨⟨s.taken d target tr p, none⟩, .target target, [], ?_, fun d' hd' h => ?_⟩
  · rw [htaken]
    exact renderedNodes_subset_descendants
  · have hsame := h.renderedNodes_eq hd hd' (List.nil_subset _)
      (removalKey (s.defaults.merge p) tr.concreteKey?)
    show (Call.remove target tr p).answer e s d' = _
    rw [Call.answer, remove_eq, htaken, htaken, hkeep]
    simp only [List.foldl_nil] at hsame
    rw [hsame]
    rfl

/-- What a steady call does is settled by what stands below the first node of its target. -/
theorem Call.Steady.settled (h : c.Steady s n) (hd : Forest d) (e : Engine τ) :
    Settled s d n fun d' => c.answer e s d' := by
  unfold Call.Steady at h
  cases hc : c.plain with
  | none =>
      rw [hc] at h
      exact h.elim
  | some plain =>
      rw [hc] at h
      simp only [Call.answer_of_plain hc]
      cases plain with
      | dispatch | get | compiled => exact h.elim
      | add target tr data p =>
          obtain ⟨hn, hstore, key, hkey, hk⟩ := h
          exact settled_add hd hn hkey hk hstore
      | addFrom loader target location data p =>
          obtain ⟨hn, hstore, hk⟩ := h
          exact settled_addFrom hd hn hk hstore
      | remove target tr p => exact settled_remove hd h.1 tr h.2

end Inlay
