/-
# `Inlay.Proofs.Dispatch.Preset` — options said at every call, or once and for all

A call starts from the options of its dispatcher and says what it wants changed.
Whether it says so itself, or the dispatcher has it among its options already,
makes no difference:

    s.preset p     `s` with what `p` says among its options
    c.saying p     the call `c`, saying `p`

    (c.saying {}) of s.preset p   answers as   (c.saying p) of s

in document, outcome, requests and cache (`answer_preset`), and so on over a run
(`answers_preset`).  The two dispatchers differ in their options only, before
every call and behind it.  Every stage of a call is handed the merged options or
does not read options at all, so there is one equation for each stage.
-/
import Inlay.Proofs.Dispatch.Call

namespace Inlay

open Document

variable {τ : Type} {e : Engine τ} {s : Dispatcher τ} {d : Document} {target : Selection}
  {key : String} {data : Data.Value} {o : Options} {p q : Overrides}

namespace Overrides

theorem followedBy_empty (p : Overrides) : p.followedBy {} = p := rfl

theorem empty_followedBy (p : Overrides) : Overrides.followedBy {} p = p := by
  simp only [followedBy, Option.orElse_eq_orElse, Option.orElse_eq_or, Option.or_none]

end Overrides

/-- The dispatcher with what the overrides say among its options. -/
def Dispatcher.preset (s : Dispatcher τ) (p : Overrides) : Dispatcher τ :=
  { s with defaults := s.defaults.merge p }

/-- The answer with what the overrides say among the options of its dispatcher. -/
def Answer.preset (a : Answer τ) (p : Overrides) : Answer τ :=
  { a with dispatcher := a.dispatcher.preset p }

/-- The same call, saying these overrides. -/
def Call.saying (p : Overrides) : Call → Call
  | .dispatch target word t data _ => .dispatch target word t data p
  | .add target t data _ => .add target t data p
  | .addFrom loader target location data _ => .addFrom loader target location data p
  | .remove target t _ => .remove target t p
  | .get target t => .get target t
  | .compiled => .compiled

/-- The answers of one call after the other. -/
def answers (e : Engine τ) (s : Dispatcher τ) (d : Document) : List Call → List (Answer τ)
  | [] => []
  | c :: cs =>
      let a := c.answer e s d
      a :: answers e a.dispatcher a.document cs

/-! ## The stages of a call -/

namespace Dispatcher

theorem keep_preset (s : Dispatcher τ) (p : Overrides) (key : String) (o : Options) :
    (s.preset p).keep key o = (s.keep key o).preset p := by
  unfold keep
  split <;> rfl

/-- Rendering is handed its options. -/
theorem renderInto_preset (e : Engine τ) (s : Dispatcher τ) (p : Overrides) (d : Document)
    (target : Selection) (key : String) (data : Data.Value) (o : Options) :
    renderInto e (s.preset p) d target key data o =
      (renderInto e s d target key data o).preset p := by
  cases hc : s.cache.get? key with
  | some t =>
      have hc' : (s.preset p).cache.get? key = some t := hc
      rw [renderInto_eq hc, renderInto_eq hc', keep_preset]
      simp only
      split <;> rfl
  | none =>
      have hc' : (s.preset p).cache.get? key = none := hc
      unfold renderInto
      rw [hc, hc']
      simp only
      split <;> rfl

theorem compileInto_preset (e : Engine τ) (s : Dispatcher τ) (p : Overrides)
    (key markup : String) :
    compileInto e (s.preset p) key markup = (compileInto e s key markup).map (·.preset p) := by
  unfold compileInto
  rw [Option.map_map]
  rfl

theorem add_preset (e : Engine τ) (s : Dispatcher τ) (d : Document) (target : Selection)
    (t : TemplateRef) (data : Data.Value) (p : Overrides) :
    (s.preset p).add e d target t data {} = (s.add e d target t data p).preset p := by
  have ho : (s.preset p).defaults.merge {} = s.defaults.merge p := Options.merge_empty _
  have hcache : (s.preset p).cache = s.cache := rfl
  unfold add
  rw [ho, hcache]
  simp only
  split
  · rfl
  · cases t.key? with
    | none => rfl
    | some key =>
        simp only
        split
        · exact renderInto_preset e s p d target key data _
        · cases t.source? d with
          | none => rfl
          | some source =>
              simp only [compileInto_preset]
              cases compileInto e s key (d.inner source) with
              | none => rfl
              | some s' =>
                  simp only [Option.map_some, renderInto_preset]
                  rfl

theorem addFrom_preset (e : Engine τ) (loader : Loader) (s : Dispatcher τ) (d : Document)
    (target : Selection) (location : String) (data : Data.Value) (p : Overrides) :
    (s.preset p).addFrom e loader d target location data {} =
      (s.addFrom e loader d target location data p).preset p := by
  have hcache : (s.preset p).cache = s.cache := rfl
  unfold addFrom
  rw [hcache]
  split
  · rfl
  · split
    · exact add_preset e s d target (.key location) data p
    · cases loader location with
      | none => rfl
      | some markup =>
          simp only [compileInto_preset]
          cases compileInto e s location markup with
          | none => rfl
          | some s' =>
              simp only [Option.map_some, add_preset]
              rfl

/-- A removal may say more than the dispatcher has among its options. -/
theorem remove_preset (s : Dispatcher τ) (d : Document) (target : Selection) (t : TemplateRef)
    (p q : Overrides) :
    (s.preset p).remove d target t q =
      ((s.remove d target t (p.followedBy q)).1.preset p,
        (s.remove d target t (p.followedBy q)).2) := by
  have ho : (s.preset p).defaults.merge q = s.defaults.merge (p.followedBy q) :=
    (Options.merge_followedBy s.defaults p q).symm
  unfold remove
  rw [ho]
  cases target.first? <;> rfl

theorem dispatch_preset (e : Engine τ) (s : Dispatcher τ) (d : Document) (target : Selection)
    (word : String) (t : TemplateRef) (data : Data.Value) (p : Overrides) :
    (s.preset p).dispatch e d target word t data {} =
      (s.dispatch e d target word t data p).preset p := by
  unfold dispatch
  cases Action.named? word with
  | none => rfl
  | some action =>
      cases action with
      | get => rfl
      | compiled => rfl
      | add => exact add_preset e s d target t data p
      | remove =>
          simp only [Overrides.empty_followedBy, remove_preset]
          rfl

end Dispatcher

open Dispatcher

/-! ## Calls and runs -/

/-- A call that says nothing, of a dispatcher that has it among its options, answers as the call
that says it. -/
theorem answer_preset (e : Engine τ) (s : Dispatcher τ) (d : Document) (p : Overrides) (c : Call) :
    (c.saying {}).answer e (s.preset p) d = ((c.saying p).answer e s d).preset p := by
  cases c with
  | dispatch target word t data q => exact dispatch_preset e s d target word t data p
  | add target t data q => exact add_preset e s d target t data p
  | addFrom loader target location data q => exact addFrom_preset e loader s d target location data p
  | remove target t q =>
      show Call.answer e (s.preset p) d (.remove target t {}) =
        (Call.answer e s d (.remove target t p)).preset p
      rw [Call.answer, remove_preset, Overrides.followedBy_empty]
      rfl
  | get target t => rfl
  | compiled => rfl

/-- A run keeps answering alike: behind every call the dispatchers again differ in their options
only. -/
theorem answers_preset (e : Engine τ) (p : Overrides) : ∀ (cs : List Call) (s : Dispatcher τ)
    (d : Document), answers e (s.preset p) d (cs.map (.saying {})) =
      (answers e s d (cs.map (.saying p))).map (.preset · p)
  | [], _, _ => rfl
  | c :: cs, s, d => by
      rw [List.map_cons, List.map_cons, answers, answers, answer_preset]
      exact congrArg _ (answers_preset e p cs _ _)

end Inlay
