/-
# `Inlay.Proofs.Dispatch.Run` — runs of a dispatcher

A `Step` is a call together with what it finds: the engine, the dispatcher and
the document.  A run is the list of its steps, in order.

    Runs      the dispatcher goes from one call to the next; every call may find
              another document, of those that can come about
    RunsIn    the document goes on as well

The engine may differ from step to step, so that compiling and rendering need
not give the same result twice.
-/
import Inlay.Proofs.Dispatch.Reachable

namespace Inlay

variable {τ : Type}

/-- A call and what it finds. -/
structure Step (τ : Type) where
  engine : Engine τ
  dispatcher : Dispatcher τ
  document : Document
  call : Call

def Step.answer (a : Step τ) : Answer τ := a.call.answer a.engine a.dispatcher a.document

/-- The runs of a dispatcher over any documents, and the dispatcher behind each. -/
inductive Runs : Dispatcher τ → List (Step τ) → Dispatcher τ → Prop
  | done {s : Dispatcher τ} : Runs s [] s
  | call {s s' : Dispatcher τ} {d : Document} {l : List (Step τ)} (e : Engine τ) (c : Call) :
      Reachable d → Runs (c.answer e s d).dispatcher l s' → Runs s (⟨e, s, d, c⟩ :: l) s'

/-- The runs of a dispatcher in one document, and what is behind each. -/
inductive RunsIn : Dispatcher τ → Document → List (Step τ) → Dispatcher τ → Document → Prop
  | done {s : Dispatcher τ} {d : Document} : RunsIn s d [] s d
  | call {s s' : Dispatcher τ} {d d' : Document} {l : List (Step τ)} (e : Engine τ) (c : Call) :
      RunsIn (c.answer e s d).dispatcher (c.answer e s d).document l s' d' →
      RunsIn s d (⟨e, s, d, c⟩ :: l) s' d'

/-- Calls that are made one after the other, with one engine. -/
def stepsOf (e : Engine τ) (s : Dispatcher τ) (d : Document) : List Call → List (Step τ)
  | [] => []
  | c :: cs =>
      let a := c.answer e s d
      ⟨e, s, d, c⟩ :: stepsOf e a.dispatcher a.document cs

variable {e : Engine τ} {s s' : Dispatcher τ} {d d' : Document} {a : Step τ}
  {l l₁ l₂ : List (Step τ)} {cs : List Call}

theorem mem_stepsOf (h : a ∈ stepsOf e s d cs) : a.engine = e ∧ a.call ∈ cs := by
  induction cs generalizing s d with
  | nil => cases h
  | cons c cs ih =>
      rw [stepsOf] at h
      rcases List.mem_cons.mp h with rfl | h
      · exact ⟨rfl, List.mem_cons_self⟩
      · exact (ih h).imp_right (List.mem_cons_of_mem c)

/-- They are a run. -/
theorem runsIn_stepsOf (e : Engine τ) (s : Dispatcher τ) (d : Document) (cs : List Call) :
    ∃ s' d', RunsIn s d (stepsOf e s d cs) s' d' := by
  induction cs generalizing s d with
  | nil => exact ⟨s, d, .done⟩
  | cons c cs ih =>
      obtain ⟨s', d', h⟩ := ih (c.answer e s d).dispatcher (c.answer e s d).document
      exact ⟨s', d', .call e c h⟩

namespace Runs

theorem reachable (h : Runs s l s') : ∀ a ∈ l, Reachable a.document := by
  induction h with
  | done => exact fun a ha => absurd ha List.not_mem_nil
  | call e c hd _ ih =>
      intro a ha
      rcases List.mem_cons.mp ha with rfl | ha
      · exact hd
      · exact ih a ha

/-- A run begins with its dispatcher, and what follows goes on from there. -/
theorem head (h : Runs s (a :: l) s') : a.dispatcher = s ∧ Runs a.answer.dispatcher l s' := by
  cases h with
  | call e c _ h => exact ⟨rfl, h⟩

/-- A run is a run up to some call, and a run from there. -/
theorem split (h : Runs s (l₁ ++ l₂) s') : ∃ s₁, Runs s l₁ s₁ ∧ Runs s₁ l₂ s' := by
  induction l₁ generalizing s with
  | nil => exact ⟨s, .done, h⟩
  | cons a l₁ ih =>
      cases h with
      | call e c hd h =>
          obtain ⟨s₁, h₁, h₂⟩ := ih h
          exact ⟨s₁, .call e c hd h₁, h₂⟩

end Runs

/-- A run in a document is a run. -/
theorem RunsIn.runs (h : RunsIn s d l s' d') (hd : Reachable d) : Runs s l s' := by
  induction h with
  | done => exact .done
  | call e c _ ih => exact .call e c hd (ih (.call e _ c hd))

end Inlay
