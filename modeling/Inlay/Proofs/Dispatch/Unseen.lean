/-
# `Inlay.Proofs.Dispatch.Unseen` — what runs cannot see of a document

A document keeps every node it ever made, and names nodes by their places.  A
run that names its targets by selectors and its templates by keys can see
neither: which nodes are kept besides the tree, and how the nodes of the tree
are numbered.

    Move          a call without identifiers; its target is selected anew
    Observation   what can be seen of an answer: the page, the keys in the
                  cache, the outcome with its nodes as they are written, and
                  what was asked of the engine and the loader
    observe       the observations of a run

Two documents with the same tree below parentless roots give the same
observations, move by move.  A simulation shows it.  Alike documents are taken
to alike documents, and the outcomes are about paired nodes (`SameAnswer`); the
pairing grows with each container that is added, and every pair stays.  One
lemma for each stage of a call says so, from `alike_prepare` up to
`sameAnswer_move`, and `observe_eq` is the induction over the run.
-/
import Inlay.Proofs.Dispatch.Container

namespace Inlay

open Document Dispatcher
open List (Forall₂)

variable {τ : Type} {e : Engine τ} {s : Dispatcher τ} {d d₁ d₂ : Document}
  {R : NodeId → NodeId → Prop} {t₁ t₂ : Selection} {key : String} {data : Data.Value}
  {o : Options} {p : Overrides}

/-! ## Moves and what is seen of them -/

/-- A call that names no node. -/
inductive Move
  | dispatch (target word : String) (key : Option String) (data : Data.Value) (p : Overrides)
  | add (target : String) (key : Option String) (data : Data.Value) (p : Overrides)
  | addFrom (loader : Loader) (target location : String) (data : Data.Value) (p : Overrides)
  | remove (target : String) (key : Option String) (p : Overrides)

/-- A template given by its key, or not at all. -/
def TemplateRef.ofKey : Option String → TemplateRef
  | some key => .key key
  | none => .absent

/-- The call of a move: its target is what the selector finds in the document as it is then. -/
def Move.call (d : Document) : Move → Call
  | .dispatch target word key data p => .dispatch (d.select target) word (.ofKey key) data p
  | .add target key data p => .add (d.select target) (.ofKey key) data p
  | .addFrom loader target location data p => .addFrom loader (d.select target) location data p
  | .remove target key p => .remove (d.select target) (.ofKey key) p

/-- An outcome as it can be seen; a node is shown as it is written. -/
inductive View
  | target (selector : Option String) (nodes : List String)
  | nodes (selector : Option String) (nodes : List String)
  | compiled (keys : List String)
  | raw (s : String)
  | html (page : String)

/-- What is seen of an outcome that comes with a document. -/
def Outcome.view (d : Document) : Outcome τ → View
  | .target s => .target s.selector (s.nodes.map d.outer)
  | .nodes s => .nodes s.selector (s.nodes.map d.outer)
  | .compiled c => .compiled c.keys
  | .raw s => .raw s
  | .html fragment => .html fragment.write

/-- What can be seen of an answer. -/
structure Observation (τ : Type) where
  page : String
  keys : List String
  outcome : View
  requests : List (Request τ)

def Answer.observation (a : Answer τ) : Observation τ where
  page := a.document.write
  keys := a.dispatcher.cache.keys
  outcome := a.outcome.view a.document
  requests := a.requests

/-- The observations of a run. -/
def observe (e : Engine τ) (s : Dispatcher τ) (d : Document) : List Move → List (Observation τ)
  | [] => []
  | m :: ms =>
      let a := (m.call d).answer e s d
      a.observation :: observe e a.dispatcher a.document ms

/-! ## Answers about paired nodes -/

/-- Selections by one selector, of paired nodes. -/
structure SameSelection (R : NodeId → NodeId → Prop) (t₁ t₂ : Selection) : Prop where
  selector : t₁.selector = t₂.selector
  nodes : Forall₂ R t₁.nodes t₂.nodes

/-- Outcomes of one kind, about paired nodes. -/
inductive SameOutcome (R : NodeId → NodeId → Prop) : Outcome τ → Outcome τ → Prop
  | target {t₁ t₂ : Selection} : SameSelection R t₁ t₂ → SameOutcome R (.target t₁) (.target t₂)
  | nodes {t₁ t₂ : Selection} : SameSelection R t₁ t₂ → SameOutcome R (.nodes t₁) (.nodes t₂)
  | compiled (c : Cache τ) : SameOutcome R (.compiled c) (.compiled c)
  | raw (s : String) : SameOutcome R (.raw s) (.raw s)
  | html (fragment : Document) : SameOutcome R (.html fragment) (.html fragment)

/-- Answers with one dispatcher and the same requests, about alike documents. -/
structure SameAnswer (R : NodeId → NodeId → Prop) (a₁ a₂ : Answer τ) : Prop where
  dispatcher : a₁.dispatcher = a₂.dispatcher
  document : Alike R a₁.document a₂.document
  outcome : SameOutcome R a₁.outcome a₂.outcome
  requests : a₁.requests = a₂.requests

/-- The same, for some pairing that keeps the pairs of `R`. -/
def SameAnswerBeyond (R : NodeId → NodeId → Prop) (a₁ a₂ : Answer τ) : Prop :=
  ∃ R', (∀ x y, R x y → R' x y) ∧ SameAnswer R' a₁ a₂

theorem SameSelection.mono {R' : NodeId → NodeId → Prop} (h : SameSelection R t₁ t₂)
    (hR : ∀ x y, R x y → R' x y) : SameSelection R' t₁ t₂ :=
  ⟨h.selector, h.nodes.imp hR⟩

/-- Both have no first node, or their first nodes are paired. -/
theorem SameSelection.first?_cases (h : SameSelection R t₁ t₂) :
    t₁.first? = none ∧ t₂.first? = none ∨
    ∃ x y, t₁.first? = some x ∧ t₂.first? = some y ∧ R x y := by
  have hn : Option.Rel R t₁.first? t₂.first? := head?_rel h.nodes
  generalize t₁.first? = u₁ at hn
  generalize t₂.first? = u₂ at hn
  cases hn with
  | none => exact .inl ⟨rfl, rfl⟩
  | some hxy => exact .inr ⟨_, _, rfl, rfl, hxy⟩

theorem SameOutcome.view_eq {o₁ o₂ : Outcome τ} (h : SameOutcome R o₁ o₂)
    (hd : Alike R d₁ d₂) : o₁.view d₁ = o₂.view d₂ := by
  have hnodes : ∀ t₁ t₂, SameSelection R t₁ t₂ → t₁.nodes.map d₁.outer = t₂.nodes.map d₂.outer :=
    fun _ _ ht => map_eq_map_of_forall₂ ht.nodes fun _ _ => hd.outer_eq
  cases h with
  | target ht | nodes ht => rw [Outcome.view, Outcome.view, ht.selector, hnodes _ _ ht]
  | compiled | raw | html => rfl

/-- Answers about paired nodes look the same. -/
theorem SameAnswer.observation_eq {a₁ a₂ : Answer τ} (h : SameAnswer R a₁ a₂)
    (hroot : R root root) : a₁.observation = a₂.observation := by
  have hpage : a₁.document.write = a₂.document.write := h.document.inner_eq hroot
  rw [Answer.observation, Answer.observation, hpage, h.outcome.view_eq h.document, h.dispatcher,
    h.requests]

/-- A call that does nothing answers its target. -/
theorem sameAnswer_idle (h : Alike R d₁ d₂) (ht : SameSelection R t₁ t₂) (s : Dispatcher τ)
    (requests : List (Request τ)) :
    SameAnswer R ⟨s, d₁, .target t₁, requests⟩ ⟨s, d₂, .target t₂, requests⟩ :=
  ⟨rfl, h, .target ht, rfl⟩

theorem SameAnswer.beyond {a₁ a₂ : Answer τ} (h : SameAnswer R a₁ a₂) : SameAnswerBeyond R a₁ a₂ :=
  ⟨R, fun _ _ hxy => hxy, h⟩

/-! ## The stages of a call -/

theorem alike_prepare (h : Alike R d₁ d₂) (ht : SameSelection R t₁ t₂) (key : String)
    (o : Options) : Alike R (prepare d₁ t₁ key o) (prepare d₂ t₂ key o) := by
  rw [prepare_eq, prepare_eq]
  refine h.removeAll ?_
  unfold preRemoved
  rcases ht.first?_cases with ⟨h₁, h₂⟩ | ⟨x, y, h₁, h₂, hxy⟩
  · rw [h₁, h₂]
    exact .nil
  · rw [h₁, h₂]
    show Forall₂ R (replaced d₁ x key o.removal) (replaced d₂ y key o.removal)
    cases o.removal with
    | none => exact .nil
    | same => exact h.renderedNodes hxy (some key)
    | all => exact h.renderedNodes hxy none

theorem isFilled_eq (h : Alike R d₁ d₂) (ht : SameSelection R t₁ t₂) (key : String)
    (o : Options) : isFilled d₁ t₁ key o = isFilled d₂ t₂ key o := by
  unfold isFilled
  rcases ht.first?_cases with ⟨h₁, h₂⟩ | ⟨x, y, h₁, h₂, hxy⟩
  · rw [h₁, h₂]
  · simp only [h₁, h₂, isEmpty_eq (h.renderedNodes hxy (some key))]

/-- Delivering a fragment may add containers; then the pairing grows. -/
theorem sameAnswer_deliver (h : Alike R d₁ d₂) (ht : SameSelection R t₁ t₂) (s : Dispatcher τ)
    (requests : List (Request τ)) (key fragment : String) (o : Options) :
    SameAnswerBeyond R
      ⟨s, (deliver (τ := τ) d₁ t₁ key fragment o).1, (deliver d₁ t₁ key fragment o).2, requests⟩
      ⟨s, (deliver (τ := τ) d₂ t₂ key fragment o).1, (deliver d₂ t₂ key fragment o).2,
        requests⟩ := by
  unfold deliver
  cases o.output with
  | raw | compiled => exact SameAnswer.beyond ⟨rfl, h, .raw fragment, rfl⟩
  | html => exact SameAnswer.beyond ⟨rfl, h, .html (Document.parse fragment), rfl⟩
  | append =>
      rcases ht.first?_cases with ⟨h₁, h₂⟩ | ⟨x, y, h₁, h₂, hxy⟩
      · simp only [h₁, h₂]
        exact (sameAnswer_idle h ht s requests).beyond
      · obtain ⟨R', hR, h'⟩ := h.appendFragment hxy key fragment
        simp only [h₁, h₂]
        exact ⟨R', hR, rfl, h', .target (ht.mono hR), rfl⟩

theorem sameAnswer_renderInto (h : Alike R d₁ d₂) (ht : SameSelection R t₁ t₂)
    (s : Dispatcher τ) (key : String) (data : Data.Value) (o : Options) :
    SameAnswerBeyond R (renderInto e s d₁ t₁ key data o) (renderInto e s d₂ t₂ key data o) := by
  have hp := alike_prepare h ht key o
  unfold renderInto
  simp only [isFilled_eq hp ht key o]
  cases isFilled (prepare d₂ t₂ key o) t₂ key o with
  | true => exact (sameAnswer_idle hp ht s []).beyond
  | false =>
      simp only [Bool.false_eq_true, if_false]
      cases s.cache.get? key with
      | none => exact (sameAnswer_idle hp ht s []).beyond
      | some t =>
          simp only
          cases e.render t data with
          | none => exact (sameAnswer_idle hp ht _ _).beyond
          | some fragment => exact sameAnswer_deliver hp ht _ _ key fragment o

/-- The same with requests that were made before. -/
theorem SameAnswerBeyond.after {a₁ a₂ : Answer τ} (h : SameAnswerBeyond R a₁ a₂)
    (asked : List (Request τ)) :
    SameAnswerBeyond R { a₁ with requests := asked ++ a₁.requests }
      { a₂ with requests := asked ++ a₂.requests } := by
  obtain ⟨R', hR, ha⟩ := h
  exact ⟨R', hR, ha.dispatcher, ha.document, ha.outcome, congrArg (asked ++ ·) ha.requests⟩

/-- A template that is given by its key stands at paired nodes, if it stands anywhere. -/
theorem source?_rel (h : Alike R d₁ d₂) (hroot : R root root) (key : Option String) :
    Option.Rel R ((TemplateRef.ofKey key).source? d₁) ((TemplateRef.ofKey key).source? d₂) := by
  cases key with
  | none => exact .none
  | some k =>
      rw [TemplateRef.ofKey, TemplateRef.source?, TemplateRef.source?]
      exact head?_rel (h.find hroot k)

theorem sameAnswer_add (h : Alike R d₁ d₂) (hroot : R root root) (ht : SameSelection R t₁ t₂)
    (s : Dispatcher τ) (key : Option String) (data : Data.Value) (p : Overrides) :
    SameAnswerBeyond R (s.add e d₁ t₁ (.ofKey key) data p)
      (s.add e d₂ t₂ (.ofKey key) data p) := by
  have hidle := (sameAnswer_idle h ht s []).beyond
  have hsource := source?_rel h hroot key
  unfold Dispatcher.add
  simp only
  cases (s.defaults.merge p).validate && data.isEmpty with
  | true => exact hidle
  | false =>
  simp only [Bool.false_eq_true, if_false]
  cases (TemplateRef.ofKey key).key? with
  | none => exact hidle
  | some k =>
  simp only
  cases s.cache.contains k with
  | true => exact sameAnswer_renderInto h ht s k data _
  | false =>
  simp only [Bool.false_eq_true, if_false]
  generalize (TemplateRef.ofKey key).source? d₁ = u₁ at hsource
  generalize (TemplateRef.ofKey key).source? d₂ = u₂ at hsource
  cases hsource with
  | none => exact hidle
  | some hxy =>
  simp only [h.inner_eq hxy]
  cases compileInto e s k _ with
  | none => exact (sameAnswer_idle h ht s _).beyond
  | some s' => exact (sameAnswer_renderInto h ht s' k data _).after [_]

theorem sameAnswer_addFrom (h : Alike R d₁ d₂) (hroot : R root root)
    (ht : SameSelection R t₁ t₂) (s : Dispatcher τ) (loader : Loader) (location : String)
    (data : Data.Value) (p : Overrides) :
    SameAnswerBeyond R (s.addFrom e loader d₁ t₁ location data p)
      (s.addFrom e loader d₂ t₂ location data p) := by
  have hadd : ∀ s' : Dispatcher τ, SameAnswerBeyond R (s'.add e d₁ t₁ (.key location) data p)
      (s'.add e d₂ t₂ (.key location) data p) :=
    fun s' => sameAnswer_add h hroot ht s' (some location) data p
  unfold Dispatcher.addFrom
  cases Text.isAllBlank location with
  | true => exact (sameAnswer_idle h ht s []).beyond
  | false =>
  simp only [Bool.false_eq_true, if_false]
  cases s.cache.contains location with
  | true => exact hadd s
  | false =>
  simp only [Bool.false_eq_true, if_false]
  cases loader location with
  | none => exact (sameAnswer_idle h ht s _).beyond
  | some markup =>
  simp only
  cases compileInto e s location markup with
  | none => exact (sameAnswer_idle h ht s _).beyond
  | some s' => exact (hadd s').after [_, _]

theorem filterMap_marker?_eq (h : Alike R d₁ d₂) {ns₁ ns₂ : List NodeId}
    (hns : Forall₂ R ns₁ ns₂) : ns₁.filterMap d₁.marker? = ns₂.filterMap d₂.marker? := by
  induction hns with
  | nil => rfl
  | cons hxy _ ih => rw [List.filterMap_cons, List.filterMap_cons, h.mirrors.marker? hxy, ih]

/-- A removal takes paired nodes away, and forgets the templates of the same markers. -/
theorem sameAnswer_remove (h : Alike R d₁ d₂) (ht : SameSelection R t₁ t₂) (s : Dispatcher τ)
    (t : TemplateRef) (p : Overrides) :
    SameAnswer R ((Call.remove t₁ t p).answer e s d₁) ((Call.remove t₂ t p).answer e s d₂) := by
  have hremove : (s.remove d₁ t₁ t p).1 = (s.remove d₂ t₂ t p).1 ∧
      Alike R (s.remove d₁ t₁ t p).2 (s.remove d₂ t₂ t p).2 := by
    unfold Dispatcher.remove
    rcases ht.first?_cases with ⟨h₁, h₂⟩ | ⟨x, y, h₁, h₂, hxy⟩
    · rw [h₁, h₂]
      exact ⟨rfl, h⟩
    · have hns := h.renderedNodes hxy (removalKey (s.defaults.merge p) t.concreteKey?)
      simp only [h₁, h₂, removeNodes, filterMap_marker?_eq h hns, true_and]
      exact h.removeAll hns
  rw [Call.answer, Call.answer]
  generalize s.remove d₁ t₁ t p = r₁ at hremove
  generalize s.remove d₂ t₂ t p = r₂ at hremove
  exact ⟨hremove.1, hremove.2, .target ht, rfl⟩

theorem sameSelection_get (h : Alike R d₁ d₂) (ht : SameSelection R t₁ t₂) (t : TemplateRef) :
    SameSelection R (Dispatcher.get d₁ t₁ t) (Dispatcher.get d₂ t₂ t) := by
  unfold Dispatcher.get
  rcases ht.first?_cases with ⟨h₁, h₂⟩ | ⟨x, y, h₁, h₂, hxy⟩
  · rw [h₁, h₂]
    exact ⟨rfl, .nil⟩
  · rw [h₁, h₂]
    exact ⟨rfl, h.renderedNodes hxy t.concreteKey?⟩

theorem sameAnswer_dispatch (h : Alike R d₁ d₂) (hroot : R root root)
    (ht : SameSelection R t₁ t₂) (s : Dispatcher τ) (word : String) (key : Option String)
    (data : Data.Value) (p : Overrides) :
    SameAnswerBeyond R (s.dispatch e d₁ t₁ word (.ofKey key) data p)
      (s.dispatch e d₂ t₂ word (.ofKey key) data p) := by
  unfold Dispatcher.dispatch
  cases Action.named? word with
  | none => exact (sameAnswer_idle h ht s []).beyond
  | some action =>
      cases action with
      | get => exact SameAnswer.beyond ⟨rfl, h, .nodes (sameSelection_get h ht _), rfl⟩
      | compiled => exact SameAnswer.beyond ⟨rfl, h, .compiled s.cache, rfl⟩
      | remove => exact (sameAnswer_remove (e := e) h ht s _ (p.followedBy (.ofValue data))).beyond
      | add => exact sameAnswer_add h hroot ht s key data p

/-! ## Moves and runs -/

theorem sameSelection_select (h : Alike R d₁ d₂) (hroot : R root root) (selector : String) :
    SameSelection R (d₁.select selector) (d₂.select selector) :=
  ⟨rfl, h.find hroot selector⟩

/-- A move answers the same about paired nodes, and keeps the pairs. -/
theorem sameAnswer_move (h : Alike R d₁ d₂) (hroot : R root root) (s : Dispatcher τ) (m : Move) :
    SameAnswerBeyond R ((m.call d₁).answer e s d₁) ((m.call d₂).answer e s d₂) := by
  cases m with
  | dispatch target word key data p =>
      have ht := sameSelection_select h hroot target
      simp only [Move.call, Call.answer]
      exact sameAnswer_dispatch h hroot ht s word key data p
  | add target key data p =>
      have ht := sameSelection_select h hroot target
      simp only [Move.call, Call.answer]
      exact sameAnswer_add h hroot ht s key data p
  | addFrom loader target location data p =>
      have ht := sameSelection_select h hroot target
      simp only [Move.call, Call.answer]
      exact sameAnswer_addFrom h hroot ht s loader location data p
  | remove target key p =>
      have ht := sameSelection_select h hroot target
      rw [Move.call, Move.call]
      exact (sameAnswer_remove h ht s _ p).beyond

/-- A run gives the same observations on alike documents. -/
theorem observe_eq : ∀ (ms : List Move) {R : NodeId → NodeId → Prop} {d₁ d₂ : Document},
    Alike R d₁ d₂ → R root root → ∀ s : Dispatcher τ, observe e s d₁ ms = observe e s d₂ ms
  | [], _, _, _, _, _, _ => rfl
  | m :: ms, _, _, _, h, hroot, s => by
      obtain ⟨R', hR, ha⟩ := sameAnswer_move (e := e) h hroot s m
      have hrest := observe_eq ms ha.document (hR _ _ hroot)
      rw [observe, observe]
      rw [ha.observation_eq (hR _ _ hroot), ha.dispatcher, hrest]

/-- A run sees the tree below the root and nothing else of a document: where the roots hang nowhere
and the trees below them are the same, so are the pages, the keys in the cache, the outcomes and the
requests, after every move. -/
theorem observe_eq_of_same_tree (hd₁ : Reachable d₁) (hd₂ : Reachable d₂)
    (hp₁ : d₁.parent? root = none) (hp₂ : d₂.parent? root = none)
    (htree : d₁.shape root = d₂.shape root) {s₁ s₂ : Dispatcher τ}
    (hdefaults : s₁.defaults = s₂.defaults) (hcache : s₁.cache = s₂.cache) (e : Engine τ)
    (ms : List Move) : observe e s₁ d₁ ms = observe e s₂ d₂ ms := by
  have hs : s₁ = s₂ := by
    cases s₁
    cases s₂
    simp_all
  obtain ⟨R, h, hroot⟩ := alike_of_root_shape hd₁.forest hd₂.forest hd₁.contains_root
    hd₂.contains_root hp₁ hp₂ htree
  rw [hs]
  exact observe_eq ms h hroot s₂

/-- A box. -/
def freshBox : Document := (new.createElement "div").1.appendChild root ⟨1⟩

/-- A box as well; the document keeps a text that was taken away. -/
def usedBox : Document :=
  ((((new.createText "old").1.appendChild root ⟨1⟩).remove ⟨1⟩).createElement "div").1.appendChild
    root ⟨2⟩

/-- A dispatcher that holds a template for the key `t`, with an engine that renders `x`. -/
def boxDispatcher : Dispatcher Unit := { cache := ⟨[("t", ())]⟩ }

def boxEngine : Engine Unit := ⟨fun _ => some (), fun _ _ => some "x"⟩

/-- Fill the box and empty it again. -/
def fillAndEmpty : List Move := [.add "div" (some "t") (.bool true) {}, .remove "div" none {}]

/-- The boxes have other identifiers, and a run does not see it. -/
theorem usedBox_seen_as_freshBox :
    Reachable freshBox ∧ Reachable usedBox ∧ freshBox.parent? root = none ∧
    usedBox.parent? root = none ∧ freshBox.shape root = usedBox.shape root ∧
    freshBox.children root ≠ usedBox.children root ∧
    observe boxEngine boxDispatcher freshBox fillAndEmpty =
      observe boxEngine boxDispatcher usedBox fillAndEmpty ∧
    (observe boxEngine boxDispatcher usedBox fillAndEmpty).map (·.page) =
      ["<div><div data-template-id=\"t\">x</div></div>", "<div></div>"] := by
  have hfresh : Reachable freshBox := .appendChild _ _ (.createElement _ .new)
  have hused : Reachable usedBox :=
    .appendChild _ _ (.createElement _ (.remove _ (.appendChild _ _ (.createText _ .new))))
  have htree : freshBox.shape root = usedBox.shape root := rfl
  refine ⟨hfresh, hused, rfl, rfl, htree, by decide, ?_, by decide +kernel⟩
  exact observe_eq_of_same_tree hfresh hused rfl rfl htree rfl rfl boxEngine fillAndEmpty

end Inlay
