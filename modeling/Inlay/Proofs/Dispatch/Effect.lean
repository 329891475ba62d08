/-
# `Inlay.Proofs.Dispatch.Effect` — what a rendering does to the document

Let `n` be the target of an adding call that renders, and `R` the containers
below it that the call takes away first: none, those of its key, or all.

    the nodes of R       hang nowhere
    every other node     hangs where it hung
    child lists          lose the nodes of R, and `n` gets the new container
    below `n`            the containers that are neither in R nor below one of R,
                         then the new one, then those of the fragment

A node of `R` that is below another goes with it and is taken from its parent
too, so that nothing of the removal depends on the order of `R`.  Where the
fragment is answered and not added, this is all but the new container (`Pruned`);
where it is added, the container is the one new thing (`Refilled`).  Both say of
every node all that there is to say of it.
-/
import Inlay.Proofs.Dispatch.Container
import Inlay.Proofs.Dispatch.Failure

namespace Inlay

open Document Shape

variable {τ : Type} {e : Engine τ} {s : Dispatcher τ} {d : Document} {c : Call} {r : Adding}
  {n : NodeId} {key fragment : String} {t : τ} {R : List NodeId}

/-! ## The containers of a shape -/

namespace Shape

/-- The marker of a node of this kind. -/
def markerOfKind? : Option NodeKind → Option String
  | some (.element e) => if e.name = "div" then e.attribute? markerAttribute else none
  | _ => none

mutual

/-- The markers of the containers in a shape, in document order. -/
def markers : Shape → List String
  | .node kind below => (markerOfKind? kind).toList ++ markersAll below

/-- The markers of the containers in shapes. -/
def markersAll : List Shape → List String
  | [] => []
  | s :: rest => markers s ++ markersAll rest

end

theorem markersAll_append : ∀ ss ts : List Shape,
    markersAll (ss ++ ts) = markersAll ss ++ markersAll ts
  | [], _ => rfl
  | s :: ss, ts => by
      rw [List.cons_append, markersAll, markersAll, markersAll_append ss ts, List.append_assoc]

end Shape

theorem marker?_eq (d : Document) (x : NodeId) : d.marker? x = markerOfKind? (d.kind? x) := by
  unfold marker? element? markerOfKind?
  rcases d.kind? x with _ | _ | _ | _ | _ | _ <;> rfl

/-- Listing nodes lists their containers as their shapes have them. -/
theorem filterMap_marker?_of_visits (hd : Forest d) {stack out : List NodeId}
    (h : d.Visits stack out) : out.filterMap d.marker? = markersAll (stack.map d.shape) := by
  induction h with
  | done => rfl
  | @next id rest out _ ih =>
      rw [List.map_append, markersAll_append] at ih
      rw [List.map_cons, markersAll, hd.shape_eq id, markers, ← marker?_eq, List.append_assoc,
        ← ih, List.filterMap_cons]
      cases d.marker? id <;> rfl

/-- The markers of the containers below a node are those in the shapes below it. -/
theorem markers_containers (hd : Forest d) (x : NodeId) :
    (d.containers x).map (·.1) = markersAll (d.shapesBelow x) := by
  have hfirst : (fun y => ((d.marker? y).map (·, y)).map (·.1)) = d.marker? := by
    funext y
    cases d.marker? y <;> rfl
  rw [containers, List.map_filterMap, hfirst]
  exact filterMap_marker?_of_visits hd (hd.visits_descendants x)

/-! ## What is taken away -/

/-- The nodes that are taken away before a template of the key is rendered. -/
def Log.replaced (L : Log) (key : String) : Removal → List NodeId
  | .none => []
  | .same => L.nodes (some key)
  | .all => L.nodes none

theorem replaced_eq (d : Document) (n : NodeId) (key : String) (removal : Removal) :
    Dispatcher.replaced d n key removal = (d.containers n).replaced key removal := by
  cases removal with
  | none => rfl
  | same => exact renderedNodes_eq d n (some key)
  | all => exact renderedNodes_eq d n none

/-- From `d` to `d'` the nodes `R`, all below `n`, were taken from their parents. -/
structure Pruned (d : Document) (n : NodeId) (R : List NodeId) (d' : Document) : Prop where
  size : d'.size = d.size
  kind : ∀ x, d'.kind? x = d.kind? x
  removed : ∀ x ∈ R, d'.parent? x = none
  parent : ∀ x, x ∉ R → d'.parent? x = d.parent? x
  children : ∀ x, d'.children x = (d.children x).filter (· ∉ R)
  containers : d'.containers n = (d.containers n).filter (!d.isGone R ·.2)

theorem pruned_removeAll (hd : Forest d) (hR : R ⊆ d.descendants n) :
    Pruned d n R (R.foldl remove d) where
  size := size_removeAll R d
  kind _ := kind?_removeAll R d
  removed _ hx := by rw [parent?_removeAll, if_pos hx]
  parent _ hx := by rw [parent?_removeAll, if_neg hx]
  children x := hd.children_removeAll R x
  containers := containers_removeAll hd hR

/-! ## What is added -/

/-- From `d` to `d'` the nodes `R`, all below `n`, were taken from their parents, and `n` got a new
last child `w`: a container for the key over the fragment. -/
structure Refilled (d : Document) (n : NodeId) (key fragment : String) (R : List NodeId)
    (w : NodeId) (d' : Document) : Prop where
  kind : ∀ x, d.contains x = true → d'.kind? x = d.kind? x
  removed : ∀ x ∈ R, d'.parent? x = none
  parent : ∀ x, d.contains x = true → x ∉ R → d'.parent? x = d.parent? x
  children : ∀ x, d.contains x = true →
    d'.children x = (d.children x).filter (· ∉ R) ++ if x = n then [w] else []
  fresh : d.contains w = false
  wrapper : d'.kind? w = some (.element ⟨"div", [(markerAttribute, markerOf key)]⟩)
  hangs : d'.parent? w = some n
  content : d'.shapesBelow w = pasteAll [] (unwrap (Markup.parseFragment "div" fragment))
  /-- Nothing else is new. -/
  new : ∀ x, d.contains x = false → d'.contains x = true → x = w ∨ d'.Ancestor w x
  containers : d'.containers n =
    (d.containers n).filter (!d.isGone R ·.2) ++ (markerOf key, w) :: d'.containers w
  /-- The containers in the new one are those of the fragment. -/
  inside : (d'.containers w).map (·.1) =
    markersAll (pasteAll [] (unwrap (Markup.parseFragment "div" fragment)))

theorem refilled_appendFragment (hd : Forest d) (hn : d.contains n = true)
    (hR : R ⊆ d.descendants n) (key fragment : String) :
    Refilled d n key fragment R ⟨d.size⟩
      (Dispatcher.appendFragment (R.foldl remove d) n key fragment) := by
  have hp := pruned_removeAll hd hR
  have hd₁ : Forest (R.foldl remove d) := hd.removeAll R
  have hin : ∀ {x}, (R.foldl remove d).contains x = d.contains x := contains_removeAll R d
  generalize R.foldl remove d = d₁ at hp hd₁ hin
  have hn₁ : d₁.contains n = true := hin.trans hn
  rw [← hp.size]
  have hcontent : (Dispatcher.appendFragment d₁ n key fragment).shapesBelow ⟨d₁.size⟩ = _ :=
    shapesBelow_container hd₁
  refine
    { kind := fun x hx => ?kind
      removed := fun x hx => ?removed
      parent := fun x hx hxR => ?parent
      children := fun x hx => ?children
      fresh := hin.symm.trans not_contains_size
      wrapper := kind?_container hd₁
      hangs := parent?_container hd₁ hn₁
      content := hcontent
      new := fun x hx => below_container_of_new hd₁ (hin.trans hx)
      containers := ?containers
      inside := ?inside }
  case kind => rw [kind?_appendFragment hd₁ (hin.trans hx), hp.kind]
  case removed =>
    have hxd : d.contains x = true := contains_of_ancestor (hd.mem_descendants.mp (hR hx))
    rw [parent?_appendFragment hd₁ hn₁ (hin.trans hxd), hp.removed x hx]
  case parent => rw [parent?_appendFragment hd₁ hn₁ (hin.trans hx), hp.parent x hxR]
  case children =>
    rw [children_appendFragment hd₁ hn₁ (hin.trans hx)]
    split
    · next h => rw [h, hp.children]
    · rw [hp.children, List.append_nil]
  case containers => rw [containers_appendFragment hd₁ hn₁, hp.containers]
  case inside =>
    rw [markers_containers (hd₁.appendContainer n key fragment), hcontent]

/-! ## A rendering -/

open Dispatcher in
/-- The exact effect of an adding call that renders a fragment.  With `append` the containers to be
replaced are taken away, a container with the fragment is added to the target, and the target is
answered; with any other output they are taken away, and the fragment is answered. -/
theorem rendering_effect (hd : Reachable d) (hr : c.adding? d = some r)
    (hn : r.target.first? = some n) (hin : d.contains n = true)
    (hready : r.ready? e s = some (key, t))
    (hopen : isFilled (prepare d r.target key (r.options s)) r.target key (r.options s) = false)
    (hrender : e.render t r.data = some fragment) :
    let R := (d.containers n).replaced key (r.options s).removal
    let a := c.answer e s d
    match (r.options s).output with
    | .append => a.outcome = .target r.target ∧ Refilled d n key fragment R ⟨d.size⟩ a.document
    | .html => a.outcome = .html (Document.parse fragment) ∧ Pruned d n R a.document
    | .raw | .compiled => a.outcome = .raw fragment ∧ Pruned d n R a.document := by
  intro R a
  have hreplaced : replaced d n key (r.options s).removal = R := replaced_eq d n key _
  have hR : R ⊆ d.descendants n := hreplaced ▸ replaced_subset n key _
  have hprepare : prepare d r.target key (r.options s) = R.foldl remove d := by
    rw [prepare_eq, preRemoved_of_first? hn, hreplaced]
  obtain ⟨asked, s', -, hends⟩ := adding_ends (e := e) (s := s) hr
  have ha : a = ⟨s'.keep key (r.options s),
      (deliver (τ := τ) (R.foldl remove d) r.target key fragment (r.options s)).1,
      (deliver (R.foldl remove d) r.target key fragment (r.options s)).2,
      asked ++ [.render key t]⟩ := by
    show c.answer e s d = _
    rw [hends.eq_of_ready hready]
    simp only [hopen, Bool.false_eq_true, if_false, place, hrender]
    rw [hprepare]
  rw [ha]
  unfold deliver
  cases (r.options s).output with
  | append =>
      simp only [hn]
      exact ⟨trivial, refilled_appendFragment hd.forest hin hR key fragment⟩
  | html => exact ⟨rfl, pruned_removeAll hd.forest hR⟩
  | raw | compiled => exact ⟨rfl, pruned_removeAll hd.forest hR⟩

/-- Templates that are their markup. -/
def plainEngine : Engine String := ⟨some, fun t _ => some t⟩

/-- A page that holds a container for the key `t`, and in it one for the key `u`. -/
def nestedPage : Document :=
  ((renderedPage.createElement "div").1.setAttribute ⟨2⟩ markerAttribute "u").appendChild ⟨1⟩ ⟨2⟩

/-- Where the outer one is replaced, the inner one goes with it. -/
theorem nested_container_replaced :
    Reachable nestedPage ∧ nestedPage.containers root = [("t", ⟨1⟩), ("u", ⟨2⟩)] ∧
    Refilled nestedPage root "t" "x" [⟨1⟩] ⟨3⟩
      ((addT .same).answer plainEngine { cache := ⟨[("t", "x")]⟩ } nestedPage).document ∧
    ((addT .same).answer plainEngine { cache := ⟨[("t", "x")]⟩ } nestedPage).document.containers
      root = [("t", ⟨3⟩)] := by
  have hpage : Reachable nestedPage :=
    .appendChild _ _ (.setAttribute _ _ _ (.createElement _ renderedPage_reachable))
  have hready : Adding.ready? plainEngine { cache := ⟨[("t", "x")]⟩ }
      ⟨.ofNode root, some "t", none, .bool true, { removal := some .same }⟩ = some ("t", "x") := rfl
  have hrender : plainEngine.render "x" (.bool true) = some "x" := rfl
  obtain ⟨-, heffect⟩ := rendering_effect hpage (c := addT .same) rfl rfl rfl hready rfl hrender
  exact ⟨hpage, rfl, heffect, by decide⟩

end Inlay
