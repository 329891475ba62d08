/-
# `Inlay.Proofs.Dispatch.Reachable` — every document that can come about

A document begins empty or as parsed markup, and then changes by any of its
operations, by edits of its elements, and by calls of dispatchers: `Reachable`
closes the three beginnings under all of these, with any identifiers at all.

## What is proved

Every reachable document is a forest (`Reachable.forest`), so in every reachable
document

    child lists and parents agree, and no node is above itself
    climbing from a node ends, and so does listing what is below it
    an append that makes no sense, and the removal of a node that hangs
    nowhere, change nothing

For a call this rests on one inversion: it leaves the document, or it takes
away rendered nodes below the first node of its target, and then may add one
container there (`Call.document_cases`).
-/
import Inlay.Proofs.Document.Growth
import Inlay.Proofs.Dispatch.Call

namespace Inlay

open Document

variable {τ : Type} {e : Engine τ} {s : Dispatcher τ} {d : Document} {c : Call}

/-! ## What a call does to the document -/

theorem renderedNodes_subset_descendants {scope : NodeId} {key : Option String} :
    d.renderedNodes scope key ⊆ d.descendants scope :=
  List.filter_subset_self _

/-- The rendered nodes that are taken away before a rendering. -/
def Dispatcher.preRemoved (d : Document) (target : Selection) (key : String) (o : Options) :
    List NodeId :=
  match target.first? with
  | none => []
  | some n => replaced d n key o.removal

theorem prepare_eq (d : Document) (target : Selection) (key : String) (o : Options) :
    Dispatcher.prepare d target key o =
      (Dispatcher.preRemoved d target key o).foldl Document.remove d := by
  unfold Dispatcher.prepare Dispatcher.preRemoved
  cases target.first? <;> rfl

theorem Document.Forest.prepare (hd : Forest d) (target : Selection) (key : String)
    (o : Options) : Forest (Dispatcher.prepare d target key o) := by
  rw [prepare_eq]
  exact Forest.removeAll _ hd

theorem replaced_subset (n : NodeId) (key : String) (removal : Removal) :
    Dispatcher.replaced d n key removal ⊆ d.descendants n := by
  cases removal with
  | none => exact List.nil_subset _
  | same => exact renderedNodes_subset_descendants
  | all => exact renderedNodes_subset_descendants

/-- The container of a rendered fragment, before it is filled. -/
def containerOf (key : String) : Element :=
  (Element.ofName "div").setAttribute markerAttribute (markerOf key)

theorem appendFragment_eq (d : Document) (n : NodeId) (key fragment : String) :
    Dispatcher.appendFragment d n key fragment =
      (((d.create (.element (containerOf key))).1.appendMarkup ⟨d.size⟩ fragment).appendChild n
        ⟨d.size⟩) := by
  simp only [Dispatcher.appendFragment, createElement, create_snd, setAttribute]
  rw [modifyElement_create]
  rfl

theorem Document.Forest.appendContainer (hd : Forest d) (n : NodeId) (key fragment : String) :
    Forest (Dispatcher.appendFragment d n key fragment) := by
  rw [appendFragment_eq]
  exact ((hd.create _).appendMarkup _ _).appendChild _ _

/-- Delivering leaves the document, or adds a container to the target. -/
theorem deliver_document (d : Document) (target : Selection) (key fragment : String)
    (o : Options) :
    (Dispatcher.deliver (τ := τ) d target key fragment o).1 =
      match o.output, target.first? with
      | .append, some n => Dispatcher.appendFragment d n key fragment
      | _, _ => d := by
  unfold Dispatcher.deliver
  cases o.output <;> cases target.first? <;> rfl

/-- Placing leaves the prepared document, or adds a container to the target. -/
theorem place_document (e : Engine τ) (d : Document) (target : Selection) (key : String) (t : τ)
    (data : Data.Value) (o : Options) :
    (Dispatcher.place e d target key t data o).1 = d ∨
      ∃ n fragment, target.first? = some n ∧ e.render t data = some fragment ∧ o.output = .append ∧
        (Dispatcher.place e d target key t data o).1 =
          Dispatcher.appendFragment d n key fragment := by
  unfold Dispatcher.place
  cases he : e.render t data with
  | none => exact .inl rfl
  | some fragment =>
      simp only [deliver_document]
      cases ho : o.output <;> cases hn : target.first? <;> simp

theorem preRemoved_of_first? {target : Selection} {n : NodeId} {key : String} {o : Options}
    (h : target.first? = some n) :
    Dispatcher.preRemoved d target key o = Dispatcher.replaced d n key o.removal := by
  rw [Dispatcher.preRemoved, h]

theorem preRemoved_of_not_first? {target : Selection} {key : String} {o : Options}
    (h : target.first? = none) : Dispatcher.preRemoved d target key o = [] := by
  rw [Dispatcher.preRemoved, h]

/-- `d'` is `d` less some nodes below `n`, and perhaps with one more container in `n`. -/
def Rearranged (d : Document) (n : NodeId) (d' : Document) : Prop :=
  ∃ ns, ns ⊆ d.descendants n ∧ (d' = ns.foldl Document.remove d ∨
    ∃ key fragment, d' = Dispatcher.appendFragment (ns.foldl Document.remove d) n key fragment)

theorem Ends.document_cases {s' : Dispatcher τ} {r : Adding} {asked : List (Request τ)}
    {a : Answer τ} (h : Ends e s s' d r asked a) :
    a.document = d ∨ ∃ n, r.target.first? = some n ∧ Rearranged d n a.document := by
  cases hr : r.ready? e s with
  | none => exact .inl (by rw [h.stops hr])
  | some kt =>
      obtain ⟨key, t⟩ := kt
      rw [h.eq_of_ready hr]
      simp only [prepare_eq]
      cases hn : r.target.first? with
      | none =>
          rw [preRemoved_of_not_first? hn]
          refine .inl ?_
          split
          · rfl
          · rcases place_document e d r.target key t r.data (r.options s) with hp | ⟨n, _, hn', _⟩
            · exact hp
            · rw [hn] at hn'; cases hn'
      | some n =>
          rw [preRemoved_of_first? hn]
          refine .inr ⟨n, rfl, _, replaced_subset n key (r.options s).removal, ?_⟩
          split
          · exact .inl rfl
          · rcases place_document e _ r.target key t r.data (r.options s) with
              hp | ⟨n', fragment, hn', -, -, hp⟩
            · exact .inl hp
            · rw [hn] at hn'
              cases hn'
              exact .inr ⟨key, fragment, hp⟩

/-- The rendered nodes that a removal takes away. -/
def Dispatcher.taken (s : Dispatcher τ) (d : Document) (target : Selection) (t : TemplateRef)
    (p : Overrides) : List NodeId :=
  match target.first? with
  | none => []
  | some n => d.renderedNodes n (Dispatcher.removalKey (s.defaults.merge p) t.concreteKey?)

theorem remove_eq (s : Dispatcher τ) (d : Document) (target : Selection) (t : TemplateRef)
    (p : Overrides) :
    s.remove d target t p =
      s.removeNodes d (s.taken d target t p) (s.defaults.merge p).deleteCompiled := by
  unfold Dispatcher.remove Dispatcher.taken
  cases target.first? with
  | none => cases (s.defaults.merge p).deleteCompiled <;> rfl
  | some n => rfl

theorem remove_document (s : Dispatcher τ) (d : Document) (target : Selection) (t : TemplateRef)
    (p : Overrides) : (s.remove d target t p).2 = d ∨
      ∃ n, target.first? = some n ∧ Rearranged d n (s.remove d target t p).2 := by
  rw [remove_eq, Dispatcher.taken]
  cases hn : target.first? with
  | none => exact .inl rfl
  | some n => exact .inr ⟨n, rfl, _, renderedNodes_subset_descendants, .inl rfl⟩

/-- A call leaves the document, or rearranges what is below the first node of its target. -/
theorem Call.document_cases (e : Engine τ) (s : Dispatcher τ) (d : Document) (c : Call) :
    (c.answer e s d).document = d ∨
    ∃ target n, c.target? = some target ∧ target.first? = some n ∧
      Rearranged d n (c.answer e s d).document := by
  cases hc : c.plain with
  | none =>
      obtain ⟨_, h⟩ := Call.answer_of_not_plain (e := e) (s := s) (d := d) hc
      exact .inl (by rw [h])
  | some c' =>
      rw [Call.answer_of_plain hc]
      cases c' with
      | dispatch => exact absurd hc Call.plain_ne_dispatch
      | get | compiled => exact .inl rfl
      | remove target t p =>
          rcases remove_document s d target t p with h | ⟨n, hn, h⟩
          · exact .inl h
          · exact .inr ⟨target, n, Call.target?_of_plain hc rfl, hn, h⟩
      | add target t data p =>
          obtain ⟨asked, s', -, h⟩ := add_ends e s d target t data p
          rcases h.document_cases with h | ⟨n, hn, h⟩
          · exact .inl h
          · exact .inr ⟨target, n, Call.target?_of_plain hc rfl, hn, h⟩
      | addFrom loader target location data p =>
          obtain ⟨asked, s', -, h⟩ := addFrom_ends e s d loader target location data p
          rcases h.document_cases with h | ⟨n, hn, h⟩
          · exact .inl h
          · exact .inr ⟨target, n, Call.target?_of_plain hc rfl, hn, h⟩

theorem Rearranged.forest {n : NodeId} {d' : Document} (h : Rearranged d n d') (hd : Forest d) :
    Forest d' := by
  obtain ⟨ns, -, rfl | ⟨key, fragment, rfl⟩⟩ := h
  · exact Forest.removeAll ns hd
  · exact (Forest.removeAll ns hd).appendContainer n key fragment

theorem Call.forest (hd : Forest d) : Forest (c.answer e s d).document := by
  rcases c.document_cases e s d with h | ⟨_, _, -, -, h⟩
  · rwa [h]
  · exact h.forest hd

/-! ## Reachable documents -/

/-- What comes about from an empty or a parsed document by operations, edits of elements and calls,
with any identifiers. -/
inductive Reachable : Document → Prop
  | new : Reachable Document.new
  | page (text : String) : Reachable (ofPage text)
  | fragment (text : String) : Reachable (ofFragment text)
  | createElement {d : Document} (name : String) : Reachable d → Reachable (d.createElement name).1
  | createText {d : Document} (text : String) : Reachable d → Reachable (d.createText text).1
  | createComment {d : Document} (text : String) : Reachable d → Reachable (d.createComment text).1
  | createDoctype {d : Document} (name : String) : Reachable d → Reachable (d.createDoctype name).1
  | setAttribute {d : Document} (id : NodeId) (name value : String) :
      Reachable d → Reachable (d.setAttribute id name value)
  | editElement {d : Document} (id : NodeId) (f : Element → Element) :
      Reachable d → Reachable (d.modifyElement id f)
  | appendChild {d : Document} (parent child : NodeId) :
      Reachable d → Reachable (d.appendChild parent child)
  | appendMarkup {d : Document} (parent : NodeId) (text : String) :
      Reachable d → Reachable (d.appendMarkup parent text)
  | remove {d : Document} (id : NodeId) : Reachable d → Reachable (d.remove id)
  | call {d : Document} {τ : Type} (e : Engine τ) (s : Dispatcher τ) (c : Call) :
      Reachable d → Reachable (c.answer e s d).document

namespace Reachable

theorem parse (text : String) : Reachable (Document.parse text) := by
  unfold Document.parse
  split
  · exact .page text
  · exact .fragment text

theorem forest (hd : Reachable d) : Forest d := by
  have hroot : Document.new.contains root = true := rfl
  induction hd with
  | new => exact forest_new
  | page text => exact forest_new.graftAll hroot _
  | fragment text => exact forest_new.graftAll hroot _
  | createElement _ _ ih | createText _ _ ih | createComment _ _ ih | createDoctype _ _ ih =>
      exact ih.create _
  | setAttribute id _ _ _ ih => exact ih.modifyElement id _
  | editElement id f _ ih => exact ih.modifyElement id f
  | appendChild p c _ ih => exact ih.appendChild p c
  | appendMarkup p text _ ih => exact ih.appendMarkup p text
  | remove id _ ih => exact ih.remove id
  | call e s c _ ih => exact Call.forest ih

end Reachable

/-- The two ways in which a document says how its nodes hang together agree, nothing hangs below
itself, every walk over a document ends, and a change that would break this is no change. -/
theorem nodes_form_forest (hd : Reachable d) :
    (∀ p, ∀ c ∈ d.children p, d.contains c = true) ∧
    (∀ p c, (d.children p).count c = if d.parent? c = some p then 1 else 0) ∧
    (∀ id, ¬ d.Ancestor id id) ∧
    (∀ id, d.Climbs id (d.ancestors id)) ∧
    (∀ a id, d.isAncestor a id = true ↔ d.Ancestor a id) ∧
    (∀ id, d.Visits (d.children id) (d.descendants id)) ∧
    (∀ p c, d.contains p = false ∨ d.contains c = false ∨ p = c ∨ d.Ancestor c p →
      d.appendChild p c = d) ∧
    (∀ id, d.contains id = false ∨ d.parent? id = none → d.remove id = d) := by
  have hf := hd.forest
  refine ⟨fun p c hc => hf.contains_child hc, hf.count, hf.acyclic, hf.climbs_ancestors,
    fun a id => hf.isAncestor_iff, hf.visits_descendants, fun p c h => hf.appendChild_eq_self h,
    fun id h => ?_⟩
  rcases h with h | h
  · exact remove_eq_self (parent?_eq_none h)
  · exact remove_eq_self h

/-- A list item under a list, and a call that takes nothing away. -/
def listPage : Document :=
  let e : Engine Unit := ⟨fun _ => some (), fun _ _ => none⟩
  let d := ((new.createElement "ul").1.createElement "li").1.appendChild ⟨1⟩ ⟨2⟩
  ((Call.remove (.ofNode root) .absent {}).answer e {} d).document

theorem listPage_is_forest : Reachable listPage ∧ (listPage.children ⟨1⟩).count ⟨2⟩ = 1 ∧
    listPage.appendChild ⟨2⟩ ⟨1⟩ = listPage ∧ listPage.appendChild ⟨1⟩ ⟨7⟩ = listPage ∧
    listPage.remove ⟨1⟩ = listPage := by
  have hd : Reachable listPage :=
    .call _ _ _ (.appendChild _ _ (.createElement _ (.createElement _ .new)))
  have hp : listPage.parent? ⟨2⟩ = some ⟨1⟩ := rfl
  obtain ⟨-, hcount, -, -, -, -, happend, hremove⟩ := nodes_form_forest hd
  refine ⟨hd, ?_, ?_, ?_, ?_⟩
  · rw [hcount, hp, if_pos rfl]
  · exact happend _ _ (.inr (.inr (.inr (ancestor_parent hp))))
  · exact happend _ _ (.inr (.inl rfl))
  · exact hremove _ (.inr rfl)

end Inlay
