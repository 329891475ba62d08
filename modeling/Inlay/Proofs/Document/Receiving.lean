/-
# `Inlay.Proofs.Document.Receiving` — what a node receives, and what stays as it was

`Inlay.Proofs.Document.Content` says what trees are once they are copied.  Here is
where the copy goes, and that it goes nowhere else.  Let a node `p` of a document
receive trees:

    a text that comes first    is joined to the text that `p` ends with, if any
    the rest of the content    is new children of `p`, behind those it had
    everything else            is the node it was, with its kind, parent and
                               children
    all that is new            is one of the new children, or below one

`Extends` says this of the store and leaves out what the new children are.  It
holds of a new last child, of a longer last text, and of a new child that is
filled, and one after the other; so it holds of trees, by induction on them
(`graftAll_extends`).  With the store known to be extended, the shapes below `p`
tell the new children from the old (`takes_of_shapes`).
-/
import Inlay.Proofs.Document.Content
import Inlay.Proofs.Dispatch.Reachable

namespace Inlay.Document

open Shape
open Markup (Tree Attribute)

variable {d d₁ d₂ d' : Document} {p x last : NodeId} {t : String} {k : NodeKind}

/-- The text that a node ends with, and where it is. -/
def trailingText? (d : Document) (p : NodeId) : Option (NodeId × String) :=
  match (d.children p).getLast? with
  | none => none
  | some last =>
    match d.kind? last with
    | some (.text t) => some (last, t)
    | _ => none

theorem trailingText?_eq_some_iff : d.trailingText? p = some (last, t) ↔
    (d.children p).getLast? = some last ∧ d.kind? last = some (.text t) := by
  unfold trailingText?
  cases hl : (d.children p).getLast? with
  | none => simp
  | some x =>
      simp only [Option.some.injEq]
      constructor
      · intro h
        split at h
        · next hk =>
            cases h
            exact ⟨rfl, hk⟩
        · cases h
      · rintro ⟨rfl, hk⟩
        simp [hk]

/-- From `d` to `d'` the node `p` got new children behind those it had, and the text that it ends
with may have changed; all else that is new is below a new child. -/
structure Extends (d : Document) (p : NodeId) (d' : Document) : Prop where
  contains : ∀ x, d.contains x = true → d'.contains x = true
  parent : ∀ x, d.contains x = true → d'.parent? x = d.parent? x
  children : ∀ x, d.contains x = true → x ≠ p → d'.children x = d.children x
  kind : ∀ x, d.contains x = true → (∀ t, d.trailingText? p ≠ some (x, t)) →
    d'.kind? x = d.kind? x
  appended : ∃ fresh, d'.children p = d.children p ++ fresh ∧ ∀ x ∈ fresh, d.contains x = false
  new : ∀ x, d.contains x = false → d'.contains x = true →
    ∃ y, d.contains y = false ∧ d'.parent? y = some p ∧ (x = y ∨ d'.Ancestor y x)

/-- From `d` to `d'` the node `p` got the children `fresh` behind those it had, and the kind of the
node `grown`, if any, may have changed; nothing else did. -/
structure Received (d : Document) (p : NodeId) (fresh : List NodeId) (grown : Option NodeId)
    (d' : Document) : Prop where
  kept : ∀ x, d.contains x = true → x ≠ p → grown ≠ some x → d'.node? x = d.node? x
  place : ∀ x, grown = some x → d'.parent? x = d.parent? x ∧ d'.children x = d.children x
  kind : d'.kind? p = d.kind? p
  parent : d'.parent? p = d.parent? p
  children : d'.children p = d.children p ++ fresh
  made : ∀ x ∈ fresh, d.contains x = false
  new : ∀ x, d.contains x = false → d'.contains x = true →
    ∃ y ∈ fresh, x = y ∨ d'.Ancestor y x

/-! ## Extending -/

namespace Extends

theorem refl : Extends d p d where
  contains _ hx := hx
  parent _ _ := rfl
  children _ _ _ := rfl
  kind _ _ _ := rfl
  appended := ⟨[], (List.append_nil _).symm, fun x hx => absurd hx List.not_mem_nil⟩
  new x hx hx' := by
    rw [hx] at hx'
    cases hx'

/-- What is no node afterwards was none before. -/
theorem not_contains (h : Extends d p d') (hx : d'.contains x = false) : d.contains x = false := by
  cases hold : d.contains x with
  | false => rfl
  | true =>
      rw [h.contains x hold] at hx
      cases hx

theorem ancestor (h : Extends d p d') (hx : d.Ancestor last x) : d'.Ancestor last x :=
  ancestor_mono (fun y q hq => by rw [h.parent y (contains_of_parent? hq), hq]) hx

/-- A text that stands last afterwards and was there before stood last before. -/
theorem trailing_old (h : Extends d p d') (hx : d.contains x = true)
    (hlast : d'.trailingText? p = some (x, t)) : (d.children p).getLast? = some x := by
  obtain ⟨hlast, -⟩ := trailingText?_eq_some_iff.mp hlast
  obtain ⟨fresh, happ, hfresh⟩ := h.appended
  rw [happ] at hlast
  rcases List.eq_nil_or_concat fresh with rfl | ⟨init, y, rfl⟩
  · rwa [List.append_nil] at hlast
  · have hxy : y = x := by simpa using hlast
    have hnew := hfresh y (by simp)
    rw [hxy, hx] at hnew
    cases hnew

theorem trans (h₁ : Extends d p d₁) (h₂ : Extends d₁ p d₂) : Extends d p d₂ where
  contains x hx := h₂.contains x (h₁.contains x hx)
  parent x hx := (h₂.parent x (h₁.contains x hx)).trans (h₁.parent x hx)
  children x hx hxp := (h₂.children x (h₁.contains x hx) hxp).trans (h₁.children x hx hxp)
  kind x hx hlast := by
    have hkind := h₁.kind x hx hlast
    refine (h₂.kind x (h₁.contains x hx) fun t ht => ?_).trans hkind
    have hold := h₁.trailing_old hx ht
    obtain ⟨-, htext⟩ := trailingText?_eq_some_iff.mp ht
    rw [hkind] at htext
    exact hlast t (trailingText?_eq_some_iff.mpr ⟨hold, htext⟩)
  appended := by
    obtain ⟨fresh₁, happ₁, hfresh₁⟩ := h₁.appended
    obtain ⟨fresh₂, happ₂, hfresh₂⟩ := h₂.appended
    refine ⟨fresh₁ ++ fresh₂, by rw [happ₂, happ₁, List.append_assoc], ?_⟩
    intro x hx
    rcases List.mem_append.mp hx with hx | hx
    · exact hfresh₁ x hx
    · exact h₁.not_contains (hfresh₂ x hx)
  new x hx hx' := by
    cases hx₁ : d₁.contains x with
    | true =>
        obtain ⟨y, hy, hyp, hxy⟩ := h₁.new x hx hx₁
        have hy₁ : d₁.contains y = true := contains_of_parent? hyp
        exact ⟨y, hy, (h₂.parent y hy₁).trans hyp, hxy.imp_right h₂.ancestor⟩
    | false =>
        obtain ⟨y, hy, hyp, hxy⟩ := h₂.new x hx₁ hx'
        exact ⟨y, h₁.not_contains hy, hyp, hxy⟩

theorem eq_size_of_attach (hx : d.contains x = false) (hx' : (d.attach p k).contains x = true) :
    x = ⟨d.size⟩ := by
  have hout : ¬ x.index < d.size := by rw [← contains_iff, hx]; exact Bool.false_ne_true
  rw [contains_iff, size_attach] at hx'
  have hindex : x.index = d.size := by omega
  rw [← hindex]

/-- A new last child. -/
theorem attach (hd : Forest d) (hp : d.contains p = true) (k : NodeKind) :
    Extends d p (d.attach p k) where
  contains x hx := by
    rw [contains_iff] at hx ⊢
    rw [size_attach]
    exact Nat.lt_succ_of_lt hx
  parent x hx := by rw [hd.parent?_attach hp, if_neg (ne_size_of_contains hx)]
  children x hx hxp := by rw [hd.children_attach hp, if_neg hxp]
  kind x hx _ := by rw [kind?_attach, if_neg (ne_size_of_contains hx)]
  appended := by
    refine ⟨[⟨d.size⟩], by rw [hd.children_attach hp, if_pos rfl], ?_⟩
    intro x hx
    rw [List.mem_singleton.mp hx]
    exact not_contains_size
  new x hx hx' := by
    refine ⟨⟨d.size⟩, not_contains_size, by rw [hd.parent?_attach hp, if_pos rfl], .inl ?_⟩
    exact eq_size_of_attach hx hx'

/-- A longer last text. -/
theorem join (hlast : d.trailingText? p = some (last, t)) (s : String) :
    Extends d p (d.modifyNode last ({ · with kind := .text (t ++ s) })) where
  contains x hx := by rwa [contains_modifyNode]
  parent x _ := parent?_modifyNode (by intro _; rfl)
  children x _ _ := children_modifyNode (by intro _; rfl)
  kind x _ hx := by
    have hne : x ≠ last := by
      rintro rfl
      exact hx t hlast
    rw [kind?, node?_modifyNode, if_neg hne, kind?]
  appended := by
    refine ⟨[], ?_, fun x hx => absurd hx List.not_mem_nil⟩
    rw [List.append_nil]
    exact children_modifyNode (by intro _; rfl)
  new x hx hx' := by
    rw [contains_modifyNode, hx] at hx'
    cases hx'

/-- A new child that is filled. -/
theorem fill (hd : Forest d) (hp : d.contains p = true)
    (h : Extends (d.attach p k) ⟨d.size⟩ d') : Extends d p d' := by
  have hattach : Extends d p (d.attach p k) := .attach hd hp k
  have hself : (d.attach p k).parent? ⟨d.size⟩ = some p := by
    rw [hd.parent?_attach hp, if_pos rfl]
  have hunder : d'.parent? ⟨d.size⟩ = some p :=
    (h.parent _ contains_attach_self).trans hself
  have hchildren : ∀ x, d.contains x = true → d'.children x = (d.attach p k).children x :=
    fun x hx => h.children x (hattach.contains x hx) (ne_size_of_contains hx)
  refine
    { contains := fun x hx => h.contains x (hattach.contains x hx)
      parent := fun x hx => (h.parent x (hattach.contains x hx)).trans (hattach.parent x hx)
      children := fun x hx hxp => (hchildren x hx).trans (hattach.children x hx hxp)
      kind := fun x hx hlast => ?kind
      appended := ?appended
      new := fun x hx hx' => ?new }
  case kind =>
    refine (h.kind x (hattach.contains x hx) fun t ht => ?_).trans (hattach.kind x hx hlast)
    obtain ⟨hin, -⟩ := trailingText?_eq_some_iff.mp ht
    rw [hd.children_attach_self hp] at hin
    cases hin
  case appended =>
    obtain ⟨fresh, happ, hfresh⟩ := hattach.appended
    exact ⟨fresh, (hchildren p hp).trans happ, hfresh⟩
  case new =>
    refine ⟨⟨d.size⟩, not_contains_size, hunder, ?_⟩
    cases hx₁ : (d.attach p k).contains x with
    | true =>
        exact .inl (eq_size_of_attach hx hx₁)
    | false =>
        obtain ⟨y, -, hyp, hxy⟩ := h.new x hx₁ hx'
        refine .inr ?_
        rcases hxy with rfl | hxy
        · exact ancestor_parent hyp
        · exact ancestor_trans (ancestor_parent hyp) hxy

end Extends

/-! ## Trees -/

theorem appendText_extends (hd : Forest d) (hp : d.contains p = true) (s : String) :
    Extends d p (d.appendText p s) := by
  rcases appendText_cases d p s with h | ⟨last, t, hlast, hkind, h⟩ | h
  · rw [h]
    exact .refl
  · rw [h]
    exact .join (trailingText?_eq_some_iff.mpr ⟨hlast, hkind⟩) s
  · rw [h]
    exact .attach hd hp _

mutual

theorem graft_extends : ∀ (t : Tree) {d : Document} {p : NodeId}, Forest d →
    d.contains p = true → Extends d p (d.graft p t)
  | .document children, _, _, hd, hp => by
      rw [graft]
      exact graftAll_extends children hd hp
  | .doctype _, _, _, hd, hp | .comment _, _, _, hd, hp => by
      rw [graft]
      exact .attach hd hp _
  | .text s, _, _, hd, hp => by
      rw [graft]
      exact appendText_extends hd hp s
  | .instruction _ _, _, _, _, _ => by
      rw [graft]
      exact .refl
  | .element _ name attributes children contents, d, p, hd, hp => by
      rw [graft_element]
      have hd₁ : Forest (d.attach p (.element (storedElement name attributes))) := hd.attach p _
      have h₂ := graftAll_extends children hd₁ contains_attach_self
      have h₃ := graftAll_extends contents (hd₁.graftAll contains_attach_self children)
        (h₂.contains _ contains_attach_self)
      exact .fill hd hp (h₂.trans h₃)

theorem graftAll_extends : ∀ (ts : List Tree) {d : Document} {p : NodeId}, Forest d →
    d.contains p = true → Extends d p (d.graftAll p ts)
  | [], _, _, _, _ => by
      rw [graftAll]
      exact .refl
  | t :: rest, _, _, hd, hp => by
      have h₁ := graft_extends t hd hp
      rw [graftAll]
      exact h₁.trans (graftAll_extends rest (hd.graft hp t) (h₁.contains _ hp))

end

/-! ## The new children -/

theorem shapesBelow_of_trailing (hd : Forest d) (h : d.trailingText? p = some (last, t)) :
    ∃ init, d.children p = init ++ [last] ∧
      d.shapesBelow p = init.map d.shape ++ [.node (some (.text t)) (d.shapesBelow last)] := by
  obtain ⟨hlast, hkind⟩ := trailingText?_eq_some_iff.mp h
  obtain ⟨init, hinit⟩ := List.getLast?_eq_some_iff.mp hlast
  refine ⟨init, hinit, ?_⟩
  rw [shapesBelow, hinit, List.map_append, List.map_singleton, hd.shape_eq last, hkind, shapesBelow]

theorem text?_shape (hd : Forest d) (x : NodeId) :
    (d.shape x).text? = some t ↔ d.kind? x = some (.text t) := by
  rw [hd.shape_eq]
  rcases d.kind? x with _ | _ | _ | _ | _ | _ <;> simp [text?]

theorem last_shape_of_no_trailing (hd : Forest d) (h : d.trailingText? p = none) :
    (d.shapesBelow p).getLast?.bind text? = none := by
  rw [shapesBelow, List.getLast?_map]
  cases hlast : (d.children p).getLast? with
  | none => rfl
  | some last =>
      rw [Option.map_some, Option.bind_some, Option.eq_none_iff_forall_ne_some]
      intro t ht
      have htrail := trailingText?_eq_some_iff.mpr ⟨hlast, (text?_shape hd last).mp ht⟩
      rw [h] at htrail
      cases htrail

/-- An extended node has received its new children. -/
theorem Extends.received (h : Extends d p d') (hd : Forest d) (hd' : Forest d')
    (hp : d.contains p = true) :
    ∃ fresh, Received d p fresh ((d.trailingText? p).map (·.1)) d' := by
  obtain ⟨fresh, happ, hfresh⟩ := h.appended
  have hne : ∀ x t, d.trailingText? p = some (x, t) → x ≠ p ∧ d.contains x = true := by
    intro x t ht
    have hlink := hd.mem_children.mp (List.mem_of_getLast? (trailingText?_eq_some_iff.mp ht).1)
    refine ⟨?_, contains_of_parent? hlink⟩
    rintro rfl
    exact hd.acyclic _ (ancestor_parent hlink)
  refine ⟨fresh,
    { kept := fun x hx hxp hgrown => ?kept
      place := fun x hgrown => ?place
      kind := h.kind p hp fun t ht => (hne p t ht).1 rfl
      parent := h.parent p hp
      children := happ
      made := hfresh
      new := fun x hx hx' => ?new }⟩
  case kept =>
    have hkind : d'.kind? x = d.kind? x := by
      refine h.kind x hx fun t ht => hgrown ?_
      rw [ht, Option.map_some]
    exact node?_congr hkind (h.parent x hx) (h.children x hx hxp)
  case place =>
    obtain ⟨⟨y, t⟩, ht, rfl⟩ := Option.map_eq_some_iff.mp hgrown
    obtain ⟨hxp, hx⟩ := hne y t ht
    exact ⟨h.parent y hx, h.children y hx hxp⟩
  case new =>
    obtain ⟨y, hy, hyp, hxy⟩ := h.new x hx hx'
    have hmem := hd'.mem_children.mpr hyp
    rw [happ] at hmem
    refine ⟨y, (List.mem_append.mp hmem).resolve_left fun hold => ?_, hxy⟩
    rw [hd.contains_child hold] at hy
    cases hy

/-- Where the kind of the text stayed, no node is left that might differ. -/
theorem Received.none_grown {fresh : List NodeId} {grown : Option NodeId}
    (h : Received d p fresh grown d') (hkind : ∀ x, grown = some x → d'.kind? x = d.kind? x) :
    Received d p fresh none d' where
  kept x hx hxp _ := by
    by_cases hgrown : grown = some x
    · obtain ⟨hparent, hchildren⟩ := h.place x hgrown
      exact node?_congr (hkind x hgrown) hparent hchildren
    · exact h.kept x hx hxp hgrown
  place _ hx := by cases hx
  kind := h.kind
  parent := h.parent
  children := h.children
  made := h.made
  new := h.new

/-- From `d` to `d'` the node `p` got the content `cs` at its end: a text that comes first was joined
to the text that `p` ended with, if any, and the rest are new children, and all that is new. -/
def Takes (d : Document) (p : NodeId) (cs : List Shape) (d' : Document) : Prop :=
  match d.trailingText? p, cs with
  | some (last, t), .node (some (.text s)) _ :: rest =>
      d'.kind? last = some (.text (t ++ s)) ∧
        ∃ fresh, fresh.map d'.shape = rest ∧ Received d p fresh (some last) d'
  | _, cs => ∃ fresh, fresh.map d'.shape = cs ∧ Received d p fresh none d'

/-- The shapes below an extended node say what it took. -/
theorem takes_of_shapes (hd : Forest d) (hd' : Forest d') (hp : d.contains p = true)
    (h : Extends d p d') {cs : List Shape} (hshapes : d'.shapesBelow p = meet (d.shapesBelow p) cs) :
    Takes d p cs d' := by
  obtain ⟨fresh, hreceived⟩ := h.received hd hd' hp
  rw [shapesBelow, hreceived.children, List.map_append] at hshapes
  -- Where nothing is joined, the old children have their old shapes.
  have hplain : meet (d.shapesBelow p) cs = d.shapesBelow p ++ cs →
      ∃ fresh, fresh.map d'.shape = cs ∧ Received d p fresh none d' := by
    intro hmeet
    rw [hmeet, shapesBelow] at hshapes
    obtain ⟨hold, hnew⟩ := List.append_inj hshapes (by rw [List.length_map, List.length_map])
    refine ⟨fresh, hnew, hreceived.none_grown fun x hx => ?_⟩
    obtain ⟨⟨x, t⟩, ht, rfl⟩ := Option.map_eq_some_iff.mp hx
    have hlast := (trailingText?_eq_some_iff.mp ht).1
    have hshape := List.map_inj_left.mp hold x (List.mem_of_getLast? hlast)
    rw [hd.shape_eq, hd'.shape_eq] at hshape
    exact (Shape.node.inj hshape).1
  unfold Takes
  cases htrail : d.trailingText? p with
  | none => exact hplain (meet_of_last cs (last_shape_of_no_trailing hd htrail))
  | some lt =>
      obtain ⟨last, t⟩ := lt
      rcases head_cases cs with hhead | ⟨s, b, rest, rfl⟩
      · split
        · cases hhead
        · exact hplain (meet_of_head _ hhead)
      · obtain ⟨init, hinit, hbelow⟩ := shapesBelow_of_trailing hd htrail
        rw [htrail] at hreceived
        rw [hbelow, meet_text, hinit, List.map_append, List.append_assoc] at hshapes
        obtain ⟨-, htail⟩ :=
          List.append_inj hshapes (by rw [List.length_map, List.length_map])
        rw [List.map_singleton, List.singleton_append, hd'.shape_eq] at htail
        obtain ⟨hshape, hnew⟩ := List.cons.inj htail
        exact ⟨(Shape.node.inj hshape).1, fresh, hnew, hreceived⟩

/-! ## Markup -/

/-- A node that receives the trees of a fragment gets their content at its end, in order, and nothing
else in the document changes; no text of the content is empty, and none stands next to another.
Markup is received as the trees that it parses to under the name of the node. -/
theorem markup_copied_faithfully (hd : Reachable d) (hp : d.contains p = true) :
    (∀ ts : List Tree, Takes d p (content (unwrap ts)) (d.graftAll p (unwrap ts)) ∧
      TidyAll (content (unwrap ts))) ∧
    ∀ text, d.appendMarkup p text =
      d.graftAll p (unwrap (Markup.parseFragment (d.contextOf p) text)) := by
  constructor
  · intro ts
    have hforest := hd.forest.graftAll hp (unwrap ts)
    have hshapes := graftAll_shapes (unwrap ts) hd.forest hp
    rw [pasteAll_eq_meet] at hshapes
    exact ⟨takes_of_shapes hd.forest hforest hp (graftAll_extends _ hd.forest hp) hshapes,
      tidyAll_content _⟩
  · intro text
    rw [appendMarkup, if_pos hp, appendFragment]

/-- A page that ends with a text. -/
def textPage : Document := (new.createText "a").1.appendChild root ⟨1⟩

/-- A fragment whose first text goes on across an instruction, with a template behind it. -/
def rowFragment : List Tree :=
  [.element .html "html" []
    [.text "b", .instruction "x" "y", .text "c",
      .element .html "Template" [⟨none, "ID", "1"⟩, ⟨some "x", "l", "2"⟩, ⟨none, "id", "3"⟩]
        [.text ""] [.comment "", .text "d"]] []]

/-- The fragment as it is copied. -/
def rowContent : List Shape :=
  [.node (some (.text "bc")) [],
    .node (some (.element ⟨"template", [("id", "3"), ("x:l", "2")]⟩))
      [.node (some (.comment "")) [], .node (some (.text "d")) []]]

/-- Its text joins the one that is there, and the template is the one new child. -/
theorem row_copied :
    Reachable textPage ∧ content (unwrap rowFragment) = rowContent ∧
    (textPage.graftAll root (unwrap rowFragment)).kind? ⟨1⟩ = some (.text "abc") ∧
    ∃ fresh, fresh.map (textPage.graftAll root (unwrap rowFragment)).shape = rowContent.tail ∧
      Received textPage root fresh (some ⟨1⟩) (textPage.graftAll root (unwrap rowFragment)) := by
  have hpage : Reachable textPage := .appendChild _ _ (.createText _ .new)
  have hcontent : content (unwrap rowFragment) = rowContent := rfl
  have htrail : textPage.trailingText? root = some (⟨1⟩, "a") := by decide
  obtain ⟨htakes, -⟩ := (markup_copied_faithfully hpage (p := root) rfl).1 rowFragment
  unfold Takes at htakes
  rw [hcontent, htrail] at htakes
  obtain ⟨hkind, hfresh⟩ := htakes
  exact ⟨hpage, hcontent, hkind, hfresh⟩

end Inlay.Document
