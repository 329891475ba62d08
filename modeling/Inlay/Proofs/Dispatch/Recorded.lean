/-
# `Inlay.Proofs.Dispatch.Recorded` — rendered nodes and the selector they are listed under

Rendered nodes are found in one way and listed under the selector of another:

    by hand        a div, and the marker in its attribute is the wanted one
    by selector    div[data-template-id="marker"], or div[data-template-id]
                   for the nodes of all keys

The two agree, for every key.  A marker holds no double quote, so the text is
read as a selector and the value in it is the marker, whatever else the key is
made of (`renderedSelector_text`).

A selector does not mind the case of names, and the search by hand does.  They
agree because names of elements are in lower case (`LowerNamed`); every way in
which a document comes about keeps that, but for edits of its elements
(`Unedited.lowerNamed`).
-/
import Inlay.Proofs.Dispatch.Reachable
import Inlay.Proofs.Selector.Conjunction

namespace Inlay

open Document Markup Selector

variable {d d' : Document} {c n : NodeId}

/-! ## Names in lower case -/

/-- The name has no letter from A to Z. -/
def LowerName (e : Element) : Prop := Text.lower e.name = e.name

/-- All names of elements are in lower case. -/
def LowerNamed (d : Document) : Prop := ∀ x e, d.element? x = some e → LowerName e

theorem lowerName_ofName (name : String) : LowerName (.ofName name) := Text.lower_lower name

theorem lowerName_storedElement (name : String) (attributes : List Attribute) :
    LowerName (storedElement name attributes) := by
  have hset : ∀ (l : List Attribute) (e : Element), LowerName e →
      LowerName (l.foldl (fun e a => e.setAttribute a.key a.value) e) := by
    intro l
    induction l with
    | nil => exact fun e he => he
    | cons a l ih => exact fun e he => ih _ he
  exact hset attributes _ (lowerName_ofName name)

namespace LowerNamed

theorem congr (h : LowerNamed d) (hk : ∀ x, d'.kind? x = d.kind? x) : LowerNamed d' := by
  intro x e he
  rw [element?, hk, ← element?] at he
  exact h x e he

theorem grows {k : Nat} (h : LowerNamed d) (hg : Grows k LowerName d d') : LowerNamed d' :=
  fun x e he => (hg.element?_new he).elim (h x e) id

theorem new : LowerNamed Document.new := by
  rintro ⟨_ | i⟩ e he
  · cases he
  · simp [element?, kind?, node?, Document.new] at he

theorem create (h : LowerNamed d) {k : NodeKind} (hk : ∀ e, k = .element e → LowerName e) :
    LowerNamed (d.create k).1 := by
  intro x e he
  by_cases hx : x = ⟨d.size⟩
  · subst hx
    rw [element?, kind?_create_self] at he
    cases k with
    | element e' => exact hk e (by simpa using he)
    | _ => cases he
  · rw [element?, kind?_create_of_ne k hx, ← element?] at he
    exact h x e he

theorem setAttribute (h : LowerNamed d) (id : NodeId) (name value : String) :
    LowerNamed (d.setAttribute id name value) := by
  intro x e he
  rw [Document.setAttribute] at he
  by_cases hx : x = id
  · subst hx
    rw [element?_modifyElement, Option.map_eq_some_iff] at he
    obtain ⟨e', he', rfl⟩ := he
    exact h x e' he'
  · rw [element?, kind?, node?_modifyElement_of_ne _ hx, ← kind?, ← element?] at he
    exact h x e he

theorem appendMarkup (h : LowerNamed d) (hd : Forest d) (p : NodeId) (text : String) :
    LowerNamed (d.appendMarkup p text) :=
  h.grows (appendMarkup_grows hd (Nat.zero_le _) lowerName_storedElement text)

theorem rearranged (h : LowerNamed d) (hd : Forest d) (hr : Rearranged d n d') :
    LowerNamed d' := by
  obtain ⟨ns, -, hr⟩ := hr
  have hremoved : LowerNamed (ns.foldl Document.remove d) := h.congr fun x => by simp
  rcases hr with rfl | ⟨key, fragment, rfl⟩
  · exact hremoved
  · rw [appendFragment_eq]
    have hwrapper := hremoved.create (k := .element (containerOf key))
      (by rintro e ⟨rfl⟩; exact lowerName_ofName "div")
    exact (hwrapper.appendMarkup ((Forest.removeAll ns hd).create _) _ fragment).congr
      fun x => kind?_appendChild

end LowerNamed

/-- What comes about from an empty or a parsed document by operations and calls, without edits of
elements. -/
inductive Unedited : Document → Prop
  | new : Unedited Document.new
  | page (text : String) : Unedited (ofPage text)
  | fragment (text : String) : Unedited (ofFragment text)
  | createElement {d : Document} (name : String) : Unedited d → Unedited (d.createElement name).1
  | createText {d : Document} (text : String) : Unedited d → Unedited (d.createText text).1
  | createComment {d : Document} (text : String) : Unedited d → Unedited (d.createComment text).1
  | createDoctype {d : Document} (name : String) : Unedited d → Unedited (d.createDoctype name).1
  | setAttribute {d : Document} (id : NodeId) (name value : String) :
      Unedited d → Unedited (d.setAttribute id name value)
  | appendChild {d : Document} (parent child : NodeId) :
      Unedited d → Unedited (d.appendChild parent child)
  | appendMarkup {d : Document} (parent : NodeId) (text : String) :
      Unedited d → Unedited (d.appendMarkup parent text)
  | remove {d : Document} (id : NodeId) : Unedited d → Unedited (d.remove id)
  | call {d : Document} {τ : Type} (e : Engine τ) (s : Dispatcher τ) (c : Call) :
      Unedited d → Unedited (c.answer e s d).document

namespace Unedited

theorem reachable (hd : Unedited d) : Reachable d := by
  induction hd with
  | new => exact .new
  | page text => exact .page text
  | fragment text => exact .fragment text
  | createElement name _ ih => exact .createElement name ih
  | createText text _ ih => exact .createText text ih
  | createComment text _ ih => exact .createComment text ih
  | createDoctype name _ ih => exact .createDoctype name ih
  | setAttribute id name value _ ih => exact .setAttribute id name value ih
  | appendChild p c _ ih => exact .appendChild p c ih
  | appendMarkup p text _ ih => exact .appendMarkup p text ih
  | remove id _ ih => exact .remove id ih
  | call e s c _ ih => exact .call e s c ih

theorem lowerNamed (hd : Unedited d) : LowerNamed d := by
  have hgraft : ∀ ts, LowerNamed (Document.new.graftAll root ts) := fun ts =>
    LowerNamed.new.grows (graftAll_grows ts forest_new rfl (Nat.zero_le _)
      (everyOf_of_stored lowerName_storedElement ts))
  induction hd with
  | new => exact .new
  | page text => exact hgraft _
  | fragment text => exact hgraft _
  | createElement name _ ih => exact ih.create (by rintro e ⟨rfl⟩; exact lowerName_ofName name)
  | createText | createComment | createDoctype => exact LowerNamed.create ‹_› (by rintro e ⟨⟩)
  | setAttribute id name value _ ih => exact ih.setAttribute id name value
  | appendChild p c _ ih => exact ih.congr fun x => kind?_appendChild
  | appendMarkup p text hd ih => exact ih.appendMarkup hd.reachable.forest p text
  | remove id _ ih => exact ih.congr fun x => kind?_remove
  | call e s c hd ih =>
      rcases c.document_cases e s _ with h | ⟨_, _, -, -, h⟩
      · rwa [h]
      · exact ih.rearranged hd.reachable.forest h

end Unedited

/-! ## The selector -/

theorem quote_not_mem_markerOf (key : String) : '"' ∉ (markerOf key).toList := by
  rw [markerOf, String.toList_ofList, List.mem_map]
  rintro ⟨c, -, hc⟩
  split at hc
  · exact absurd hc (by decide)
  · contradiction

/-- The condition on the marker. -/
def renderedTest : Option String → AttributeTest
  | some key => .equals markerAttribute (markerOf key)
  | none => .present markerAttribute

/-- What the selector of rendered nodes spells. -/
def renderedCompound (key : Option String) : WrittenCompound :=
  ⟨some "div", [.test (renderedTest key)]⟩

theorem renderedTest_text (key : Option String) : ∃ l,
    (renderedSelector key).toList = "div".toList ++ ('[' :: (l ++ [']'])) ∧
    SimpleText (.test (renderedTest key)) ('[' :: (l ++ [']'])) := by
  have hname : Name markerAttribute.toList := by
    have hall : markerAttribute.toList.all isNameChar = true := by decide
    exact ⟨by decide, fun c hc => isNameChar_iff.mp (List.all_eq_true.mp hall c hc)⟩
  have hnone : White [] := by simp [White]
  cases key with
  | none =>
      have htest := SimpleText.present hnone hname hnone
      rw [String.ofList_toList] at htest
      exact ⟨markerAttribute.toList, by simp [renderedSelector], htest⟩
  | some key =>
      have hvalue := ValueText.quoted (.inl rfl) (quote_not_mem_markerOf key)
      have htest := SimpleText.equals hnone hname hnone hnone hvalue hnone
      rw [String.ofList_toList, String.ofList_toList] at htest
      refine ⟨markerAttribute.toList ++ ('=' :: '"' :: ((markerOf key).toList ++ ['"'])),
        by simp [renderedSelector], ?_⟩
      simpa [renderedTest] using htest

theorem renderedSelector_text (key : Option String) :
    inCharacters.Compound (renderedCompound key) (Text.trim (renderedSelector key)).toList := by
  obtain ⟨l, hl, htest⟩ := renderedTest_text key
  have hdiv : Name "div".toList := ⟨by decide, by simp [IsLetter]⟩
  have hends : (renderedSelector key).toList = 'd' :: ('i' :: 'v' :: '[' :: l ++ [']']) := by
    simp [hl]
  have htrim : Text.trim (renderedSelector key) = renderedSelector key :=
    Text.trim_eq_self hends (by decide) (by decide)
  have htag : TagText "div" "div".toList := .name hdiv
  rw [htrim, hl, ← List.append_nil ('[' :: _)]
  exact .mk (.present htag) (.cons htest .nil) (by simp)

/-- Where names are in lower case, the selector asks the same as the search by hand. -/
theorem matchesNode_rendered (hd : LowerNamed d) (key : Option String) (x : NodeId) :
    (Selector.ofWritten [⟨renderedCompound key, []⟩]).matchesNode d x =
      match d.marker? x, key with
      | some m, some k => decide (m = markerOf k)
      | some _, none => true
      | none, _ => false := by
  rw [matchesNode_one, Compound.matchesNode, marker?]
  cases he : d.element? x with
  | none => rfl
  | some e =>
      have hname : Text.sameLetters e.name "div" = decide (e.name = "div") := by
        rw [Bool.eq_iff_iff, Text.sameLetters_iff, decide_eq_true_iff, hd x e he]
        rfl
      have hholds : (renderedCompound key).compound.holds e =
          (decide (e.name = "div") && (renderedTest key).holds e) := by
        have hcompound :
            (renderedCompound key).compound = ⟨some "div", none, [], [renderedTest key]⟩ := rfl
        rw [hcompound, ← hname]
        simp [Compound.holds]
      simp only [hholds]
      by_cases hdiv : e.name = "div"
      · cases ha : e.attribute? markerAttribute <;> cases key <;>
          simp [renderedTest, AttributeTest.holds, hdiv, ha]
      · simp [hdiv]

theorem find_renderedSelector (hd : LowerNamed d) (c : NodeId) (key : Option String) :
    d.find c (renderedSelector key) = d.rendered c key := by
  have hread := read_compound (renderedSelector_text key)
  have hnodes : (d.descendants c).filter ((ofWritten [⟨renderedCompound key, []⟩]).matchesNode d) =
      d.renderedNodes c key :=
    List.filter_congr fun x _ => matchesNode_rendered hd key x
  rw [find, hread, rendered, ← hnodes]

/-- Where names of elements are in lower case, the selector under which `get` lists nodes can be
read, and it finds the same nodes below the first node of the target, in the same order.  Names are
in lower case in every document whose elements were not edited. -/
theorem get_is_found_again {target : Selection} (hc : target.first? = some c) (t : TemplateRef) :
    (Unedited d → LowerNamed d) ∧
    (LowerNamed d → ∃ text, (Dispatcher.get d target t).selector = some text ∧
      (∃ selector, Selector.read text = .ok selector) ∧
      d.find c text = Dispatcher.get d target t) := by
  refine ⟨Unedited.lowerNamed, fun hd => ?_⟩
  have hget : Dispatcher.get d target t = d.rendered c t.concreteKey? := by
    rw [Dispatcher.get, hc]
  rw [hget]
  exact ⟨renderedSelector t.concreteKey?, rfl, ⟨_, read_compound (renderedSelector_text _)⟩,
    find_renderedSelector hd c t.concreteKey?⟩

/-- A key of quotes of both kinds, brackets, a comma, white space and a letter beyond ASCII. -/
def oddKey : String := "it's \"[a=b]\",\n é"

/-- A page with a container of that key. -/
def oddPage : Document :=
  ((new.createElement "DIV").1.setAttribute ⟨1⟩ markerAttribute (markerOf oddKey)).appendChild
    root ⟨1⟩

theorem odd_key_found : ∃ text,
    (Dispatcher.get oddPage (.ofNode root) (.key oddKey)).selector = some text ∧
    (∃ selector, Selector.read text = .ok selector) ∧ (oddPage.find root text).nodes = [⟨1⟩] := by
  have hpage : Unedited oddPage := .appendChild _ _ (.setAttribute _ _ _ (.createElement _ .new))
  have hfirst : (Selection.ofNode root).first? = some root := rfl
  obtain ⟨hlower, hfound⟩ := get_is_found_again (d := oddPage) hfirst (.key oddKey)
  obtain ⟨text, htext, hread, hfind⟩ := hfound (hlower hpage)
  refine ⟨text, htext, hread, ?_⟩
  rw [hfind]
  decide

end Inlay
