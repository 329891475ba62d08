/-
# `Inlay.Proofs.Dispatch.Operations` — which operations keep the kinds in their roles

An `Operation` is one of the ways to change a document, with all that it is
given; `applyAll` does one after the other.  A document begins empty or as
parsed markup, and then has exactly one node of the kind of a root, whatever is
done to it (`oneRoot_applyAll`).

That the root stays on top and the leaves at the bottom is not guaranteed: the
operations compare identifiers and look at what is above what, and never at
kinds.  `Misplaces d op` is what breaks it:

    appendChild p c       is possible, and c is the root or p is a leaf
    appendMarkup p text   p is a leaf, and the markup comes to anything
    call                  its target begins with a leaf, and it adds a container
    all others            never

One operation on a document whose kinds are in their roles keeps them there
exactly if it misplaces nothing (`inRole_apply_iff`), and so a run that
misplaces nothing keeps them there (`inRole_applyAll`).

What it costs is text that is not written.  A selector finds nodes below a leaf,
and the writer does not come to them.
-/
import Inlay.Proofs.Dispatch.Container
import Inlay.Proofs.Document.Roles

namespace Inlay

open Document Shape

variable {τ : Type} {e : Engine τ} {s : Dispatcher τ} {d : Document} {c : Call} {n : NodeId}

/-- A way to change a document. -/
inductive Operation : Type 1
  | createElement (name : String)
  | createText (text : String)
  | createComment (text : String)
  | createDoctype (name : String)
  | setAttribute (id : NodeId) (name value : String)
  | appendChild (parent child : NodeId)
  | appendMarkup (parent : NodeId) (text : String)
  | remove (id : NodeId)
  | call {τ : Type} (e : Engine τ) (s : Dispatcher τ) (c : Call)

namespace Operation

/-- Do an operation. -/
def apply (d : Document) : Operation → Document
  | .createElement name => (d.createElement name).1
  | .createText text => (d.createText text).1
  | .createComment text => (d.createComment text).1
  | .createDoctype name => (d.createDoctype name).1
  | .setAttribute id name value => d.setAttribute id name value
  | .appendChild p c => d.appendChild p c
  | .appendMarkup p text => d.appendMarkup p text
  | .remove id => d.remove id
  | .call e s c => (c.answer e s d).document

/-- The operation moves the root, or puts something under a leaf. -/
def Misplaces (d : Document) : Operation → Prop
  | .appendChild p c => d.Displaces p c
  | .appendMarkup p text =>
      d.isLeaf p = true ∧ pasteAll [] (unwrap (Markup.parseFragment "body" text)) ≠ []
  | .call e s c => ∃ target n, c.target? = some target ∧ target.first? = some n ∧
      d.isLeaf n = true ∧ d.size < (c.answer e s d).document.size
  | _ => False

/-- Do one operation after the other. -/
def applyAll (d : Document) (ops : List Operation) : Document := ops.foldl apply d

end Operation

open Operation (applyAll)

/-- No operation of a run misplaces anything. -/
def NothingMisplaced (d : Document) : List Operation → Prop
  | [] => True
  | op :: ops => ¬ op.Misplaces d ∧ NothingMisplaced (op.apply d) ops

/-- A document before anything is done to it. -/
inductive Begins : Document → Prop
  | new : Begins Document.new
  | page (text : String) : Begins (ofPage text)
  | fragment (text : String) : Begins (ofFragment text)

/-! ## One root -/

theorem Document.OneRoot.appendFragment (h : OneRoot d) (hd : Forest d) (n : NodeId)
    (key fragment : String) : OneRoot (Dispatcher.appendFragment d n key fragment) := by
  rw [appendFragment_eq]
  exact ((h.create (by simp)).appendMarkup (hd.create _) _ _).appendChild _ _

theorem Document.OneRoot.rearranged {d' : Document} (h : OneRoot d) (hd : Forest d)
    (hr : Rearranged d n d') : OneRoot d' := by
  obtain ⟨ns, -, rfl | ⟨key, fragment, rfl⟩⟩ := hr
  · exact h.removeAll ns
  · exact (h.removeAll ns).appendFragment (hd.removeAll ns) n key fragment

namespace Begins

theorem reachable (h : Begins d) : Reachable d := by
  cases h with
  | new => exact .new
  | page text => exact .page text
  | fragment text => exact .fragment text

theorem oneRoot (h : Begins d) : OneRoot d := by
  have hroot : Document.new.contains root = true := rfl
  cases h with
  | new => exact oneRoot_new
  | page text | fragment text => exact oneRoot_new.graftAll forest_new hroot _

theorem inRole (h : Begins d) : InRole d := by
  have hroot : Document.new.contains root = true := rfl
  have hopen : ∀ ts, InRole (Document.new.graftAll root ts) := by
    intro ts
    refine (inRole_graftAll_iff forest_new oneRoot_new inRole_new hroot ts).mpr ?_
    rintro ⟨hleaf, -⟩
    cases hleaf
  cases h with
  | new => exact inRole_new
  | page text | fragment text => exact hopen _

end Begins

namespace Operation

theorem reachable (hd : Reachable d) (op : Operation) : Reachable (op.apply d) := by
  cases op with
  | createElement name => exact .createElement name hd
  | createText text => exact .createText text hd
  | createComment text => exact .createComment text hd
  | createDoctype name => exact .createDoctype name hd
  | setAttribute id name value => exact .setAttribute id name value hd
  | appendChild p c => exact .appendChild p c hd
  | appendMarkup p text => exact .appendMarkup p text hd
  | remove id => exact .remove id hd
  | call e s c => exact .call e s c hd

theorem oneRoot (hd : Forest d) (h : OneRoot d) (op : Operation) : OneRoot (op.apply d) := by
  cases op with
  | createElement | createText | createComment | createDoctype => exact h.create (by simp)
  | setAttribute id name value => exact h.modifyElement id _
  | appendChild p c => exact h.appendChild p c
  | appendMarkup p text => exact h.appendMarkup hd p text
  | remove id => exact h.remove id
  | call e s c =>
      show OneRoot (c.answer e s d).document
      rcases c.document_cases e s d with hsame | ⟨_, _, -, -, hr⟩
      · rwa [hsame]
      · exact h.rearranged hd hr

end Operation

theorem reachable_applyAll : ∀ (ops : List Operation) {d : Document}, Reachable d →
    Reachable (applyAll d ops)
  | [], _, hd => hd
  | op :: ops, _, hd => reachable_applyAll ops (op.reachable hd)

theorem oneRoot_applyAll : ∀ (ops : List Operation) {d : Document}, Reachable d → OneRoot d →
    OneRoot (applyAll d ops)
  | [], _, _, h => h
  | op :: ops, _, hd, h => oneRoot_applyAll ops (op.reachable hd) (op.oneRoot hd.forest h)

/-! ## Calls -/

/-- A container is no leaf, and may be filled; what it may not is be added to a leaf. -/
theorem inRole_appendFragment_iff (hd : Forest d) (hr : OneRoot d) (h : InRole d) (n : NodeId)
    (key fragment : String) :
    InRole (Dispatcher.appendFragment d n key fragment) ↔ d.isLeaf n = false := by
  have hcreate := hd.create (.element (containerOf key))
  have hg : Grows d.size (fun _ => True) _ _ :=
    hcreate.grows_appendMarkup ⟨d.size⟩ fragment
  have hfilled : InRole ((d.create (.element (containerOf key))).1.appendMarkup ⟨d.size⟩
      fragment) := by
    refine (inRole_appendMarkup_iff hcreate (hr.create (by simp)) (h.create _) _ _).mpr ?_
    rintro ⟨hleaf, -⟩
    rw [isLeaf, kind?_create_self] at hleaf
    cases hleaf
  rw [appendFragment_eq]
  generalize (d.create (.element (containerOf key))).1.appendMarkup ⟨d.size⟩ fragment = d' at *
  by_cases hn : d.contains n = true
  · have hold : d'.isLeaf n = d.isLeaf n := by
      rw [isLeaf, kind?, node?_filled hd hg hn, isLeaf, kind?]
    have hplaced : d'.Displaces n ⟨d.size⟩ ↔ d.isLeaf n = true := by
      constructor
      · rintro ⟨hroot | hleaf, -⟩
        · exact absurd hroot (ne_size_of_contains hr.contains_root).symm
        · rwa [hold] at hleaf
      · intro hleaf
        refine ⟨.inr (by rw [hold, hleaf]), hg.contains (contains_create _ hn),
          hg.contains (contains_create_self _), ne_size_of_contains hn, fun hup => ?_⟩
        have := contains_of_ancestor_old hd (fun _ => parent?_filled hd hg) hup hn
        rw [not_contains_size] at this
        cases this
    rw [inRole_appendChild_iff (hg.forest hcreate) hfilled, hplaced, Bool.not_eq_true]
  · have hno : d.contains n = false := by simpa using hn
    rw [appendChild_filled_of_new hd hg hno]
    refine iff_of_true hfilled ?_
    by_contra hleaf
    exact hn (contains_of_isLeaf (by simpa using hleaf))

theorem inRole_rearranged_iff {d' : Document} (hd : Forest d) (hr : OneRoot d) (h : InRole d)
    (hre : Rearranged d n d') : InRole d' ↔ ¬ (d.isLeaf n = true ∧ d.size < d'.size) := by
  obtain ⟨ns, -, rfl | ⟨key, fragment, rfl⟩⟩ := hre
  · refine iff_of_true (h.removeAll ns hd) ?_
    rintro ⟨-, hlt⟩
    rw [size_removeAll] at hlt
    exact Nat.lt_irrefl _ hlt
  · have hlt : (ns.foldl remove d).size < (Dispatcher.appendFragment _ n key fragment).size :=
      size_lt_appendFragment (hd.removeAll ns)
    rw [size_removeAll] at hlt
    rw [inRole_appendFragment_iff (hd.removeAll ns) (hr.removeAll ns) (h.removeAll ns hd),
      isLeaf_removeAll, and_iff_left hlt, Bool.not_eq_true]

/-- A call keeps the roles unless it adds a container to a leaf. -/
theorem inRole_call_iff (hd : Forest d) (hr : OneRoot d) (h : InRole d) (e : Engine τ)
    (s : Dispatcher τ) (c : Call) :
    InRole (c.answer e s d).document ↔ ¬ (Operation.call e s c).Misplaces d := by
  rcases c.document_cases e s d with hsame | ⟨target, n, ht, hn, hre⟩
  · refine iff_of_true (by rwa [hsame]) ?_
    rintro ⟨_, _, -, -, -, hlt⟩
    rw [hsame] at hlt
    exact Nat.lt_irrefl _ hlt
  · rw [inRole_rearranged_iff hd hr h hre]
    refine not_congr ⟨fun hplace => ⟨target, n, ht, hn, hplace⟩, ?_⟩
    rintro ⟨target', n', ht', hn', hplace⟩
    rw [ht] at ht'
    cases ht'
    rw [hn] at hn'
    cases hn'
    exact hplace

/-! ## Operations and runs -/

/-- An operation keeps kinds in their roles exactly if it misplaces nothing. -/
theorem inRole_apply_iff (hd : Forest d) (hr : OneRoot d) (h : InRole d) (op : Operation) :
    InRole (op.apply d) ↔ ¬ op.Misplaces d := by
  cases op with
  | createElement | createText | createComment | createDoctype =>
      exact iff_of_true (h.create _) id
  | setAttribute id name value => exact iff_of_true (h.modifyElement id _) fun h => h
  | appendChild p c => exact inRole_appendChild_iff hd h p c
  | appendMarkup p text => exact inRole_appendMarkup_iff hd hr h p text
  | remove id => exact iff_of_true (h.remove hd id) fun h => h
  | call e s c => exact inRole_call_iff hd hr h e s c

/-- A run that misplaces nothing keeps kinds in their roles. -/
theorem inRole_applyAll : ∀ (ops : List Operation) {d : Document}, Reachable d → OneRoot d →
    InRole d → NothingMisplaced d ops → InRole (applyAll d ops)
  | [], _, _, _, h, _ => h
  | op :: ops, _, hd, hr, h, ⟨hop, hops⟩ =>
      inRole_applyAll ops (op.reachable hd) (op.oneRoot hd.forest hr)
        ((inRole_apply_iff hd.forest hr h op).mpr hop) hops

/-! ## What is found and what is written -/

theorem find_subset_descendants (d : Document) (scope : NodeId) (selector : String) :
    (d.find scope selector).nodes ⊆ d.descendants scope := by
  unfold Document.find
  cases Selector.read selector with
  | ok s => exact List.filter_subset_self _
  | error e => exact List.nil_subset _

theorem get_subset_descendants {target : Selection} (hn : target.first? = some n)
    (t : TemplateRef) : (Dispatcher.get d target t).nodes ⊆ d.descendants n := by
  rw [Dispatcher.get, hn]
  exact renderedNodes_subset_descendants

theorem Document.Forest.descendants_attached (hd : Forest d) (h : d.isAttached n = true) :
    d.descendants n ⊆ d.descendants root := by
  intro x hx
  have hbelow := hd.mem_descendants.mp hx
  rw [isAttached, Bool.or_eq_true, decide_eq_true_eq, hd.isAncestor_iff] at h
  rcases h with rfl | h
  · exact hx
  · exact hd.mem_descendants.mpr (ancestor_trans h hbelow)

/-- Whatever is done to a document, one node has the kind of a root, and it is the root.  What keeps
the root on top and the leaves childless is that no operation misplaces anything, and an operation
that does breaks it.  Then, and only if no leaf below the root has children, the writer comes to
everything below the root, and so to all that is selected, or that `get` finds in the tree. -/
theorem kinds_keep_roles_iff (hd : Begins d) (ops : List Operation) :
    let d' := applyAll d ops
    OneRoot d' ∧
    (NothingMisplaced d ops → InRole d') ∧
    (InRole d' → ∀ op : Operation, InRole (op.apply d') ↔ ¬ op.Misplaces d') ∧
    d'.write = joined d'.allPieces ∧
    ((∀ x ∈ d'.descendants root, x ∈ d'.allPieces.map (·.1)) ↔
      ∀ x ∈ d'.descendants root, d'.isLeaf x = true → d'.children x = []) ∧
    (InRole d' →
      (∀ selector, (d'.select selector).nodes ⊆ d'.allPieces.map (·.1)) ∧
      ∀ target n t, target.first? = some n → d'.isAttached n = true →
        (Dispatcher.get d' target t).nodes ⊆ d'.allPieces.map (·.1)) := by
  intro d'
  have hreach : Reachable d' := reachable_applyAll ops hd.reachable
  have hroot : OneRoot d' := oneRoot_applyAll ops hd.reachable hd.oneRoot
  have hall := hreach.forest.reached_all_iff
  refine ⟨hroot, inRole_applyAll ops hd.reachable hd.oneRoot hd.inRole,
    fun h op => inRole_apply_iff hreach.forest hroot h op, write_eq_join d', hall, fun h => ?_⟩
  have hreached : d'.descendants root ⊆ d'.reached :=
    fun x hx => hall.mpr (fun y _ => h.leaves y) x hx
  refine ⟨fun selector x hx => hreached (find_subset_descendants d' root selector hx),
    fun target n t hn hatt x hx => hreached ?_⟩
  exact hreach.forest.descendants_attached hatt (get_subset_descendants hn t hx)

/-- A paragraph with a text, and then a bold text hung under a node. -/
def boldUnder (p : NodeId) : List Operation :=
  [.createElement "p", .createText "x", .createElement "b", .createText "y",
    .appendChild root ⟨1⟩, .appendChild ⟨1⟩ ⟨2⟩, .appendChild ⟨3⟩ ⟨4⟩, .appendChild p ⟨3⟩]

/-- Under the paragraph it is written. -/
theorem bold_under_paragraph_written :
    Begins new ∧ NothingMisplaced new (boldUnder ⟨1⟩) ∧
    InRole (applyAll new (boldUnder ⟨1⟩)) ∧
    (applyAll new (boldUnder ⟨1⟩)).write = "<p>x<b>y</b></p>" := by
  have hnone : NothingMisplaced new (boldUnder ⟨1⟩) := by
    refine ⟨id, id, id, id, ?_, ?_, ?_, ?_, trivial⟩ <;>
      exact fun h => absurd h.1 (by decide)
  obtain ⟨-, hrole, -⟩ := kinds_keep_roles_iff .new (boldUnder ⟨1⟩)
  exact ⟨.new, hnone, hrole hnone, by decide +kernel⟩

/-- The same, hung under the text. -/
def boldUnderText : Document := applyAll new (boldUnder ⟨2⟩)

/-- Under the text it is found and not written; and the root itself may be hung under a node. -/
theorem bold_under_text_not_written :
    boldUnderText.isLeaf ⟨2⟩ = true ∧ boldUnderText.children ⟨2⟩ = [⟨3⟩] ∧
    (boldUnderText.select "b").nodes = [⟨3⟩] ∧ ⟨3⟩ ∉ boldUnderText.allPieces.map (·.1) ∧
    boldUnderText.write = "<p>x</p>" ∧
    (applyAll new [.createElement "div", .appendChild ⟨1⟩ root]).parent? root = some ⟨1⟩ := by
  decide +kernel

end Inlay
