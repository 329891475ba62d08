/-
# `Inlay.Proofs.Dispatch.Safety` — no call ends in an access that fails

A call makes direct accesses where it looks for the markup of a template, where it
adds a container, and where it parses a fragment that it answers as a page:

    source            a key is a selector, and the page is searched for it
    appendContainer   the fragment is copied, and the container hangs into the target
    deliver           one of the two above, or a new page

Everything else that a call does looks before it reads.  The rendered nodes are
taken away before a container is added, and what is left is a forest still
(`Forest.prepare`), so the last child that a copy looks at is always there.

`direct_accesses_succeed` puts the three places together: reading a selector,
matching a node, changing a document and making a call.  A `Checked` run ends in
what the operation gives, and so it does not end in a `BadAccess`.
-/
import Inlay.Proofs.Dispatch.Reachable
import Inlay.Proofs.Selector.Safety

namespace Inlay

open Document Selector

namespace Checked

variable {τ : Type} {e : Engine τ} {s : Dispatcher τ} {d : Document} {target : Selection}
  {key : String} {data : Data.Value} {o : Options} {p : Overrides}

/-! ## The markup of a template -/

/-- The node that holds the markup of a template. -/
def source (t : TemplateRef) (d : Document) : Checked (Option NodeId) :=
  match t with
  | .key k => (select d k).map (·.first?)
  | .selection s => .ok s.first?
  | .absent => .ok none

theorem source_eq (t : TemplateRef) (d : Document) : source t d = .ok (t.source? d) := by
  cases t with
  | key k => rw [source, select, find_eq]; rfl
  | selection | absent => rfl

/-! ## Rendering -/

/-- Add a fragment to a node, in a container with the marker of its key. -/
def appendContainer (d : Document) (container : NodeId) (key fragment : String) :
    Checked Document := do
  let (d, wrapper) := d.createElement "div"
  let d := d.setAttribute wrapper markerAttribute (markerOf key)
  let d ← appendMarkup d wrapper fragment
  appendChild d container wrapper

/-- Add a fragment to the target, or answer it. -/
def deliver (d : Document) (target : Selection) (key fragment : String) (o : Options) :
    Checked (Document × Outcome τ) :=
  match o.output with
  | .raw | .compiled => .ok (d, .raw fragment)
  | .html => (parse fragment).map fun page => (d, .html page)
  | .append =>
    match target.first? with
    | none => .ok (d, .target target)
    | some c => (appendContainer d c key fragment).map fun d => (d, .target target)

/-- Render the compiled template of a key into the target. -/
def renderInto (e : Engine τ) (s : Dispatcher τ) (d : Document) (target : Selection)
    (key : String) (data : Data.Value) (o : Options) : Checked (Answer τ) :=
  let d := Dispatcher.prepare d target key o
  if Dispatcher.isFilled d target key o then .ok ⟨s, d, .target target, []⟩
  else
    match s.cache.get? key with
    | none => .ok ⟨s, d, .target target, []⟩
    | some t =>
      let s := if o.storeCompiled then s else { s with cache := s.cache.evict key }
      match e.render t data with
      | none => .ok ⟨s, d, .target target, [.render key t]⟩
      | some fragment => do
        let (d, outcome) ← deliver d target key fragment o
        return ⟨s, d, outcome, [.render key t]⟩

theorem appendContainer_eq (hd : Forest d) (n : NodeId) (key fragment : String) :
    appendContainer d n key fragment = .ok (Dispatcher.appendFragment d n key fragment) := by
  have hwrapper : Forest ((d.createElement "div").1.setAttribute (d.createElement "div").2
      markerAttribute (markerOf key)) := (hd.create _).modifyElement _ _
  unfold appendContainer Dispatcher.appendFragment
  simp only [appendMarkup_eq hwrapper, ok_bind]
  exact appendChild_eq _ _ _

theorem deliver_eq (hd : Forest d) (target : Selection) (key fragment : String) (o : Options) :
    deliver (τ := τ) d target key fragment o =
      .ok (Dispatcher.deliver d target key fragment o) := by
  unfold deliver Dispatcher.deliver
  cases o.output with
  | raw | compiled => rfl
  | html =>
      simp only [parse_eq]
      rfl
  | append =>
      cases target.first? with
      | none => rfl
      | some n =>
          simp only [appendContainer_eq hd]
          rfl

theorem renderInto_eq (hd : Forest d) :
    renderInto e s d target key data o = .ok (Dispatcher.renderInto e s d target key data o) := by
  unfold renderInto Dispatcher.renderInto
  simp only
  split
  · rfl
  · cases s.cache.get? key with
    | none => rfl
    | some t =>
        cases hrender : e.render t data with
        | none => simp only [hrender]
        | some fragment =>
            simp only [hrender]
            rw [deliver_eq (hd.prepare target key o)]
            rfl

/-! ## Calls -/

/-- Render a template into the target. -/
def add (e : Engine τ) (s : Dispatcher τ) (d : Document) (target : Selection) (t : TemplateRef)
    (data : Data.Value) (p : Overrides) : Checked (Answer τ) :=
  let o := s.defaults.merge p
  if o.validate && data.isEmpty then .ok ⟨s, d, .target target, []⟩
  else
    match t.key? with
    | none => .ok ⟨s, d, .target target, []⟩
    | some key =>
      if s.cache.contains key then renderInto e s d target key data o
      else do
        match ← source t d with
        | none => return ⟨s, d, .target target, []⟩
        | some source =>
          let markup := d.inner source
          match Dispatcher.compileInto e s key markup with
          | none => return ⟨s, d, .target target, [.compile key markup]⟩
          | some s => do
            let a ← renderInto e s d target key data o
            return { a with requests := .compile key markup :: a.requests }

/-- Render a template from outside the document into the target. -/
def addFrom (e : Engine τ) (loader : Loader) (s : Dispatcher τ) (d : Document)
    (target : Selection) (location : String) (data : Data.Value) (p : Overrides) :
    Checked (Answer τ) :=
  if Text.isAllBlank location then .ok ⟨s, d, .target target, []⟩
  else if s.cache.contains location then add e s d target (.key location) data p
  else
    match loader location with
    | none => .ok ⟨s, d, .target target, [.load location]⟩
    | some markup =>
      match Dispatcher.compileInto e s location markup with
      | none => .ok ⟨s, d, .target target, [.load location, .compile location markup]⟩
      | some s => do
        let a ← add e s d target (.key location) data p
        return { a with requests := .load location :: .compile location markup :: a.requests }

theorem add_eq (hd : Forest d) (t : TemplateRef) :
    add e s d target t data p = .ok (s.add e d target t data p) := by
  unfold add Dispatcher.add
  simp only
  split
  · rfl
  · cases t.key? with
    | none => rfl
    | some key =>
        simp only
        split
        · exact renderInto_eq hd
        · rw [source_eq, ok_bind]
          cases t.source? d with
          | none => rfl
          | some source =>
              simp only
              cases Dispatcher.compileInto e s key (d.inner source) with
              | none => rfl
              | some s =>
                  simp only [renderInto_eq hd]
                  rfl

theorem addFrom_eq (hd : Forest d) (loader : Loader) (location : String) :
    addFrom e loader s d target location data p =
      .ok (s.addFrom e loader d target location data p) := by
  unfold addFrom Dispatcher.addFrom
  split
  · rfl
  · split
    · exact add_eq hd _
    · cases loader location with
      | none => rfl
      | some markup =>
          simp only
          cases Dispatcher.compileInto e s location markup with
          | none => rfl
          | some s =>
              simp only [add_eq hd]
              rfl

/-- Run a call; only an adding one makes direct accesses. -/
def answer (e : Engine τ) (s : Dispatcher τ) (d : Document) : Call → Checked (Answer τ)
  | .add target t data p => add e s d target t data p
  | .addFrom loader target location data p => addFrom e loader s d target location data p
  | .dispatch target word t data p =>
    match Action.named? word with
    | some .add => add e s d target t data p
    | none | some .get | some .compiled | some .remove =>
      .ok ((Call.dispatch target word t data p).answer e s d)
  | .remove target t p => .ok ((Call.remove target t p).answer e s d)
  | .get target t => .ok ((Call.get target t).answer e s d)
  | .compiled => .ok (Call.compiled.answer e s d)

theorem answer_eq (hd : Forest d) (c : Call) : answer e s d c = .ok (c.answer e s d) := by
  cases c with
  | add target t data p => exact add_eq hd t
  | addFrom loader target location data p => exact addFrom_eq hd loader location
  | dispatch target word t data p =>
      rw [answer, Call.answer, Dispatcher.dispatch]
      cases Action.named? word with
      | none => rfl
      | some a =>
          cases a with
          | add => exact add_eq hd t
          | get | compiled | remove => rfl
  | remove | get | compiled => rfl

end Checked

/-- Every row that is read has a part, and every part asks for something.  The name of a token is a
slice of the token's text, whatever characters it has.  Reading, matching and searching end without
a failed access, for every text, selector, node and document; and so do the changes and the calls
that add to a document, for every document that can come about and whatever the identifiers are.
Each of them ends in what the operation gives. -/
theorem direct_accesses_succeed :
    (∀ text selector, Selector.read text = .ok selector → ∀ row ∈ selector.groups,
      0 < row.parts.length ∧ ∀ part ∈ row.parts, part.2.isEmpty = false) ∧
    (∀ t l, Lexeme t l → Checked.tokenOf t (String.ofList l) = .ok t) ∧
    (∀ text, Checked.read text = .ok (Selector.read text)) ∧
    (∀ selector d id, Checked.matchesNode selector d id = .ok (selector.matchesNode d id)) ∧
    (∀ d text, Checked.select d text = .ok (d.select text) ∧
      ∀ scope, Checked.find d scope text = .ok (d.find scope text)) ∧
    ∀ d, Reachable d →
      (∀ p c, Checked.appendChild d p c = .ok (d.appendChild p c)) ∧
      (∀ p s, Checked.appendText d p s = .ok (d.appendText p s)) ∧
      (∀ p trees, d.contains p = true →
        Checked.graftAll d p trees = .ok (d.graftAll p trees)) ∧
      (∀ p text, Checked.appendMarkup d p text = .ok (d.appendMarkup p text)) ∧
      ∀ (τ : Type) (e : Engine τ) (s : Dispatcher τ) (c : Call),
        Checked.answer e s d c = .ok (c.answer e s d) := by
  refine ⟨fun text selector hread row hrow => ⟨Nat.zero_lt_succ _, fun part hpart => ?_⟩,
    fun t l => Checked.tokenOf_eq, Checked.read_eq, Checked.matchesNode_eq,
    fun d text => ⟨Checked.find_eq d root text, fun scope => Checked.find_eq d scope text⟩,
    fun d hd => ?_⟩
  · exact Checked.isEmpty_of_read hread hrow hpart
  · have hf := hd.forest
    exact ⟨Checked.appendChild_eq d, Checked.appendText_eq hf,
      fun p trees hp => Checked.graftAll_eq trees hf hp, Checked.appendMarkup_eq hf,
      fun τ e s c => Checked.answer_eq hf c⟩

/-- A page that ends in a text. -/
def wordPage : Document := (new.createText "a").1.appendChild root ⟨1⟩

/-- An add of `é` and a bold letter to the page. -/
def addAccent : Call := .addFrom (fun _ => some "") (.ofNode root) "t" (.bool true) {}

/-- A quoted `é` takes two bytes between its quotes; and a text and a container behind a text. -/
theorem accents_added :
    let e : Engine Unit := ⟨fun _ => some (), fun _ _ => some "é<b>x</b>"⟩
    (∃ selector, Selector.read "p>[title='é']" = .ok selector ∧ ∀ row ∈ selector.groups,
      0 < row.parts.length ∧ ∀ part ∈ row.parts, part.2.isEmpty = false) ∧
    Lexeme (.quoted "é") ['\'', 'é', '\''] ∧ Checked.tokenOf (.quoted "é") "'é'" = .ok (.quoted "é") ∧
    Reachable wordPage ∧ wordPage.contains root = true ∧
    (∃ d, Checked.graftAll wordPage root [.text "b"] = .ok d ∧ d.textContent root = "ab") ∧
    ∃ a, Checked.answer e {} wordPage addAccent = .ok a ∧ a.document.textContent root = "aéx" := by
  intro e
  obtain ⟨hrows, htokens, -, -, -, hreachable⟩ := direct_accesses_succeed
  have hpage : Reachable wordPage := .appendChild _ _ (.createText _ .new)
  obtain ⟨-, -, hgraft, -, hcalls⟩ := hreachable wordPage hpage
  have hread : Selector.read "p>[title='é']" =
      .ok ⟨[⟨⟨some "p", none, [], []⟩, [(.child, ⟨none, none, [], [.equals "title" "é"]⟩)]⟩]⟩ := by
    decide +kernel
  have hquoted : Lexeme (.quoted "é") ['\'', 'é', '\''] :=
    .quoted (v := ['é']) (.inr rfl) (by decide)
  refine ⟨⟨_, hread, hrows _ _ hread⟩, hquoted, htokens _ _ hquoted, hpage, rfl,
    ⟨_, hgraft root [.text "b"] rfl, by decide +kernel⟩, ⟨_, hcalls Unit e {} addAccent, ?_⟩⟩
  decide +kernel

end Inlay
