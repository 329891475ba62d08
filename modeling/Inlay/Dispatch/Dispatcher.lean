/-
# `Inlay.Dispatch.Dispatcher` — compile, render, remove

A dispatcher has a cache of compiled templates and the options that every call
starts from.  What compiling and rendering mean is left to an `Engine`, and
where markup comes from outside the document to a loader.

    get      the rendered nodes below the target
    remove   takes rendered nodes below the target away
    add      renders a template into the target
    addFrom  the same with markup from a loader, under its location as key

No call fails.  Where something is missing or does not work out, a call does no
more and answers its target.  An `add` does in this order:

    1. nothing for empty data, under `validate`
    2. compile the markup of the template, unless the cache holds its key
    3. take rendered nodes away, as `removal` says
    4. nothing more if the target holds the template already, unless `refill`
    5. render; forget the compiled template, unless `storeCompiled`
    6. add the fragment to the target, or answer it

The target of a call is the first node of a selection.  Every load, every
compilation and every rendering is noted in the answer, in order.
-/
import Inlay.Document.Graft
import Inlay.Document.Writer
import Inlay.Dispatch.Action
import Inlay.Dispatch.Options
import Inlay.Dispatch.Rendered
import Inlay.Dispatch.Reference

namespace Inlay

/-- What compiling markup and rendering data mean; both may fail. -/
structure Engine (τ : Type) where
  compile : String → Option τ
  render : τ → Data.Value → Option String

/-- Markup by location; nothing where it cannot be had. -/
abbrev Loader := String → Option String

structure Dispatcher (τ : Type) where
  cache : Cache τ := Cache.empty
  defaults : Options := {}

/-- What a call answers. -/
inductive Outcome (τ : Type)
  | target (s : Selection)
  | nodes (s : Selection)
  | compiled (c : Cache τ)
  | raw (s : String)
  | html (d : Document)

/-- What a call asked of the loader or the engine. -/
inductive Request (τ : Type)
  | load (location : String)
  | compile (key markup : String)
  | render (key : String) (template : τ)
  deriving Repr, DecidableEq

/-- The state behind a call, its answer and its requests. -/
structure Answer (τ : Type) where
  dispatcher : Dispatcher τ
  document : Document
  outcome : Outcome τ
  requests : List (Request τ) := []

namespace Dispatcher

variable {τ : Type}

/-- The rendered nodes below the target, of one template only if its key is given as such. -/
def get (d : Document) (target : Selection) (t : TemplateRef) : Selection :=
  match target.first? with
  | some c => d.rendered c t.concreteKey?
  | none => Selection.empty

/-- The key that a removal is restricted to; nothing where all rendered nodes go. -/
def removalKey (o : Options) (key : Option String) : Option String :=
  if o.removal = .all then none else key

/-- Take the given nodes away, and with `forget` the templates of their markers. -/
def removeNodes (s : Dispatcher τ) (d : Document) (nodes : List NodeId) (forget : Bool) :
    Dispatcher τ × Document :=
  let markers := if forget then nodes.filterMap d.marker? else []
  ({ s with cache := markers.foldl Cache.evictMarker s.cache }, nodes.foldl Document.remove d)

/-- Take rendered nodes below the target away. -/
def remove (s : Dispatcher τ) (d : Document) (target : Selection) (t : TemplateRef)
    (p : Overrides) : Dispatcher τ × Document :=
  let o := s.defaults.merge p
  match target.first? with
  | none => (s, d)
  | some c => s.removeNodes d (d.renderedNodes c (removalKey o t.concreteKey?)) o.deleteCompiled

/-- The nodes that are taken away before a template is rendered. -/
def replaced (d : Document) (container : NodeId) (key : String) : Removal → List NodeId
  | .none => []
  | .same => d.renderedNodes container (some key)
  | .all => d.renderedNodes container none

/-- The document before a template is rendered into the target. -/
def prepare (d : Document) (target : Selection) (key : String) (o : Options) : Document :=
  match target.first? with
  | none => d
  | some c => (replaced d c key o.removal).foldl Document.remove d

/-- Whether the target holds a template already and may not hold it twice. -/
def isFilled (d : Document) (target : Selection) (key : String) (o : Options) : Bool :=
  match target.first? with
  | none => false
  | some c => !o.refill && !(d.renderedNodes c (some key)).isEmpty

/-- Add a fragment to a node, in a container with the marker of its key. -/
def appendFragment (d : Document) (container : NodeId) (key fragment : String) : Document :=
  let (d, wrapper) := d.createElement "div"
  let d := d.setAttribute wrapper markerAttribute (markerOf key)
  (d.appendMarkup wrapper fragment).appendChild container wrapper

/-- Add a fragment to the target, or answer it. -/
def deliver (d : Document) (target : Selection) (key fragment : String) (o : Options) :
    Document × Outcome τ :=
  match o.output with
  | .raw | .compiled => (d, .raw fragment)
  | .html => (d, .html (Document.parse fragment))
  | .append =>
    match target.first? with
    | none => (d, .target target)
    | some c => (appendFragment d c key fragment, .target target)

/-- Render the compiled template of a key into the target. -/
def renderInto (e : Engine τ) (s : Dispatcher τ) (d : Document) (target : Selection)
    (key : String) (data : Data.Value) (o : Options) : Answer τ :=
  let d := prepare d target key o
  if isFilled d target key o then ⟨s, d, .target target, []⟩
  else
    match s.cache.get? key with
    | none => ⟨s, d, .target target, []⟩
    | some t =>
      let s := if o.storeCompiled then s else { s with cache := s.cache.evict key }
      match e.render t data with
      | none => ⟨s, d, .target target, [.render key t]⟩
      | some fragment =>
        let (d, outcome) := deliver d target key fragment o
        ⟨s, d, outcome, [.render key t]⟩

/-- Store the template of a key that the cache does not hold; nothing if it does not compile. -/
def compileInto (e : Engine τ) (s : Dispatcher τ) (key markup : String) : Option (Dispatcher τ) :=
  (e.compile markup).map fun t => { s with cache := s.cache.insert key t }

/-- Render a template into the target. -/
def add (e : Engine τ) (s : Dispatcher τ) (d : Document) (target : Selection) (t : TemplateRef)
    (data : Data.Value) (p : Overrides) : Answer τ :=
  let o := s.defaults.merge p
  if o.validate && data.isEmpty then ⟨s, d, .target target, []⟩
  else
    match t.key? with
    | none => ⟨s, d, .target target, []⟩
    | some key =>
      if s.cache.contains key then renderInto e s d target key data o
      else
        match t.source? d with
        | none => ⟨s, d, .target target, []⟩
        | some source =>
          let markup := d.inner source
          match compileInto e s key markup with
          | none => ⟨s, d, .target target, [.compile key markup]⟩
          | some s =>
            let a := renderInto e s d target key data o
            { a with requests := .compile key markup :: a.requests }

/-- Render a template from outside the document into the target. -/
def addFrom (e : Engine τ) (loader : Loader) (s : Dispatcher τ) (d : Document) (target : Selection)
    (location : String) (data : Data.Value) (p : Overrides) : Answer τ :=
  if Text.isAllBlank location then ⟨s, d, .target target, []⟩
  else if s.cache.contains location then add e s d target (.key location) data p
  else
    match loader location with
    | none => ⟨s, d, .target target, [.load location]⟩
    | some markup =>
      match compileInto e s location markup with
      | none => ⟨s, d, .target target, [.load location, .compile location markup]⟩
      | some s =>
        let a := add e s d target (.key location) data p
        { a with requests := .load location :: .compile location markup :: a.requests }

/-- Run the action that a word names.  For a removal the data say further options. -/
def dispatch (e : Engine τ) (s : Dispatcher τ) (d : Document) (target : Selection) (word : String)
    (t : TemplateRef) (data : Data.Value) (p : Overrides) : Answer τ :=
  match Action.named? word with
  | none => ⟨s, d, .target target, []⟩
  | some .get => ⟨s, d, .nodes (get d target t), []⟩
  | some .compiled => ⟨s, d, .compiled s.cache, []⟩
  | some .remove =>
    let (s, d) := s.remove d target t (p.followedBy (.ofValue data))
    ⟨s, d, .target target, []⟩
  | some .add => add e s d target t data p

end Dispatcher

end Inlay
