/-
# `Inlay.Proofs.Dispatch.Replacing` — replacing twice is replacing once

An adding call that takes away what its template rendered before, or all that was
rendered, adds its container and keeps its template may be made twice: the second
time leaves the dispatcher as it is, and the document but for the numbers of the
nodes that are made anew.

    stops       again, at the same place (`answer_of_stopped`): what it stored, if
                anything, it finds now, and the document is the one it saw before
    renders     the template of the first time, from the cache, into a document
                that is then prepared again

Let `d` be the document that the first call prepared, and `n` the first node of
its target.  Where nothing is added to `d`, there is nothing more to take away.
Else the second call takes away the new container, and in it the containers of
its key or all of them, but nothing that `d` has: so every node of `d` is again
as it was in `d`, and `n` gets the same container a second time.  Neither that
the fragment holds containers nor that containers hang in each other matters.

A selection of another document may have a first node that `d` has not.  Then the
first call hangs its container nowhere, and no node of `d` changes.  But the
container, or a node in it, may get the number that the selection begins with.
The second call takes it for its target: it hangs its container there, over all
that the first one was over (`shape_ne_of_added_again`).  Here alone twice is not
once (`Repeats.shape_eq_iff`).
-/
import Inlay.Proofs.Dispatch.Commuting
import Inlay.Proofs.Dispatch.Effect

namespace Inlay

open Document Dispatcher

variable {τ : Type} {e : Engine τ} {s s' : Dispatcher τ} {d d' : Document} {c c' : Call}
  {r : Adding} {n x : NodeId} {target : Selection} {key fragment k : String} {t t' : τ}
  {data : Data.Value} {o : Options} {removal : Removal} {asked : List (Request τ)}

/-! ## The same call again -/

namespace Fetches

theorem defaults (h : Fetches e s r asked s') : s'.defaults = s.defaults := by
  cases h <;> rfl

/-- A key that has a template needs no fetching. -/
theorem eq_of_held (h : Fetches e s r asked s') (hk : r.key? = some key)
    (hc : s.cache.get? key = some t) : s' = s := by
  cases h with
  | nothing | failed => rfl
  | stored hk' hnone =>
      cases hk.symm.trans hk'
      cases hc.symm.trans hnone

end Fetches

/-- In another document only the markup of an adding call may be another. -/
theorem adding?_again (hr : c.adding? d = some r) (d' : Document) :
    ∃ markup, c.adding? d' = some { r with markup := markup } := by
  cases c with
  | add | addFrom => cases hr; exact ⟨_, rfl⟩
  | _ => cases hr

theorem Adding.options_again (hs : s'.defaults = s.defaults) (markup : Option String) :
    ({ r with markup := markup } : Adding).options s' = r.options s := by
  unfold Adding.options
  rw [hs]

theorem Adding.isIdle_again (hs : s'.defaults = s.defaults) (markup : Option String) :
    ({ r with markup := markup } : Adding).isIdle s' = r.isIdle s := by
  unfold Adding.isIdle
  rw [Adding.options_again hs]

/-- A call that stops leaves the document, and stops again at the same dispatcher. -/
theorem answer_of_stopped (hr : c.adding? d = some r) (hready : r.ready? e s = none) :
    let first := c.answer e s d
    let second := c.answer e first.dispatcher first.document
    second.dispatcher = first.dispatcher ∧ first.document = d ∧ second.document = d := by
  intro first second
  obtain ⟨asked, s', hf, hends⟩ := adding_ends (e := e) (s := s) hr
  have hfirst : first = ⟨s', d, .target r.target, asked⟩ := hends.stops hready
  have hsecond : second = c.answer e s' d := by
    show c.answer e first.dispatcher first.document = _
    rw [hfirst]
  rw [hsecond, hfirst]
  cases hf with
  | nothing | failed =>
      rw [show c.answer e s d = _ from hfirst]
      exact ⟨rfl, rfl, rfl⟩
  | @stored key markup t _ hk hnone hm hcompile =>
      -- With a template to render the call stops for its data only, and that it does again.
      have hidle : r.isIdle s = true := by
        by_contra hbusy
        have ht : template? e s key r.markup = some t := by
          rw [template?_of_none hnone, hm, Option.bind_some, hcompile]
        rw [Adding.ready?_eq_some_iff.mpr ⟨by simpa using hbusy, hk, ht⟩] at hready
        cases hready
      obtain ⟨asked', s'', hf', hends'⟩ := adding_ends (e := e) (s := s.store key t) hr
      rw [hends'.stops (Adding.ready?_of_isIdle hidle), hf'.eq_of_held hk (get?_store hnone)]
      exact ⟨rfl, rfl, rfl⟩

/-- A call that renders, where it keeps its template and takes away what its target may hold. -/
theorem answer_of_replacing (hd : Forest d) (hr : c.adding? d = some r)
    (hready : r.ready? e s = some (key, t)) (hreplaces : (r.options s).removal ≠ .none)
    (hstores : (r.options s).storeCompiled = true) :
    ∃ s', s'.defaults = s.defaults ∧ s'.cache.get? key = some t ∧
      (s.cache.get? key = some t → s' = s) ∧ (c.answer e s d).dispatcher = s' ∧
      (c.answer e s d).document =
        (place e (prepare d r.target key (r.options s)) r.target key t r.data (r.options s)).1 := by
  obtain ⟨asked, s', hf, hends⟩ := adding_ends (e := e) (s := s) hr
  obtain ⟨-, hk, -⟩ := Adding.ready?_eq_some_iff.mp hready
  have hopen : isFilled (prepare d r.target key (r.options s)) r.target key (r.options s) =
      false := by
    by_contra h
    obtain ⟨-, hnone, -⟩ := (isFilled_prepare_iff hd).mp (by simpa using h)
    exact hreplaces hnone
  have ha := hends.eq_of_ready hready
  simp only [hopen, Bool.false_eq_true, if_false, keep, hstores, if_true] at ha
  rw [ha]
  exact ⟨s', hf.defaults, (hends.renders key t hready).1, hf.eq_of_held hk, rfl, rfl⟩

/-! ## What is taken away again -/

theorem Log.nodes_append (L M : Log) (key : Option String) :
    (L ++ M).nodes key = L.nodes key ++ M.nodes key := by
  cases key with
  | none => exact List.map_append
  | some key => rw [nodes, List.filter_append, List.map_append, ← nodes, ← nodes]

theorem Log.replaced_append (L M : Log) (key : String) (removal : Removal) :
    (L ++ M).replaced key removal = L.replaced key removal ++ M.replaced key removal := by
  cases removal with
  | none => rfl
  | same => exact L.nodes_append M (some key)
  | all => exact L.nodes_append M none

theorem Log.replaced_subset (L : Log) (key : String) (removal : Removal) :
    L.replaced key removal ⊆ L.map (·.2) := by
  cases removal with
  | none => exact List.nil_subset _
  | same => exact (List.filter_sublist.map _).subset
  | all => exact List.Subset.refl _

theorem Log.mem_replaced_self (L : Log) (x : NodeId) (hreplaces : removal ≠ .none) :
    x ∈ Log.replaced ((markerOf key, x) :: L) key removal := by
  cases removal with
  | none => exact absurd rfl hreplaces
  | same => simp [Log.replaced, Log.nodes]
  | all => simp [Log.replaced, Log.nodes]

/-- After a preparation there is nothing left to take away. -/
theorem replaced_removeAll (hd : Forest d) (n : NodeId) (key : String) (removal : Removal) :
    replaced ((replaced d n key removal).foldl remove d) n key removal = [] := by
  have hsub := replaced_subset (d := d) n key removal
  cases removal with
  | none => rfl
  | same => exact renderedNodes_removeAll_eq_nil hd hsub (List.Subset.refl _)
  | all => exact renderedNodes_removeAll_eq_nil hd hsub (List.Subset.refl _)

theorem prepare_prepare (hd : Forest d) (target : Selection) (key : String) (o : Options) :
    prepare (prepare d target key o) target key o = prepare d target key o := by
  rw [prepare_eq, prepare_eq]
  cases hn : target.first? with
  | none => simp only [preRemoved, hn]; rfl
  | some n =>
      rw [preRemoved_of_first? hn, preRemoved_of_first? hn, replaced_removeAll hd]
      rfl

/-- What is taken away from a prepared document with one more container: the container, and nodes
that are new like it. -/
theorem replaced_appendFragment (hd : Forest d) (hn : d.contains n = true)
    (hnone : replaced d n key removal = []) (hreplaces : removal ≠ .none) (fragment : String) :
    let added := Dispatcher.appendFragment d n key fragment
    ⟨d.size⟩ ∈ replaced added n key removal ∧
      ∀ x ∈ replaced added n key removal, d.contains x = false := by
  intro added
  have hlist : replaced added n key removal =
      Log.replaced ((markerOf key, ⟨d.size⟩) :: added.containers ⟨d.size⟩) key removal := by
    rw [replaced_eq, containers_appendFragment hd hn, Log.replaced_append, ← replaced_eq, hnone,
      List.nil_append]
  rw [hlist]
  refine ⟨Log.mem_replaced_self _ _ hreplaces, fun x hx => ?_⟩
  have hnew : x = ⟨d.size⟩ ∨ added.Ancestor ⟨d.size⟩ x := by
    rcases List.mem_cons.mp (Log.replaced_subset _ key removal hx) with h | h
    · exact .inl h
    · obtain ⟨⟨m, y⟩, hy, rfl⟩ := List.mem_map.mp h
      have hf : Forest added := hd.appendContainer n key fragment
      exact .inr (hf.mem_descendants.mp (mem_containers.mp hy).1)
  exact new_of_below_container hd hn hnew

/-! ## The document a second time -/

/-- A document in which every node of `d` is as it was amends `d` by nothing. -/
theorem Amended.of_node? (hd' : Forest d') (h : ∀ x, d.contains x = true → d'.node? x = d.node? x) :
    Amended d [] (fun _ => []) d' fun _ => [] where
  forest := hd'
  contains x hx := contains_of_kind?_eq (by rw [kind?, h x hx, kind?]) hx
  kind x hx := by rw [kind?, h x hx, kind?]
  parent x hx := by rw [if_neg List.not_mem_nil, parent?, h x hx, parent?]
  children x hx := by
    rw [children_eq, h x hx, ← children_eq]
    simp
  shapes _ := rfl
  fresh _ _ hw := absurd hw List.not_mem_nil

/-- The container that was added is taken away, and all is as it was. -/
theorem node?_of_replaced_again (hd : Forest d) (hn : d.contains n = true)
    (hnone : replaced d n key removal = []) (hreplaces : removal ≠ .none) (fragment : String)
    (hx : d.contains x = true) :
    let added := Dispatcher.appendFragment d n key fragment
    ((replaced added n key removal).foldl remove added).node? x = d.node? x := by
  intro added
  obtain ⟨hself, hnew⟩ := replaced_appendFragment hd hn hnone hreplaces fragment
  have hf : Forest added := hd.appendContainer n key fragment
  have hold : ∀ y, d.contains y = true → y ∉ replaced added n key removal := by
    intro y hy hmem
    rw [hnew y hmem] at hy
    cases hy
  have hchildren : ∀ y, (d.children y).filter (· ∉ replaced added n key removal) = d.children y :=
    fun y => List.filter_eq_self.mpr fun z hz => by simpa using hold z (hd.contains_child hz)
  refine node?_congr ?_ ?_ ?_
  · rw [kind?_removeAll, kind?_appendFragment hd hx]
  · rw [parent?_removeAll, if_neg (hold x hx), parent?_appendFragment hd hn hx]
  · rw [Forest.children_removeAll _ hf, children_appendFragment hd hn hx]
    split
    · next hxn =>
        rw [List.filter_append, hchildren, hxn]
        simpa using hself
    · exact hchildren x

/-- A container that is added twice, what was added first being taken away in between. -/
theorem alike_of_replaced_again (hd : Forest d) (hnone : replaced d n key removal = [])
    (hreplaces : removal ≠ .none) (fragment : String) :
    let added := Dispatcher.appendFragment d n key fragment
    let again := Dispatcher.appendFragment ((replaced added n key removal).foldl remove added) n key
      fragment
    ∃ R, Alike R added again ∧ ∀ x, d.contains x = true → R x x := by
  intro added again
  have hf : Forest added := hd.appendContainer n key fragment
  cases hn : d.contains n with
  | true =>
      have hsame : Amended d [] (fun _ => []) ((replaced added n key removal).foldl remove added)
          fun _ => [] :=
        .of_node? (hf.removeAll _) fun _ hx =>
          node?_of_replaced_again hd hn hnone hreplaces fragment hx
      exact ((Amended.refl hd).appendFragment hd hn key fragment).alike
        (hsame.appendFragment hd hn key fragment) hd fun _ => Iff.rfl
  | false =>
      -- The first node of the target is another document's, and no node of `d` is below it.
      have hfirst : ∀ x, d.contains x = true → added.node? x = d.node? x := fun x hx =>
        (keepsAround_appendFragment hd n key fragment).node?_of_not_contains hd hn hx
      have hadded : Amended d [] (fun _ => []) added fun _ => [] := .of_node? hf hfirst
      have hchange : Rearranged added n again :=
        ⟨_, replaced_subset n key removal, .inr ⟨key, fragment, rfl⟩⟩
      have hagain : Amended d [] (fun _ => []) again fun _ => [] := by
        refine .of_node? (hchange.forest hf) fun x hx => ?_
        rw [← hfirst x hx]
        have hnot : ¬ (x = n ∨ added.Ancestor n x) := fun h => by
          rw [hadded.fresh_below hd hn h] at hx
          cases hx
        exact (hchange.keepsAround hf).outside x (hadded.contains x hx)
          (fun h => hnot (.inl h)) fun h => hnot (.inr h)
      exact hadded.alike hagain hd fun _ => Iff.rfl

/-- What is placed is added, where there is something to add and somewhere to add it. -/
theorem place_eq (ho : o.output = .append) : (place e d target key t data o).1 =
    match e.render t data, target.first? with
    | some fragment, some n => Dispatcher.appendFragment d n key fragment
    | _, _ => d := by
  unfold place
  cases e.render t data with
  | none => rfl
  | some fragment =>
      simp only [deliver, ho]
      cases target.first? <;> rfl

/-- What a replacing call leaves of a document, made once and made twice: the nodes that were there,
without those that it took away, and either nothing more or a container that is the same both
times. -/
inductive Repeats (d : Document) (target : Selection) (removal : Removal) :
    Document → Document → Prop
  | idle {d' : Document} : Forest d' → (∀ x, d'.contains x = d.contains x) →
      Repeats d target removal d' d'
  | adds {d' : Document} {n : NodeId} {key fragment : String} : Forest d' →
      (∀ x, d'.contains x = d.contains x) → target.first? = some n →
      replaced d' n key removal = [] →
      Repeats d target removal (Dispatcher.appendFragment d' n key fragment)
        (Dispatcher.appendFragment
          ((replaced (Dispatcher.appendFragment d' n key fragment) n key removal).foldl remove
            (Dispatcher.appendFragment d' n key fragment)) n key fragment)

/-- Preparing and placing twice. -/
theorem repeats_of_placed_again (hd : Forest d) (ho : o.output = .append) :
    let once := (place e (prepare d target key o) target key t data o).1
    let twice := (place e (prepare once target key o) target key t data o).1
    Repeats d target o.removal once twice := by
  intro once twice
  have hp : Forest (prepare d target key o) := hd.prepare target key o
  have hin : ∀ x, (prepare d target key o).contains x = d.contains x := fun x => by
    rw [prepare_eq, contains_removeAll]
  have hidle : (∀ d, (place e d target key t data o).1 = d) →
      Repeats d target o.removal once twice := by
    intro hnothing
    have honce : once = prepare d target key o := hnothing _
    have htwice : twice = prepare once target key o := hnothing _
    rw [htwice, honce, prepare_prepare hd]
    exact .idle hp hin
  cases hrender : e.render t data with
  | none => exact hidle fun d => by rw [place_eq ho, hrender]
  | some fragment =>
      cases hn : target.first? with
      | none => exact hidle fun d => by rw [place_eq ho, hrender, hn]
      | some n =>
          have hplace : ∀ d, (place e d target key t data o).1 =
              Dispatcher.appendFragment d n key fragment := fun d => by
            rw [place_eq ho, hrender, hn]
          have hprepare : ∀ d, prepare d target key o =
              (replaced d n key o.removal).foldl remove d := fun d => by
            rw [prepare_eq, preRemoved_of_first? hn]
          have hnone : replaced (prepare d target key o) n key o.removal = [] := by
            rw [hprepare, replaced_removeAll hd]
          show Repeats d target o.removal (place e _ target key t data o).1
            (place e (prepare (place e _ target key t data o).1 target key o) target key t data o).1
          rw [hplace, hprepare (Dispatcher.appendFragment _ n key fragment), hplace]
          exact .adds hp hin hn hnone

/-- A call that replaces, adds what it renders and keeps its template, once and then again. -/
theorem repeats_of_answered_again (hd : Forest d) (hr : c.adding? d = some r)
    (hreplaces : (r.options s).removal ≠ .none) (hadds : (r.options s).output = .append)
    (hstores : (r.options s).storeCompiled = true) :
    let once := c.answer e s d
    let twice := c.answer e once.dispatcher once.document
    twice.dispatcher = once.dispatcher ∧
      Repeats d r.target (r.options s).removal once.document twice.document := by
  intro once twice
  cases hready : r.ready? e s with
  | none =>
      obtain ⟨hsame, honce, htwice⟩ := answer_of_stopped (e := e) (s := s) hr hready
      refine ⟨hsame, ?_⟩
      change once.document = d at honce
      change twice.document = d at htwice
      rw [honce, htwice]
      exact .idle hd fun _ => rfl
  | some kt =>
      obtain ⟨key, t⟩ := kt
      obtain ⟨s', hdefaults, hheld, -, hs, honce⟩ :=
        answer_of_replacing hd hr hready hreplaces hstores
      -- The second call has the template of the first, from the cache, and the same options.
      obtain rfl : once.dispatcher = s' := hs
      obtain ⟨markup, hr'⟩ := adding?_again hr once.document
      obtain ⟨hbusy, hk, -⟩ := Adding.ready?_eq_some_iff.mp hready
      have hoptions := Adding.options_again (r := r) hdefaults markup
      have hready' : ({ r with markup := markup } : Adding).ready? e once.dispatcher =
          some (key, t) :=
        Adding.ready?_eq_some_iff.mpr
          ⟨(Adding.isIdle_again hdefaults markup).trans hbusy, hk, template?_of_get? hheld⟩
      obtain ⟨s', -, -, hkept, hs, htwice⟩ := answer_of_replacing (Call.forest hd) hr' hready'
        (by rwa [hoptions]) (by rwa [hoptions])
      refine ⟨hs.trans (hkept hheld), ?_⟩
      change once.document = _ at honce
      change twice.document = _ at htwice
      rw [hoptions, honce] at htwice
      rw [honce, htwice]
      exact repeats_of_placed_again hd hadds

/-! ## What is the same, and what is not -/

/-- A number that is no node may become one by the container, or by a node in it.  When the
container is added again, it hangs below that node, over all that it was over at first: so that node
is not what it was. -/
theorem shape_ne_of_added_again (hd : Forest d) (hn : d.contains n = false) (key fragment : String)
    (ns : List NodeId) :
    let added := Dispatcher.appendFragment d n key fragment
    let again := Dispatcher.appendFragment (ns.foldl remove added) n key fragment
    again.contains n = true → added.shape n ≠ again.shape n := by
  intro added again hagain hsame
  have hf : Forest added := hd.appendContainer n key fragment
  have hf' : Forest again := (hf.removeAll ns).appendContainer n key fragment
  have hkind : added.kind? n = again.kind? n := by
    rw [hf.shape_eq, hf'.shape_eq] at hsame
    exact (Shape.node.inj hsame).1
  have hadded : added.contains n = true := contains_of_kind?_eq hkind hagain
  -- At first the node is in the container, or is the container; then a container is below it.
  have hcontainer : added.shape ⟨d.size⟩ = containerShape key fragment := shape_container hd
  have hfirst : sizeOf (added.shape n) ≤ sizeOf (containerShape key fragment) := by
    rw [← hcontainer]
    rcases below_container_of_new hd hn hadded with rfl | h
    · exact Nat.le_refl _
    · exact Nat.le_of_lt (hf.sizeOf_shape_below h)
  have hsecond : sizeOf (containerShape key fragment) < sizeOf (again.shape n) := by
    have hin : (ns.foldl remove added).contains n = true := (contains_removeAll ns added).trans hadded
    have hbelow := hf'.sizeOf_shape_child (parent?_container (hf.removeAll ns) hin)
    rwa [shape_container (hf.removeAll ns)] at hbelow
  rw [hsame] at hfirst
  exact Nat.not_lt_of_le hfirst hsecond

/-- Below a number that is no node of the document there is nothing to see. -/
theorem shape_of_not_contains (hd : Forest d) (hx : d.contains x = false) :
    d.shape x = .node none [] := by
  rw [hd.shape_eq, kind?_eq_none hx, children_eq_nil hx]
  rfl

namespace Repeats

variable {once twice : Document}

theorem contains (h : Repeats d target removal once twice) (hx : once.contains x = true) :
    twice.contains x = true := by
  cases h with
  | idle => exact hx
  | @adds d' n key fragment hd =>
      have hf := hd.appendContainer n key fragment
      exact contains_appendFragment (hf.removeAll _) ((contains_removeAll _ _).trans hx)

theorem alike (h : Repeats d target removal once twice) (hreplaces : removal ≠ .none) :
    ∃ R, Alike R once twice ∧ ∀ x, d.contains x = true → R x x := by
  cases h with
  | idle hd hin =>
      simpa only [hin] using (Amended.refl hd).alike (Amended.refl hd) hd fun _ => Iff.rfl
  | adds hd hin _ hnone => simpa only [hin] using alike_of_replaced_again hd hnone hreplaces _

/-- The first node of the target is the same but where it was no node, and is one now. -/
theorem shape_eq_iff (h : Repeats d target removal once twice) (hreplaces : removal ≠ .none)
    (hn : target.first? = some n) :
    once.shape n = twice.shape n ↔ d.contains n = true ∨ twice.contains n = false := by
  obtain ⟨R, halike, hself⟩ := h.alike hreplaces
  constructor
  · intro hsame
    by_contra hnew
    rw [not_or, Bool.not_eq_true, Bool.not_eq_false] at hnew
    obtain ⟨hold, hnew⟩ := hnew
    cases h with
    | idle _ hin =>
        rw [hin, hold] at hnew
        cases hnew
    | adds hd hin hn' _ =>
        obtain rfl := Option.some.inj (hn.symm.trans hn')
        exact shape_ne_of_added_again hd ((hin _).trans hold) _ _ _ hnew hsame
  · rintro (hold | hnew)
    · exact halike.shape_eq (hself n hold)
    · have hnone : once.contains n = false := by
        by_contra hold
        rw [h.contains (by simpa using hold)] at hnew
        cases hnew
      rw [shape_of_not_contains halike.forest₁ hnone, shape_of_not_contains halike.forest₂ hnew]

end Repeats

/-- An adding call that replaces what was rendered before, of its key or of any, that adds what it
renders and keeps its template, may as well be made once.  Made twice in a row it leaves the same
dispatcher with the same cache, and a document that differs in the numbers of new nodes only: there
is a pairing of nodes under which the two are alike, and every node that was there at first is
paired with itself.  So the trees below the root are the same.  Those below the first node of the
target are the same as well, unless that is a number of another document, which was no node of this
one before the calls and has become one by them. -/
theorem replacing_add_idempotent_iff (hd : Reachable d) (hc : c.plain = some c')
    (hr : c'.adding? d = some r) (hreplaces : (r.options s).removal ≠ .none)
    (hadds : (r.options s).output = .append) (hstores : (r.options s).storeCompiled = true)
    (e : Engine τ) :
    let once := c.answer e s d
    let twice := c.answer e once.dispatcher once.document
    twice.dispatcher = once.dispatcher ∧
    (∃ R, Alike R once.document twice.document ∧ ∀ x, d.contains x = true → R x x) ∧
    once.document.shape root = twice.document.shape root ∧
    ∀ n, r.target.first? = some n → (once.document.shape n = twice.document.shape n ↔
      d.contains n = true ∨ twice.document.contains n = false) := by
  intro once twice
  obtain ⟨hsame, hrepeats⟩ :=
    repeats_of_answered_again (e := e) hd.forest hr hreplaces hadds hstores
  simp only [← Call.answer_of_plain hc] at hsame hrepeats
  obtain ⟨R, halike, hself⟩ := hrepeats.alike hreplaces
  exact ⟨hsame, ⟨R, halike, hself⟩, halike.shape_eq (hself _ hd.contains_root),
    fun n hn => hrepeats.shape_eq_iff hreplaces hn⟩

/-- A template whose fragment holds a container of its own key, and one of another in it. -/
def nestingTemplate : Dispatcher String :=
  { cache := ⟨[("t", "<div data-template-id=t><div data-template-id=u>x</div></div>")]⟩ }

/-- Where containers hang in containers, before and after. -/
theorem nested_containers_replaced_again :
    let once := (addT .same).answer plainEngine nestingTemplate nestedPage
    let twice := (addT .same).answer plainEngine once.dispatcher once.document
    Reachable nestedPage ∧ (once.document.containers root).map (·.1) = ["t", "t", "u"] ∧
    once.document.size < twice.document.size ∧
    once.document.shape root = twice.document.shape root := by
  intro once twice
  have hpage : Reachable nestedPage :=
    .appendChild _ _ (.setAttribute _ _ _ (.createElement _ renderedPage_reachable))
  obtain ⟨-, -, -, hfirst⟩ := replacing_add_idempotent_iff (s := nestingTemplate) (c := addT .same)
    hpage rfl rfl nofun rfl rfl plainEngine
  exact ⟨hpage, by decide +kernel, by decide +kernel, (hfirst root rfl).mpr (.inl rfl)⟩

/-- A bold letter. -/
def boldTemplate : Dispatcher String := { cache := ⟨[("t", "<b>x</b>")]⟩ }

/-- An add for the node behind the last one of an empty document. -/
def strayAdd : Call := .add (.ofNode ⟨1⟩) (.key "t") (.bool true) { removal := some .same }

/-- The container of the first call gets the number that the target names, and so the second call
adds its container below the first one. -/
theorem stray_target_filled_twice :
    let o := boldTemplate.defaults.merge { removal := some .same }
    let once := strayAdd.answer plainEngine boldTemplate new
    let twice := strayAdd.answer plainEngine once.dispatcher once.document
    Reachable new ∧ new.contains ⟨1⟩ = false ∧
    (o.removal = .same ∧ o.output = .append ∧ o.storeCompiled = true) ∧
    once.document.outer ⟨1⟩ = "<div data-template-id=\"t\"><b>x</b></div>" ∧
    twice.document.outer ⟨1⟩ = "<div data-template-id=\"t\"><b>x</b>" ++
      "<div data-template-id=\"t\"><b>x</b></div></div>" ∧
    once.document.shape ⟨1⟩ ≠ twice.document.shape ⟨1⟩ := by
  intro o once twice
  have honce : once.document.outer ⟨1⟩ = "<div data-template-id=\"t\"><b>x</b></div>" := by
    decide +kernel
  have htwice : twice.document.outer ⟨1⟩ = "<div data-template-id=\"t\"><b>x</b>" ++
      "<div data-template-id=\"t\"><b>x</b></div></div>" := by
    decide +kernel
  refine ⟨.new, rfl, ⟨rfl, rfl, rfl⟩, honce, htwice, fun hsame => ?_⟩
  rw [outer_eq, hsame, ← outer_eq, htwice] at honce
  exact absurd honce (by decide +kernel)

end Inlay
