/-
# `Inlay.Proofs.Dispatch.MissingSource` — templates whose markup is nowhere in the document

An `add` reads the markup of a template that is not cached from its source node.
A reference may have no such node in the document:

    no source     the key matches nothing, or the selection is empty
    not here      the first node of the selection is of another document

Without a source the call does nothing at all.  A node of another document is a
source all the same: what is in it reads as empty (`inner_of_missing`), so the
call goes on to compile empty markup and keeps what that compiles to, under the
key of the selection (`missing_source_ignored_iff`).

A key never gets there, for what a selector finds are nodes of the document
(`contains_of_source?`).
-/
import Inlay.Proofs.Dispatch.OneShot
import Inlay.Proofs.Dispatch.Operations

namespace Inlay

open Document Dispatcher

variable {τ : Type} {e : Engine τ} {s : Dispatcher τ} {d : Document} {n : NodeId}
  {t : TemplateRef} {key k : String} {data : Data.Value} {p : Overrides}

/-- A reference whose source, if it names one, is no node of the document. -/
def TemplateRef.IsMissing (t : TemplateRef) (d : Document) : Prop :=
  ∀ n, t.source? d = some n → d.contains n = false

/-! ## Sources -/

/-- What a document never handed out has nothing in it. -/
theorem inner_of_missing (h : d.contains n = false) : d.inner n = "" := by
  rw [Document.inner, children_eq_nil h]
  rfl

/-- The source of a key is a node of the document. -/
theorem contains_of_source? (hd : Forest d) (h : (TemplateRef.key k).source? d = some n) :
    d.contains n = true := by
  have hn : n ∈ (d.select k).nodes := List.mem_of_head? h
  exact contains_of_ancestor (hd.mem_descendants.mp (find_subset_descendants d root k hn))

/-- So a key that is missing has no source. -/
theorem source?_of_missing_key (hd : Forest d) (h : (TemplateRef.key k).IsMissing d) :
    (TemplateRef.key k).source? d = none := by
  cases hs : (TemplateRef.key k).source? d with
  | none => rfl
  | some n => exact absurd ((contains_of_source? hd hs).symm.trans (h n hs)) (by decide)

/-! ## With a source and without -/

/-- Without a source there is nothing to do. -/
theorem add_of_no_source (e : Engine τ) (target : Selection) (data : Data.Value) (p : Overrides)
    (hk : t.key? = some key) (hnone : s.cache.get? key = none) (hs : t.source? d = none) :
    s.add e d target t data p = ⟨s, d, .target target, []⟩ := by
  simp only [add, hk, Cache.contains_eq_false.mpr hnone, hs, Bool.false_eq_true, if_false,
    ite_self]

/-- With a source, what is in it is compiled first of all, whatever node it is. -/
theorem compiles_first (e : Engine τ) (target : Selection)
    (hidle : ((s.defaults.merge p).validate && data.isEmpty) = false) (hk : t.key? = some key)
    (hnone : s.cache.get? key = none) (hs : t.source? d = some n) :
    (s.add e d target t data p).requests.head? = some (.compile key (d.inner n)) := by
  simp only [add, hidle, hk, Cache.contains_eq_false.mpr hnone, hs, Bool.false_eq_true, if_false]
  cases compileInto e s key (d.inner n) <;> rfl

/-! ## Both -/

/-- An `add` for a template that is neither cached nor in the document.  A key is ignored: nothing
is asked for, the target is answered, and document and cache stay as they are.  In general this is
so exactly if the data are not to be rendered anyway or the reference has no source at all.
Otherwise empty markup is compiled, and what it compiles to is kept under the key if templates are
kept. -/
theorem missing_source_ignored_iff (hd : Reachable d) (hk : t.key? = some key)
    (hnone : s.cache.get? key = none) (hmissing : t.IsMissing d) (target : Selection)
    (data : Data.Value) (p : Overrides) :
    (∀ k, t = .key k → s.add e d target t data p = ⟨s, d, .target target, []⟩) ∧
    (s.add e d target t data p = ⟨s, d, .target target, []⟩ ↔
      ((s.defaults.merge p).validate && data.isEmpty) = true ∨ t.source? d = none) ∧
    (((s.defaults.merge p).validate && data.isEmpty) = false → t.source? d ≠ none →
      (s.add e d target t data p).requests.head? = some (.compile key "") ∧
      ((s.defaults.merge p).storeCompiled = true →
        (s.add e d target t data p).dispatcher.cache.get? key = e.compile "")) := by
  have hcompiles : ∀ n, ((s.defaults.merge p).validate && data.isEmpty) = false →
      t.source? d = some n →
      (s.add e d target t data p).requests.head? = some (.compile key "") := by
    intro n hbusy hs
    rw [compiles_first e target hbusy hk hnone hs, inner_of_missing (hmissing n hs)]
  refine ⟨?_, ⟨?_, ?_⟩, ?_⟩
  · rintro k rfl
    exact add_of_no_source e target data p hk hnone (source?_of_missing_key hd.forest hmissing)
  · intro hignored
    by_contra hnot
    rw [not_or, Bool.not_eq_true] at hnot
    obtain ⟨n, hs⟩ := Option.ne_none_iff_exists'.mp hnot.2
    have hhead := hcompiles n hnot.1 hs
    rw [hignored] at hhead
    cases hhead
  · rintro (hidle | hs)
    · exact add_of_idle e d target t hidle
    · exact add_of_no_source e target data p hk hnone hs
  · intro hbusy hsource
    obtain ⟨n, hs⟩ := Option.ne_none_iff_exists'.mp hsource
    refine ⟨hcompiles n hbusy hs, fun hkept => ?_⟩
    have hr : (Call.add target t data p).adding? d = some ⟨target, t.key?, some "", data, p⟩ := by
      rw [Call.adding?, hs, Option.map_some, inner_of_missing (hmissing n hs)]
    exact (get?_of_busy hr hbusy hk hnone).trans (if_pos (.inl hkept))

/-- A page without templates. -/
def barePage : Document := .parse "<div id=out></div>"

/-- A template that was selected in another document. -/
def foreignTemplate : TemplateRef :=
  .selection ((Document.parse "<ul><li>y</li></ul><p id=t>x</p>").select "#t")

/-- An add of it leaves a template under its key, which renders nothing. -/
theorem foreign_source_compiled_empty :
    foreignTemplate.key? = some "#t" ∧ foreignTemplate.IsMissing barePage ∧
    ((Call.add (barePage.select "#out") foreignTemplate (.bool true) {}).answer
      CompiledTemplate.engine {} barePage).dispatcher.cache.keys = ["#t"] ∧
    ((Call.add (barePage.select "#out") foreignTemplate (.bool true) {}).answer
      CompiledTemplate.engine {} barePage).document.write =
        "<div id=\"out\"><div data-template-id=\"#t\"></div></div>" := by
  have hsource : foreignTemplate.source? barePage = some ⟨4⟩ := by decide +kernel
  refine ⟨by decide +kernel, fun n hn => ?_, by decide +kernel, by decide +kernel⟩
  cases hsource.symm.trans hn
  decide +kernel

/-- An add of the key itself does nothing. -/
theorem missing_key_ignored :
    (TemplateRef.key "#t").key? = some "#t" ∧ (TemplateRef.key "#t").IsMissing barePage ∧
    Dispatcher.add CompiledTemplate.engine {} barePage (barePage.select "#out") (.key "#t")
      (.bool true) {} = ⟨{}, barePage, .target (barePage.select "#out"), []⟩ := by
  have hmissing : (TemplateRef.key "#t").IsMissing barePage := by
    have hsource : (TemplateRef.key "#t").source? barePage = none := by decide +kernel
    intro n hn
    cases hsource.symm.trans hn
  have hkey : (TemplateRef.key "#t").key? = some "#t" := by decide +kernel
  obtain ⟨hignored, -, -⟩ := missing_source_ignored_iff (e := CompiledTemplate.engine) (s := {})
    (.parse _) hkey rfl hmissing (barePage.select "#out") (.bool true) {}
  exact ⟨hkey, hmissing, hignored "#t" rfl⟩

end Inlay
