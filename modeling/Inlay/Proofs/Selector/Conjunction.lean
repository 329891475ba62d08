/-
# `Inlay.Proofs.Selector.Conjunction` — what a compound asks of an element

A compound is written as a tag and a row of conditions, and it is matched
through a record of them that has room for one identity:

    written      kept            asked
    tag          in lower case   the name, up to case; nothing for *
    # x          the last        the value of id is x
    . x          all             x is a word in the value of class
    [ n ]        all             an attribute named n, up to case
    [ n = v ]    all             the value of n is v

`Meets` is the conjunction of everything written.  What is asked is
`MeetsLast`, the same but for identities, of which only the last counts.  The
two agree when no two different identities are written
(`WrittenCompound.meets_iff`); with two different ones no element meets the
conjunction, and those that carry the last identity may match all the same.

A word is asked for by splitting the value of `class` at white space.
`HasWord` says what that comes to without splitting: the word stands in the
value with white space, or an end of the value, on either side.
-/
import Inlay.Proofs.Selector.Acceptance
import Mathlib.Data.List.Induction

namespace Inlay

variable {x u v cs : List Char} {c : Char} {e : Element}

/-! ## Words -/

namespace Element

/-- The word stands in the text between white space or the ends of the text. -/
def HasWord (cs x : List Char) : Prop :=
  ∃ u v, cs = u ++ (x ++ v) ∧
    (∀ c ∈ u.getLast?, Text.isSpace c = true) ∧ ∀ c ∈ v.head?, Text.isSpace c = true

/-- Words split at white space; the facts below follow from this one. -/
theorem words_append_space (hc : Text.isSpace c = true) (u v : List Char) :
    words (u ++ c :: v) = words u ++ words v := by
  rw [words, List.splitOnP_append_cons u v hc, List.filter_append]
  rfl

@[simp] theorem words_nil : words [] = [] := by simp [words, List.splitOnP_nil]

theorem words_of_no_space (hne : x ≠ []) (hx : ∀ c ∈ x, Text.isSpace c = false) :
    words x = [x] := by
  rw [words, List.splitOnP_eq_singleton hx]
  simp [hne]

theorem words_append_of_getLast? (hu : ∀ c ∈ u.getLast?, Text.isSpace c = true) (v : List Char) :
    words (u ++ v) = words u ++ words v := by
  obtain rfl | ⟨u, c, rfl⟩ := List.eq_nil_or_concat u
  · simp
  · have hc : Text.isSpace c = true := hu c (by simp)
    have hsplit : words (u ++ [c]) = words u := by simpa using words_append_space hc u []
    rw [List.concat_eq_append, List.append_assoc, List.singleton_append, words_append_space hc,
      hsplit]

theorem words_append_of_head? (hv : ∀ c ∈ v.head?, Text.isSpace c = true) (u : List Char) :
    words (u ++ v) = words u ++ words v := by
  cases v with
  | nil => simp
  | cons c v =>
      have hc : Text.isSpace c = true := hv c rfl
      have hsplit : words (c :: v) = words v := by simpa using words_append_space hc [] v
      rw [words_append_space hc, hsplit]

theorem HasWord.append_space (hc : Text.isSpace c = true) (h : HasWord u x) (v : List Char) :
    HasWord (u ++ c :: v) x := by
  obtain ⟨before, after, rfl, hbefore, hafter⟩ := h
  refine ⟨before, after ++ c :: v, by simp, hbefore, ?_⟩
  cases after with
  | nil => simpa using hc
  | cons a after => exact hafter

theorem HasWord.space_append (hc : Text.isSpace c = true) (h : HasWord v x) (u : List Char) :
    HasWord (u ++ c :: v) x := by
  obtain ⟨before, after, rfl, hbefore, hafter⟩ := h
  refine ⟨u ++ c :: before, after, by simp, ?_, hafter⟩
  obtain rfl | ⟨before, b, rfl⟩ := List.eq_nil_or_concat before
  · simpa using hc
  · simpa [List.getLast?_cons] using hbefore

theorem hasWord_of_mem_words {x cs : List Char} (h : x ∈ words cs) : HasWord cs x := by
  by_cases hspace : ∃ c ∈ cs, Text.isSpace c = true
  · -- Any white space will do: the word is in the text before it or in the text behind it.
    obtain ⟨c, hmem, hc⟩ := hspace
    obtain ⟨u, v, rfl⟩ := List.append_of_mem hmem
    rw [words_append_space hc, List.mem_append] at h
    rcases h with h | h
    · exact (hasWord_of_mem_words h).append_space hc v
    · exact (hasWord_of_mem_words h).space_append hc u
  · have hno : ∀ c ∈ cs, Text.isSpace c = false := by simpa using hspace
    by_cases hne : cs = []
    · simp [hne] at h
    · rw [words_of_no_space hne hno, List.mem_singleton] at h
      exact ⟨[], [], by simp [h], by simp, by simp⟩
termination_by cs.length

theorem mem_words_iff (hne : x ≠ []) (hx : ∀ c ∈ x, Text.isSpace c = false) :
    x ∈ words cs ↔ HasWord cs x := by
  constructor
  · exact hasWord_of_mem_words
  · rintro ⟨u, v, rfl, hu, hv⟩
    rw [words_append_of_getLast? hu, words_append_of_head? hv, words_of_no_space hne hx]
    simp

theorem attribute?_isSome {n : String} :
    (e.attribute? n).isSome = true ↔ ∃ a ∈ e.attributes, Text.sameLetters a.1 n = true := by
  have hlookup : ∀ l, (lookup n l).isSome = true ↔ ∃ a ∈ l, Text.sameLetters a.1 n = true := by
    intro l
    induction l with
    | nil => simp [lookup]
    | cons a l ih =>
        rw [lookup]
        split
        · next h => simp [h]
        · next h => simp [h, ih]
  exact hlookup e.attributes

end Element

/-! ## Conditions -/

namespace Simple

def identity? : Simple → Option String
  | .id x => some x
  | _ => none

def word? : Simple → Option String
  | .word x => some x
  | _ => none

def test? : Simple → Option AttributeTest
  | .test t => some t
  | _ => none

/-- A part that only one kind of condition has. -/
theorem mem_filterMap {α : Type} {f : Simple → Option α} {mk : α → Simple}
    (hf : ∀ s a, f s = some a ↔ s = mk a) {a : α} {ss : List Simple} :
    a ∈ ss.filterMap f ↔ mk a ∈ ss := by
  simp [List.mem_filterMap, hf]

theorem mem_identities {x : String} {ss : List Simple} : x ∈ ss.filterMap identity? ↔ .id x ∈ ss :=
  mem_filterMap fun s _ => by cases s <;> simp [identity?]

theorem mem_words {x : String} {ss : List Simple} : x ∈ ss.filterMap word? ↔ .word x ∈ ss :=
  mem_filterMap fun s _ => by cases s <;> simp [word?]

theorem mem_tests {t : AttributeTest} {ss : List Simple} : t ∈ ss.filterMap test? ↔ .test t ∈ ss :=
  mem_filterMap fun s _ => by cases s <;> simp [test?]

/-- What a condition asks of an element. -/
def Holds (s : Simple) (e : Element) : Prop :=
  match s with
  | .id x => e.attribute? "id" = some x
  | .word x => ∃ value, e.attribute? "class" = some value ∧ Element.HasWord value.toList x.toList
  | .test (.present n) => ∃ a ∈ e.attributes, Text.sameLetters a.1 n = true
  | .test (.equals n v) => e.attribute? n = some v

end Simple

theorem AttributeTest.holds_iff {t : AttributeTest} :
    t.holds e = true ↔ (Simple.test t).Holds e := by
  cases t with
  | present n => exact Element.attribute?_isSome
  | equals n v => simp [holds, Simple.Holds]

theorem Element.hasClass_iff {word : String} (hne : word.toList ≠ [])
    (hw : ∀ c ∈ word.toList, Text.isSpace c = false) :
    e.hasClass word = true ↔ (Simple.word word).Holds e := by
  rw [hasClass, Simple.Holds]
  cases e.attribute? "class" with
  | none => simp
  | some value => simp [mem_words_iff hne hw]

theorem Compound.holds_iff {c : Compound} : c.holds e = true ↔
    (∀ t ∈ c.tag, t = "*" ∨ Text.sameLetters e.name t = true) ∧
    (∀ x ∈ c.id, e.attribute? "id" = some x) ∧
    (∀ x ∈ c.classes, e.hasClass x = true) ∧ ∀ t ∈ c.attributes, t.holds e = true := by
  obtain ⟨tag, id, classes, attributes⟩ := c
  cases tag <;> cases id <;> simp [holds, and_assoc]

/-- The record of a written compound keeps the last identity and all other conditions. -/
theorem Compound.ofWritten_eq (tag : Option String) (ss : List Simple) :
    Compound.ofWritten tag ss = ⟨tag, (ss.filterMap Simple.identity?).getLast?,
      ss.filterMap Simple.word?, ss.filterMap Simple.test?⟩ := by
  induction ss using List.reverseRecOn with
  | nil => rfl
  | append_singleton ss s ih =>
      rw [ofWritten] at ih
      rw [ofWritten, List.foldl_append, ih]
      cases s <;> simp [add, Simple.identity?, Simple.word?, Simple.test?]

namespace Selector

variable {w : WrittenCompound} {text : String} {selector : Selector}

namespace WrittenCompound

/-- The identities that are written, in order. -/
def identities (w : WrittenCompound) : List String := w.simples.filterMap Simple.identity?

/-- The name is the one that is written, up to case, if there is one and it is not `*`. -/
def TagHolds (w : WrittenCompound) (e : Element) : Prop :=
  ∀ t, w.tag = some t → t = "*" ∨ Text.sameLetters e.name t = true

/-- An element meets everything that is written. -/
def Meets (w : WrittenCompound) (e : Element) : Prop :=
  w.TagHolds e ∧ ∀ s ∈ w.simples, s.Holds e

/-- An element meets everything that is written, but of the identities only the last. -/
def MeetsLast (w : WrittenCompound) (e : Element) : Prop :=
  w.TagHolds e ∧ (∀ x ∈ w.identities.getLast?, e.attribute? "id" = some x) ∧
    ∀ s ∈ w.simples, s.identity? = none → s.Holds e

/-- The last identity stands for all of them exactly if they are all one. -/
theorem meets_iff : w.Meets e ↔ w.MeetsLast e ∧ ∀ x ∈ w.identities, ∀ y ∈ w.identities, x = y := by
  constructor
  · rintro ⟨htag, hall⟩
    have hid : ∀ x ∈ w.identities, e.attribute? "id" = some x :=
      fun x hx => hall _ (Simple.mem_identities.mp hx)
    refine ⟨⟨htag, fun x hx => hid x (List.mem_of_getLast? hx), fun s hs _ => hall s hs⟩, ?_⟩
    exact fun x hx y hy => Option.some.inj ((hid x hx).symm.trans (hid y hy))
  · rintro ⟨⟨htag, hlast, hothers⟩, hsame⟩
    refine ⟨htag, fun s hs => ?_⟩
    cases s with
    | id x =>
        have hx : x ∈ w.identities := Simple.mem_identities.mpr hs
        have hsome := List.getLast?_isSome.mpr (List.ne_nil_of_mem hx)
        obtain ⟨y, hy⟩ := Option.isSome_iff_exists.mp hsome
        rw [hsame x hx y (List.mem_of_getLast? hy)]
        exact hlast y hy
    | word x => exact hothers _ hs rfl
    | test t => exact hothers _ hs rfl

end WrittenCompound

theorem lower_eq_star {t : String} : Text.lower t = "*" ↔ t = "*" := by
  constructor
  · intro h
    have hmap : t.toList.map Char.toLower = ['*'] := by
      simpa [Text.lower] using congrArg String.toList h
    obtain ⟨c, ht, hc⟩ := List.map_eq_singleton_iff.mp hmap
    rcases Text.toLower_cases c with heq | ⟨hle, -⟩
    · rw [← String.ofList_toList (s := t), ht, ← heq, hc]
    · rw [hc] at hle
      exact absurd hle (by decide)
  · rintro rfl
    rfl

/-- What is written behind a dot is a name. -/
theorem name_of_word {ss : List Simple} {word : String} (h : inCharacters.Simples ss cs)
    (hword : .word word ∈ ss) : Name word.toList := by
  induction h with
  | nil => cases hword
  | cons hs _ ih =>
      rcases List.mem_cons.mp hword with rfl | hword
      · cases hs with
        | word hn => simpa using hn
      · exact ih hword

theorem hasClass_iff_of_name {word : String} (h : Name word.toList) :
    e.hasClass word = true ↔ (Simple.word word).Holds e := by
  refine Element.hasClass_iff h.1 fun c hc => ?_
  rw [Bool.eq_false_iff, Ne, isSpace_iff]
  exact fun hwhite => hwhite.not_letter (h.2 c hc)

theorem tagHolds_iff {tag : Option String} {simples : List Simple} :
    (∀ t ∈ tag.map Text.lower, t = "*" ∨ Text.sameLetters e.name t = true) ↔
      (WrittenCompound.mk tag simples).TagHolds e := by
  cases tag with
  | none => simp [WrittenCompound.TagHolds]
  | some t => simp [WrittenCompound.TagHolds, lower_eq_star, Text.sameLetters_lower]

theorem compound_holds_iff (h : inCharacters.Compound w cs) :
    w.compound.holds e = true ↔ w.MeetsLast e := by
  obtain ⟨-, hss, -⟩ := h
  rw [Compound.holds_iff, WrittenCompound.compound, Compound.ofWritten_eq]
  refine and_congr tagHolds_iff (and_congr Iff.rfl ?_)
  constructor
  · rintro ⟨hwords, htests⟩ s hs hid
    cases s with
    | id x => cases hid
    | word x =>
        exact (hasClass_iff_of_name (name_of_word hss hs)).mp (hwords x (Simple.mem_words.mpr hs))
    | test t => exact AttributeTest.holds_iff.mp (htests t (Simple.mem_tests.mpr hs))
  · refine fun h => ⟨fun x hx => ?_, fun t ht => ?_⟩
    · have hs : Simple.word x ∈ _ := Simple.mem_words.mp hx
      exact (hasClass_iff_of_name (name_of_word hss hs)).mpr (h _ hs rfl)
    · exact AttributeTest.holds_iff.mpr (h _ (Simple.mem_tests.mp ht) rfl)

/-! ## What is matched -/

/-- One compound, written alone, is a group. -/
theorem group_of_compound (h : inCharacters.Compound w cs) :
    inCharacters.Group [⟨w, []⟩] cs := by
  have hc : inCharacters.Complex ⟨w, []⟩ (cs ++ []) := .mk h .nil
  rw [List.append_nil] at hc
  exact .one hc

theorem read_compound (h : inCharacters.Compound w (Text.trim text).toList) :
    Selector.read text = .ok (ofWritten [⟨w, []⟩]) :=
  read_eq_ok_iff.mpr ⟨_, group_of_compound h, rfl⟩

theorem matchesNode_one (w : WrittenCompound) (d : Document) (id : NodeId) :
    (ofWritten [⟨w, []⟩]).matchesNode d id = w.compound.matchesNode d id := by
  simp [ofWritten, WrittenComplex.complex, matchesNode, Complex.matchesNode, Complex.upward,
    Complex.climbs]

theorem compound_of_group {c : Compound} {g : List WrittenComplex} (h : inCharacters.Group g cs)
    (hg : (ofWritten g).groups = [⟨c, []⟩]) : ∃ w, inCharacters.Compound w cs := by
  cases h with
  | one hc =>
      obtain ⟨hw, hrow⟩ := hc
      cases hrow with
      | nil => exact ⟨_, by simpa using hw⟩
      | cons => simp [ofWritten, WrittenComplex.complex] at hg
  | more _ _ hcs => cases hcs <;> simp [ofWritten] at hg

/-- A compound alone matches the elements that meet everything written in it, of several identities
the last. -/
theorem read_compound_matches (h : inCharacters.Compound w (Text.trim text).toList)
    (hread : Selector.read text = .ok selector) (d : Document) (id : NodeId) :
    selector.matchesNode d id = true ↔ ∃ e, d.element? id = some e ∧ w.MeetsLast e := by
  cases (read_compound h).symm.trans hread
  rw [matchesNode_one, Compound.matchesNode]
  cases d.element? id with
  | none => simp
  | some e => simp [compound_holds_iff h]

/-- If a text is read as one compound, then it is written as one, and it matches the elements
that meet everything written, of several identities the last.  The elements that meet everything
written are those matched if the identities written are all one; otherwise there are none. -/
theorem one_compound_matches_iff (hread : Selector.read text = .ok selector)
    (hone : ∃ c, selector.groups = [⟨c, []⟩]) :
    (∃ w, inCharacters.Compound w (Text.trim text).toList) ∧
    ∀ w, inCharacters.Compound w (Text.trim text).toList → ∀ d id,
      (selector.matchesNode d id = true ↔ ∃ e, d.element? id = some e ∧ w.MeetsLast e) ∧
      ((∃ e, d.element? id = some e ∧ w.Meets e) ↔
        selector.matchesNode d id = true ∧ ∀ x ∈ w.identities, ∀ y ∈ w.identities, x = y) := by
  constructor
  · obtain ⟨g, hg, rfl⟩ := read_eq_ok_iff.mp hread
    obtain ⟨c, hc⟩ := hone
    exact compound_of_group hg hc
  · intro w hw d id
    have hmatch := read_compound_matches hw hread d id
    refine ⟨hmatch, ?_⟩
    rw [hmatch]
    simp only [WrittenCompound.meets_iff]
    constructor
    · rintro ⟨e, he, hlast, hsame⟩
      exact ⟨⟨e, he, hlast⟩, hsame⟩
    · rintro ⟨⟨e, he, hlast⟩, hsame⟩
      exact ⟨e, he, hlast, hsame⟩

/-- A page with the one element `<p class="y x" id="b">`. -/
def notePage : Document :=
  ((((Document.new.createElement "P").1.setAttribute ⟨1⟩ "class" "y x").setAttribute ⟨1⟩ "id" "b")
    |>.appendChild Document.root ⟨1⟩)

/-- A tag, a word and one identity in letters of either case. -/
theorem note_matched : ∃ selector, Selector.read " P.x#b " = .ok selector ∧
    selector.matchesNode notePage ⟨1⟩ = true := by
  have hx : Name ['x'] := .single (by simp [IsLetter])
  have hb : Name ['b'] := .single (by simp [IsLetter])
  have hp : Name ['P'] := .single (by simp [IsLetter])
  have hw : inCharacters.Compound ⟨some "P", [.word "x", .id "b"]⟩ (Text.trim " P.x#b ").toList :=
    .mk (t := ['P']) (.present (TagText.name hp))
      (.cons (t := ['.', 'x']) (SimpleText.word hx)
        (.cons (t := ['#', 'b']) (SimpleText.id hb) .nil))
      (by simp)
  have hread := read_compound hw
  have hword : Element.HasWord "y x".toList "x".toList :=
    ⟨['y', ' '], [], rfl, by simp [Text.isSpace], by simp⟩
  obtain ⟨-, hall⟩ := one_compound_matches_iff hread ⟨_, rfl⟩
  obtain ⟨hmatch, -⟩ := hall _ hw notePage ⟨1⟩
  refine ⟨_, hread, hmatch.mpr ⟨⟨"p", [("class", "y x"), ("id", "b")]⟩, by decide, ?_, ?_, ?_⟩⟩
  · rintro t ⟨⟩
    exact .inr (by decide)
  · rintro x ⟨⟩
    decide
  · intro s hs hid
    obtain rfl | rfl : s = .word "x" ∨ s = .id "b" := by simpa using hs
    · exact ⟨_, by decide, hword⟩
    · cases hid

/-- An element with the last of two identities is matched though it has not the first. -/
theorem first_identity_unasked :
    inCharacters.Compound ⟨none, [.id "a", .id "b"]⟩ (Text.trim "#a#b").toList ∧
    (∃ selector, Selector.read "#a#b" = .ok selector ∧
      selector.matchesNode notePage ⟨1⟩ = true) ∧
    ¬ ∃ e, notePage.element? ⟨1⟩ = some e ∧ WrittenCompound.Meets ⟨none, [.id "a", .id "b"]⟩ e := by
  have ha : Name ['a'] := .single (by simp [IsLetter])
  have hb : Name ['b'] := .single (by simp [IsLetter])
  have hw : inCharacters.Compound ⟨none, [.id "a", .id "b"]⟩ (Text.trim "#a#b").toList :=
    .mk (t := []) .absent
      (.cons (t := ['#', 'a']) (SimpleText.id ha) (.cons (t := ['#', 'b']) (SimpleText.id hb) .nil))
      (by simp)
  have hread := read_compound hw
  refine ⟨hw, ⟨_, hread, (read_compound_matches hw hread notePage ⟨1⟩).mpr ?_⟩, ?_⟩
  · refine ⟨⟨"p", [("class", "y x"), ("id", "b")]⟩, by decide, by rintro t ⟨⟩, ?_, ?_⟩
    · rintro x ⟨⟩
      decide
    · intro s hs hid
      obtain rfl | rfl : s = .id "a" ∨ s = .id "b" := by simpa using hs
      all_goals cases hid
  · rintro ⟨e, he, hmeets⟩
    have hne : ("a" : String) ≠ "b" := by decide
    exact hne ((WrittenCompound.meets_iff.mp hmeets).2 "a" (by decide) "b" (by decide))

end Selector

end Inlay
