/-
# `Inlay.Proofs.Document.Attributes` — attributes as a map that remembers an order

An element keeps names and values in a list, finds a name by going through the
list, up to case, and puts a name in lower case only when it adds it.  After any
settings the list is

    names     every name that was set, in lower case, where it was set first
    values    for each of them the value that was set last, up to case

(`setAll_ofName`).  The induction is over settings at the end, and what carries it
is that the names are in lower case and different: then the first name that the
search meets is the only one that fits, so one more setting changes one value or
adds one name (`assign_map`).

What a setting leaves alone needs no such list.  It changes no entry under
another name, wherever the entry stands (`getElem?_assign_of_ne`), and no look-up
of another name (`lookup_assign_of_ne`).
-/
import Inlay.Proofs.Document.Frame
import Mathlib.Data.List.Induction
import Mathlib.Data.List.Nodup

namespace Inlay

/-! ## Names once each -/

theorem eraseDups_concat (names : List String) (name : String) :
    (names ++ [name]).eraseDups =
      if name ∈ names then names.eraseDups else names.eraseDups ++ [name] := by
  rw [List.eraseDups_append]
  by_cases h : name ∈ names <;> simp [List.removeAll, h, List.eraseDups_cons]

theorem nodup_eraseDups (names : List String) : names.eraseDups.Nodup := by
  induction names using List.reverseRecOn with
  | nil => simp
  | append_singleton names name ih =>
      rw [eraseDups_concat]
      split
      · exact ih
      · next h => exact List.nodup_append.mpr ⟨ih, by simp, by grind [List.mem_eraseDups]⟩

/-! ## One setting -/

/-- Setting an attribute changes the value of a name that is there, or adds the name. -/
theorem assign_map {names : List String} {value : String → String} (name v : String)
    (hlower : ∀ n ∈ names, Text.lower n = n) (hnodup : names.Nodup) :
    Element.assign name v (names.map fun n => (n, value n)) =
      (if Text.lower name ∈ names then names else names ++ [Text.lower name]).map
        fun n => (n, if n = Text.lower name then v else value n) := by
  induction names with
  | nil => simp [Element.assign]
  | cons m names ih =>
      obtain ⟨hm, hnodup⟩ := List.nodup_cons.mp hnodup
      have hsame : Text.sameLetters m name = true ↔ Text.lower name = m := by
        rw [Text.sameLetters_iff, hlower m List.mem_cons_self, eq_comm]
      rw [List.map_cons, Element.assign]
      by_cases h : Text.lower name = m
      · have hrest : ∀ n ∈ names, n ≠ Text.lower name := by
          rintro n hn rfl
          exact hm (h ▸ hn)
        rw [if_pos (hsame.mpr h), if_pos (h ▸ List.mem_cons_self), List.map_cons, if_pos h.symm]
        refine congrArg _ (List.map_congr_left fun n hn => ?_)
        rw [if_neg (hrest n hn)]
      · have hmem : Text.lower name ∈ m :: names ↔ Text.lower name ∈ names := by simp [h]
        rw [if_neg (by rwa [hsame]), ih (fun n hn => hlower n (List.mem_cons_of_mem _ hn)) hnodup]
        simp only [hmem]
        split
        · rw [List.map_cons, if_neg (Ne.symm h)]
        · rw [List.cons_append, List.map_cons, if_neg (Ne.symm h)]

namespace Element

variable {e : Element} {name n m v k w : String} {entries : List (String × String)}

/-- Looking a name up among names in lower case. -/
theorem lookup_map {names : List String} {value : String → String}
    (hlower : ∀ n ∈ names, Text.lower n = n) :
    lookup name (names.map fun n => (n, value n)) =
      if Text.lower name ∈ names then some (value (Text.lower name)) else none := by
  induction names with
  | nil => rfl
  | cons m names ih =>
      have hsame : Text.sameLetters m name = true ↔ Text.lower name = m := by
        rw [Text.sameLetters_iff, hlower m List.mem_cons_self, eq_comm]
      rw [List.map_cons, lookup, ih fun n hn => hlower n (List.mem_cons_of_mem _ hn)]
      by_cases h : Text.lower name = m
      · rw [if_pos (hsame.mpr h), if_pos (h ▸ List.mem_cons_self), h]
      · have hmem : Text.lower name ∈ m :: names ↔ Text.lower name ∈ names := by simp [h]
        rw [if_neg (by rwa [hsame])]
        simp only [hmem]

theorem sameLetters_lower_self (name : String) : Text.sameLetters (Text.lower name) name = true :=
  Text.sameLetters_iff.mpr (Text.lower_lower name)

/-- Setting a name leaves an entry under another one as it is, and where it is. -/
theorem getElem?_assign_of_ne (hk : Text.sameLetters k name = false) :
    ∀ {entries : List (String × String)} {i : Nat},
      (assign name v entries)[i]? = some (k, w) ↔ entries[i]? = some (k, w)
  | [], i => by
      have hne : Text.lower name ≠ k := by
        rintro rfl
        rw [sameLetters_lower_self] at hk
        cases hk
      cases i <;> simp [assign, hne]
  | (k', v') :: rest, i => by
      rw [assign]
      split
      · next hk' =>
          have hne : k' ≠ k := by
            rintro rfl
            rw [hk] at hk'
            cases hk'
          cases i <;> simp [hne]
      · cases i with
        | zero => rfl
        | succ i => exact getElem?_assign_of_ne hk

/-- Setting a name does not change what is found under another one. -/
theorem lookup_assign_of_ne (hm : Text.sameLetters name m = false) :
    lookup m (assign name v entries) = lookup m entries := by
  have hother : ∀ k, Text.sameLetters k name = true → ¬ Text.sameLetters k m = true := by
    intro k hk hkm
    rw [Text.sameLetters_iff] at hk hkm
    rw [Text.sameLetters_iff.mpr (hk.symm.trans hkm)] at hm
    cases hm
  induction entries with
  | nil => rw [assign, lookup, lookup, if_neg (hother _ (sameLetters_lower_self name)), lookup]
  | cons entry rest ih =>
      obtain ⟨k, v'⟩ := entry
      rw [assign]
      split
      · next hk => rw [lookup, lookup, if_neg (hother k hk), if_neg (hother k hk)]
      · rw [lookup, lookup, ih]

/-! ## Settings one after another -/

/-- The element after attributes were set one after another. -/
def setAll (e : Element) (settings : List (String × String)) : Element :=
  settings.foldl (fun e s => e.setAttribute s.1 s.2) e

/-- The names of the attributes, in the order in which the element keeps them. -/
def names (e : Element) : List String := e.attributes.map (·.1)

/-- The value of the last setting whose name is in lower case the given one. -/
def lastSet (settings : List (String × String)) (name : String) : Option String :=
  (settings.filter (Text.lower ·.1 = name)).getLast?.map (·.2)

/-- What settings come to: the names in lower case, each where it comes first, with the value that
comes last. -/
def merged (settings : List (String × String)) : List (String × String) :=
  (settings.map (Text.lower ·.1)).eraseDups.map fun name => (name, (lastSet settings name).getD "")

theorem setAll_concat (e : Element) (settings : List (String × String)) (s : String × String) :
    e.setAll (settings ++ [s]) = (e.setAll settings).setAttribute s.1 s.2 := by
  rw [setAll, List.foldl_concat, setAll]

theorem lastSet_concat (settings : List (String × String)) (s : String × String) (name : String) :
    lastSet (settings ++ [s]) name =
      if name = Text.lower s.1 then some s.2 else lastSet settings name := by
  unfold lastSet
  rw [List.filter_append]
  by_cases h : name = Text.lower s.1
  · simp [h]
  · simp [h, Ne.symm h]

theorem lower_of_mem_eraseDups {settings : List (String × String)}
    (h : n ∈ (settings.map (Text.lower ·.1)).eraseDups) : Text.lower n = n := by
  obtain ⟨s, -, rfl⟩ := List.mem_map.mp (List.mem_eraseDups.mp h)
  exact Text.lower_lower s.1

theorem merged_concat (settings : List (String × String)) (s : String × String) :
    merged (settings ++ [s]) = assign s.1 s.2 (merged settings) := by
  rw [merged, merged, assign_map _ _ (fun _ => lower_of_mem_eraseDups) (nodup_eraseDups _),
    List.map_append, List.map_singleton, eraseDups_concat]
  simp only [List.mem_eraseDups]
  refine List.map_congr_left fun n _ => ?_
  rw [lastSet_concat]
  split <;> rfl

/-- Setting the attributes of a new element one after another merges the settings. -/
theorem setAll_ofName (name : String) (settings : List (String × String)) :
    (ofName name).setAll settings = ⟨Text.lower name, merged settings⟩ := by
  induction settings using List.reverseRecOn with
  | nil => rfl
  | append_singleton settings s ih => rw [setAll_concat, ih, setAttribute, merged_concat]

/-! ## What is found, and under which names -/

theorem names_setAll (name : String) (settings : List (String × String)) :
    ((ofName name).setAll settings).names = (settings.map (Text.lower ·.1)).eraseDups := by
  rw [names, setAll_ofName, merged, List.map_map]
  exact List.map_id _

theorem isSome_lastSet {settings : List (String × String)} :
    (lastSet settings n).isSome = true ↔ n ∈ settings.map (Text.lower ·.1) := by
  simp [lastSet]

theorem attribute?_setAll (name : String) (settings : List (String × String)) (n : String) :
    ((ofName name).setAll settings).attribute? n = lastSet settings (Text.lower n) := by
  rw [attribute?, setAll_ofName, merged, lookup_map fun _ => lower_of_mem_eraseDups]
  simp only [List.mem_eraseDups, ← isSome_lastSet]
  cases lastSet settings (Text.lower n) <;> rfl

theorem lastSet_lower (settings : List (String × String)) (n : String) :
    lastSet settings (Text.lower n) =
      (settings.filter fun s => Text.sameLetters s.1 n).getLast?.map (·.2) := by
  have hsame : ∀ s ∈ settings,
      decide (Text.lower s.1 = Text.lower n) = Text.sameLetters s.1 n := by
    intro s _
    rw [Bool.eq_iff_iff, decide_eq_true_iff, Text.sameLetters_iff]
  rw [lastSet, List.filter_congr hsame]

end Element

/-- Settings reach the element of a node as they are. -/
theorem Document.element?_setAll (id : NodeId) : ∀ (settings : List (String × String))
    (d : Document), (settings.foldl (fun d s => d.setAttribute id s.1 s.2) d).element? id =
      (d.element? id).map (·.setAll settings)
  | [], _ => Option.map_id'.symm
  | s :: settings, d => by
      rw [List.foldl_cons, element?_setAll id settings, setAttribute, element?_modifyElement,
        Option.map_map]
      rfl

/-- However attributes are set on a new element, it has every name once, also up to case, in lower
case and in the order of the first settings; a look-up finds the value that was set last for the
name, up to case, or nothing; and setting one more leaves the values and the places of all others.
The same holds of the element of a node. -/
theorem attributes_form_map (name : String) (settings : List (String × String)) :
    let e := (Element.ofName name).setAll settings
    (∀ k ∈ e.names, ∀ c ∈ k.toList, c.isUpper = false) ∧
    e.names.Pairwise (fun k l => Text.sameLetters k l = false) ∧
    e.names = (settings.map (Text.lower ·.1)).eraseDups ∧
    (∀ n, e.attribute? n =
      (settings.filter fun s => Text.sameLetters s.1 n).getLast?.map (·.2)) ∧
    (∀ n v m, Text.sameLetters n m = false → (e.setAttribute n v).attribute? m = e.attribute? m) ∧
    (∀ n v k w (i : Nat), Text.sameLetters k n = false →
      ((e.setAttribute n v).attributes[i]? = some (k, w) ↔ e.attributes[i]? = some (k, w))) ∧
    ∀ (d : Document) id, d.element? id = some (.ofName name) → ∀ n,
      (settings.foldl (fun d s => d.setAttribute id s.1 s.2) d).attribute? id n =
        e.attribute? n := by
  intro e
  have hnames : e.names = (settings.map (Text.lower ·.1)).eraseDups :=
    Element.names_setAll name settings
  have hlower : ∀ k ∈ e.names, Text.lower k = k := by
    intro k hk
    rw [hnames] at hk
    exact Element.lower_of_mem_eraseDups hk
  refine ⟨?_, ?_, hnames, fun n => ?_, fun n v m h => Element.lookup_assign_of_ne h,
    fun n v k w i h => Element.getElem?_assign_of_ne h, fun d id hid n => ?_⟩
  · intro k hk c hc
    rw [← hlower k hk, Text.lower, String.toList_ofList, List.mem_map] at hc
    obtain ⟨b, -, rfl⟩ := hc
    exact Text.isUpper_toLower b
  · refine (hnames ▸ nodup_eraseDups _ : e.names.Nodup).imp_of_mem fun {k l} hk hl hne => ?_
    rw [← Bool.not_eq_true, Text.sameLetters_iff, hlower k hk, hlower l hl]
    exact hne
  · rw [Element.attribute?_setAll, Element.lastSet_lower]
  · rw [Document.attribute?, Document.element?_setAll, hid]
    rfl

/-- A field whose name was set twice in different cases, and one whose name has letters beyond
ASCII. -/
theorem field_attributes :
    let e := (Element.ofName "INPUT").setAll
      [("Data-X", "1"), ("ÄRGER", "2"), ("data-x", "3"), ("ärger", "4")]
    e.names = ["data-x", "Ärger", "ärger"] ∧ e.attribute? "DATA-X" = some "3" ∧
    e.attribute? "Äärger" = none ∧ Text.sameLetters "ÄRGER" "ärger" = false ∧
    (e.setAttribute "ÄRGER" "5").attribute? "ärger" = e.attribute? "ärger" := by
  obtain ⟨-, -, hnames, hfound, hother, -, -⟩ := attributes_form_map "INPUT"
    [("Data-X", "1"), ("ÄRGER", "2"), ("data-x", "3"), ("ärger", "4")]
  have hne : Text.sameLetters "ÄRGER" "ärger" = false := by decide
  refine ⟨?_, ?_, ?_, hne, hother _ _ _ hne⟩
  · rw [hnames]
    decide
  · rw [hfound]
    decide
  · rw [hfound]
    decide

end Inlay
