/-
# `Inlay.Proofs.Dispatch.Cache` — a cache through its lookup

One equation per operation, true of every cache:

    insert key t                what `key` has, else `t`
    evict key                   nothing for `key`
    evictMarker, one by one     nothing for a key with one of the markers

Each leaves the lookup of all other keys alone.
-/
import Mathlib.Data.List.Basic
import Inlay.Dispatch.Cache

namespace Inlay

variable {τ : Type}

namespace Data

theorem getField?_nil (k : String) : getField? k ([] : List (String × τ)) = none := rfl

theorem getField?_cons (k key : String) (v : τ) (rest : List (String × τ)) :
    getField? k ((key, v) :: rest) = if key = k then some v else getField? k rest := by
  unfold getField?
  by_cases h : key = k <;> simp [h]

/-- A key that was not there is found under its new value, and no other key moves. -/
theorem getField?_putField {key : String} (k : String) (v : τ) :
    ∀ {fields : List (String × τ)}, getField? key fields = none →
      getField? k (putField key v fields) = if key = k then some v else getField? k fields
  | [], _ => by rw [putField, getField?_cons]
  | (name, w) :: rest, h => by
      rw [getField?_cons] at h
      have hne : name ≠ key := by
        rintro rfl
        simp at h
      rw [if_neg hne] at h
      unfold putField
      split
      · rw [getField?_cons]
      · next hc => exact absurd (Std.LawfulEqOrd.eq_of_compare hc).symm hne
      · rw [getField?_cons, getField?_putField k v h, getField?_cons]
        by_cases hk : name = k
        · subst hk
          rw [if_pos rfl, if_neg (Ne.symm hne), if_pos rfl]
        · rw [if_neg hk, if_neg hk]

theorem getField?_filter (k : String) (p : String → Bool) :
    ∀ (fields : List (String × τ)),
      getField? k (fields.filter (p ·.1)) = if p k then getField? k fields else none
  | [] => by simp [getField?_nil]
  | (key, v) :: rest => by
      rw [List.filter_cons]
      by_cases hp : p key = true
      · rw [if_pos hp, getField?_cons, getField?_cons, getField?_filter k p rest]
        by_cases hk : key = k
        · subst hk; simp [hp]
        · simp [hk]
      · rw [if_neg hp, getField?_filter k p rest, getField?_cons]
        by_cases hk : key = k
        · subst hk; simp [hp]
        · simp [hk]

end Data

namespace Cache

variable {c : Cache τ} {k key : String} {t : τ}

theorem contains_eq_false : c.contains key = false ↔ c.get? key = none := by
  rw [contains, Option.isSome_eq_false_iff, Option.isNone_iff_eq_none]

theorem contains_of_get? (h : c.get? key = some t) : c.contains key = true := by
  rw [contains, h, Option.isSome_some]

theorem get?_insert (c : Cache τ) (k key : String) (t : τ) :
    (c.insert key t).get? k = if key = k then some ((c.get? k).getD t) else c.get? k := by
  unfold insert
  cases h : c.get? key with
  | some w =>
      rw [if_pos (contains_of_get? h)]
      split
      · next hk => subst hk; rw [h]; rfl
      · rfl
  | none =>
      rw [contains_eq_false.mpr h]
      simp only [Bool.false_eq_true, if_false]
      rw [get?, Data.getField?_putField k t h]
      split
      · next hk => subst hk; rw [h]; rfl
      · rfl

theorem get?_insert_of_ne (h : key ≠ k) : (c.insert key t).get? k = c.get? k := by
  rw [get?_insert, if_neg h]

/-- Storing a template never changes what a key has. -/
theorem get?_insert_of_some {w : τ} (h : c.get? k = some w) : (c.insert key t).get? k = some w := by
  rw [get?_insert, h]
  simp

theorem get?_evict (c : Cache τ) (k key : String) :
    (c.evict key).get? k = if k = key then none else c.get? k := by
  have h := Data.getField?_filter k (fun name => decide (name ≠ key)) c.entries
  simp only [decide_eq_true_eq, ne_eq, ite_not] at h
  exact h

/-- Forgetting the templates of several markers keeps the entries whose keys have none of them. -/
theorem evictMarkers_eq : ∀ (markers : List String) (c : Cache τ),
    markers.foldl evictMarker c = ⟨c.entries.filter (markerOf ·.1 ∉ markers)⟩
  | [], c => by simp
  | m :: markers, c => by
      rw [List.foldl_cons, evictMarkers_eq markers, evictMarker, List.filter_filter]
      refine congrArg mk (List.filter_congr fun entry _ => ?_)
      simp [not_or, Bool.and_comm]

theorem get?_evictMarkers (k : String) (markers : List String) (c : Cache τ) :
    (markers.foldl evictMarker c).get? k = if markerOf k ∈ markers then none else c.get? k := by
  have h := Data.getField?_filter k (fun name => decide (markerOf name ∉ markers)) c.entries
  simp only [decide_eq_true_eq, ite_not] at h
  rw [evictMarkers_eq]
  exact h

end Cache

end Inlay
