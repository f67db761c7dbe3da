import Mathlib.Data.List.Pairwise

/-!
# Stable sorts

A list sorted by a key, in which items of one key stand as they stood before. Both parts together
leave no choice: they say of each key which items it has and in which order.

Main definition: `IsStableSort`.

Main results: `isStableSort_mergeSort`, `IsStableSort.of_part`.
-/

namespace StarSchema

variable {α : Type}

/-- The list is the given one sorted by a key, and items of one key keep their order. -/
structure IsStableSort (key : α → String) (given sorted : List α) : Prop where
  perm : sorted.Perm given
  ordered : sorted.Pairwise fun x y => key x ≤ key y
  stable : ∀ k, sorted.filter (key · == k) = given.filter (key · == k)

theorem isStableSort_mergeSort (key : α → String) (xs : List α) :
    IsStableSort key xs (xs.mergeSort fun x y => key x ≤ key y) := by
  let le (x y : α) : Bool := key x ≤ key y
  have trans (x y z : α) (hxy : le x y = true) (hyz : le y z = true) : le x z = true :=
    decide_eq_true (String.le_trans (of_decide_eq_true hxy) (of_decide_eq_true hyz))
  have total (x y : α) : (le x y || le y x) = true := by
    simpa [le] using String.le_total (key x) (key y)
  have perm : (xs.mergeSort le).Perm xs := List.mergeSort_perm xs le
  refine ⟨perm, (List.pairwise_mergeSort trans total xs).imp of_decide_eq_true, fun k => ?_⟩
  -- items of one key are sorted as they stand, so the sort has them in this order
  have sorted : (xs.filter (key · == k)).Pairwise fun x y => le x y = true := by
    refine List.pairwise_of_forall_mem_list fun x hx y hy => ?_
    rw [List.mem_filter, beq_iff_eq] at hx hy
    have same : key x = key y := hx.2.trans hy.2.symm
    exact decide_eq_true (same ▸ String.le_refl (key x))
  have sublist :=
    (List.sublist_mergeSort trans total sorted List.filter_sublist).filter (key · == k)
  rw [List.filter_filter] at sublist
  simp only [Bool.and_self] at sublist
  exact (sublist.eq_of_length (perm.filter _).length_eq.symm).symm

/-- A list that is sorted in part beforehand has the same stable sort. -/
theorem IsStableSort.of_part {key : α → String} {before part part' after sorted : List α}
    (h : IsStableSort key (before ++ part' ++ after) sorted) (hpart : IsStableSort key part part') :
    IsStableSort key (before ++ part ++ after) sorted where
  perm := h.perm.trans ((hpart.perm.append_left before).append_right after)
  ordered := h.ordered
  stable k := by
    rw [h.stable]
    simp only [List.filter_append, hpart.stable]

end StarSchema
