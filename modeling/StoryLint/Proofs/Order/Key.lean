import Mathlib.Order.Lattice
import StoryLint.Proofs.Order.Sorting

/-!
# Sorting by a key

`descending key items` is the stable sort that puts great keys first. Items with one key keep their
order in it (`filter_descending`), and sorting a list that is turned round with small keys first,
and turning the result round, gives the same (`reverse_sort_reverse`).
-/

namespace StoryLint.Order

variable {α β : Type} [LinearOrder β] (key : α → β) (items : List α)

/-- The items in descending order of their keys, even ones in the given order. -/
def descending : List α :=
  items.mergeSort fun a b => key b ≤ key a

/-- Keys that are not less are transitive. -/
theorem decide_ge_trans (a b c : α) (hab : decide (key b ≤ key a) = true)
    (hbc : decide (key c ≤ key b) = true) : decide (key c ≤ key a) = true := by
  rw [decide_eq_true_eq] at *
  exact le_trans hbc hab

/-- Of two keys one is not less than the other. -/
theorem decide_ge_total (a b : α) :
    (decide (key b ≤ key a) || decide (key a ≤ key b)) = true := by
  rw [Bool.or_eq_true, decide_eq_true_eq, decide_eq_true_eq]
  exact le_total (key b) (key a)

/-- Sorting by a key keeps the items. -/
theorem perm_descending : (descending key items).Perm items :=
  List.mergeSort_perm items _

/-- Sorted by a key, no item has a larger one than the items in front of it. -/
theorem pairwise_descending : (descending key items).Pairwise fun a b => key b ≤ key a := by
  have hsorted := List.pairwise_mergeSort (decide_ge_trans key) (decide_ge_total key) items
  exact hsorted.imp of_decide_eq_true

/-- Items with one key keep their order. -/
theorem filter_descending (k : β) :
    (descending key items).filter (key · = k) = items.filter (key · = k) := by
  have heven : (items.filter (key · = k)).Pairwise fun a b => decide (key b ≤ key a) = true := by
    refine List.pairwise_of_forall_mem_list fun a ha b hb => ?_
    have hka : key a = k := by simpa using (List.mem_filter.1 ha).2
    have hkb : key b = k := by simpa using (List.mem_filter.1 hb).2
    exact decide_eq_true (by rw [hka, hkb])
  -- They are in ascending order already, so a stable sort keeps them as a sublist.
  have hsublist : (items.filter (key · = k)).Sublist (descending key items) :=
    List.sublist_mergeSort (decide_ge_trans key) (decide_ge_total key) heven List.filter_sublist
  have hfiltered := hsublist.filter (key · = k)
  simp only [List.filter_filter, Bool.and_self] at hfiltered
  exact (hfiltered.eq_of_length ((perm_descending key items).filter _).length_eq.symm).symm

/-- Items that are made from others are sorted as the others are, by the keys they get. -/
theorem descending_map {γ : Type} (make : γ → α) (items : List γ) :
    descending key (items.map make) = (descending (fun item => key (make item)) items).map make :=
  (List.map_mergeSort (s := fun a b => decide (key b ≤ key a)) fun _ _ _ _ => rfl).symm

/-- Comparing keys is a coherent relation. -/
theorem coherent_key_lt : Coherent fun a b => decide (key a < key b) where
  trans hab hbc := by
    rw [decide_eq_true_eq] at *
    exact lt_trans hab hbc
  not_trans hab hbc := by
    rw [decide_eq_false_iff_not, not_lt] at *
    exact le_trans hbc hab

/-- A list that is turned round, sorted with small keys first and turned round again is in
descending order, and even items keep their order. -/
theorem reverse_sort_reverse :
    (sort (fun a b => decide (key a < key b)) items.reverse).reverse = descending key items := by
  have hturned := (arranged_sort (coherent_key_lt key) items.reverse).reverse
  have hsorted := arranged_mergeSort (decide_ge_trans key) (decide_ge_total key) items
  have hless : (fun a b : α => !decide (key a ≤ key b)) = fun a b => decide (key b < key a) := by
    funext a b
    rw [Bool.eq_iff_iff, Bool.not_eq_true', decide_eq_false_iff_not, decide_eq_true_eq, not_le]
  rw [List.reverse_reverse] at hturned
  rw [hless] at hsorted
  exact hturned.unique hsorted

end StoryLint.Order
