import Mathlib.Data.List.Basic
import Mathlib.Data.List.Induction

/-!
# First occurrences

Without duplicates, every item of a list is left at the place where it first occurs. So the items
that are left stand in the order of their first occurrences (`pairwise_idxOf_eraseDups`).
-/

namespace StoryLint.Order

variable {α : Type} [BEq α] [LawfulBEq α]

/-- A last item counts only if it is new. -/
theorem eraseDups_concat (items : List α) (item : α) :
    (items ++ [item]).eraseDups =
      if item ∈ items then items.eraseDups else items.eraseDups ++ [item] := by
  rw [List.eraseDups_append, List.removeAll]
  split <;> simp [*, List.eraseDups_cons]

/-- It makes no difference whether items are chosen before duplicates are removed or after. -/
theorem eraseDups_filter (p : α → Bool) (items : List α) :
    (items.filter p).eraseDups = items.eraseDups.filter p := by
  induction items using List.reverseRecOn with
  | nil => rfl
  | append_singleton items item ih =>
      rw [List.filter_append, eraseDups_concat]
      cases hitem : p item with
      | false =>
          rw [List.filter_cons_of_neg (by simp [hitem]), List.filter_nil, List.append_nil, ih]
          split
          · rfl
          · rw [List.filter_append, List.filter_cons_of_neg (by simp [hitem]), List.filter_nil,
              List.append_nil]
      | true =>
          rw [List.filter_cons_of_pos hitem, List.filter_nil, eraseDups_concat, ih]
          simp only [List.mem_filter, hitem, and_true]
          split
          · rfl
          · rw [List.filter_append, List.filter_cons_of_pos hitem, List.filter_nil]

/-- The items that are left stand in the order of their first occurrences. -/
theorem pairwise_idxOf_eraseDups (items : List α) :
    items.eraseDups.Pairwise fun a b => items.idxOf a < items.idxOf b := by
  induction items using List.reverseRecOn with
  | nil => exact List.Pairwise.nil
  | append_singleton items item ih =>
      -- An item behind them does not move the first occurrences.
      have hkept : items.eraseDups.Pairwise fun a b =>
          (items ++ [item]).idxOf a < (items ++ [item]).idxOf b :=
        ih.imp_of_mem fun ha hb hlt => by
          rwa [List.idxOf_append_of_mem (List.mem_eraseDups.1 ha),
            List.idxOf_append_of_mem (List.mem_eraseDups.1 hb)]
      rw [eraseDups_concat]
      split
      · exact hkept
      · rename_i hnew
        refine List.pairwise_append.2 ⟨hkept, List.pairwise_singleton _ _, fun a ha b hb => ?_⟩
        have ha := List.mem_eraseDups.1 ha
        rw [List.mem_singleton.1 hb, List.idxOf_append_of_mem ha,
          List.idxOf_append_of_notMem hnew]
        exact Nat.lt_of_lt_of_le (List.idxOf_lt_length_of_mem ha) (Nat.le_add_right _ _)

end StoryLint.Order
