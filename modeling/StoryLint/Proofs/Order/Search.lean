import Mathlib.Tactic.Common
import StoryLint.Order.Search
import StoryLint.Proofs.Order.Arrangement

/-!
# The index that a search finds

`IsCut p xs n` says that `p` holds of the first `n` items of `xs` and of no other item. Halving and
galloping find the cut of a list wherever they start, as `bisectM_eq` and `gallopM_eq` state for a
comparison without effects. A list in ascending order has a cut for every item that it is
compared with.
-/

namespace StoryLint.Order

variable {α : Type} {p : α → Bool} {xs : List α} {n : Nat}

/-- `p` holds of the first `n` items of a list and of no other item. -/
structure IsCut (p : α → Bool) (xs : List α) (n : Nat) : Prop where
  le_length : n ≤ xs.length
  holds_iff : ∀ i (_ : i < xs.length), p xs[i] = true ↔ i < n

/-- A property that passes from an item to all earlier ones has a cut. -/
theorem exists_isCut (h : xs.Pairwise fun a b => p b = true → p a = true) :
    ∃ n, IsCut p xs n := by
  induction xs with
  | nil => exact ⟨0, by simp, by simp⟩
  | cons x xs ih =>
      obtain ⟨n, hn⟩ := ih h.of_cons
      by_cases hx : p x = true
      · refine ⟨n + 1, by simpa using hn.le_length, fun i hi => ?_⟩
        cases i with
        | zero => simpa using hx
        | succ i => simpa using hn.holds_iff i (by simpa using hi)
      · refine ⟨0, by simp, fun i hi => ?_⟩
        suffices p (x :: xs)[i] = false by simp [this]
        cases i with
        | zero => simpa using hx
        | succ i =>
            have hlt : i < xs.length := by simpa using hi
            have hlater : p xs[i] = true → p x = true :=
              List.rel_of_pairwise_cons h (List.getElem_mem _)
            simpa using mt hlater hx

namespace IsCut

/-- The items in front of a cut have the property. -/
theorem take (h : IsCut p xs n) : ∀ x ∈ xs.take n, p x = true := by
  intro x hx
  obtain ⟨i, hi, rfl⟩ := List.mem_iff_getElem.1 hx
  rw [List.length_take] at hi
  rw [List.getElem_take]
  exact (h.holds_iff i (by omega)).2 (by omega)

/-- A list has one cut at most. -/
theorem unique {k : Nat} (h : IsCut p xs n) (hk : IsCut p xs k) : n = k := by
  have hn := h.le_length
  have hle := hk.le_length
  by_contra hne
  rcases Nat.lt_or_gt_of_ne hne with hlt | hlt
  · have := (h.holds_iff n (by omega)).1 ((hk.holds_iff n (by omega)).2 hlt)
    omega
  · have := (hk.holds_iff k (by omega)).1 ((h.holds_iff k (by omega)).2 hlt)
    omega

/-- A list falls apart at its cut. -/
theorem of_append {ys : List α} (hxs : ∀ x ∈ xs, p x = true) (hys : ∀ y ∈ ys, p y = false) :
    IsCut p (xs ++ ys) xs.length := by
  refine ⟨by simp, fun i hi => ?_⟩
  by_cases hlt : i < xs.length
  · rw [List.getElem_append_left hlt]
    exact iff_of_true (hxs _ (List.getElem_mem hlt)) hlt
  · rw [List.getElem_append_right (Nat.le_of_not_lt hlt)]
    exact iff_of_false (by rw [hys _ (List.getElem_mem _)]; exact Bool.false_ne_true) hlt

/-- The items behind a cut do not have the property. -/
theorem drop (h : IsCut p xs n) : ∀ x ∈ xs.drop n, p x = false := by
  intro x hx
  obtain ⟨i, hi, rfl⟩ := List.mem_iff_getElem.1 hx
  rw [List.length_drop] at hi
  rw [List.getElem_drop]
  exact Bool.eq_false_iff.2 fun hp => by
    have := (h.holds_iff (n + i) (by omega)).1 hp
    omega

/-- The items of a reversed list up to its cut are those of the list behind its own cut. -/
theorem of_reverse (h : IsCut p xs.reverse n) : IsCut (fun x => !p x) xs (xs.length - n) := by
  have hle : n ≤ xs.length := by simpa using h.le_length
  refine ⟨by omega, fun i hi => ?_⟩
  -- The index of the same item in the reversed list.
  have hlt : xs.length - 1 - i < xs.reverse.length := by simp only [List.length_reverse]; omega
  have hmirror : xs.reverse[xs.length - 1 - i] = xs[i] := by
    rw [List.getElem_reverse]
    congr 1
    omega
  have hiff := h.holds_iff (xs.length - 1 - i) hlt
  rw [hmirror] at hiff
  rw [Bool.not_eq_true', Bool.eq_false_iff, Ne, hiff]
  omega

end IsCut

/-! ## Cuts of lists in ascending order -/

variable {r : α → α → Bool}

/-- An item cuts the list of earlier items into those that it is not less than and the others. -/
theorem exists_isCut_first (h : xs.Pairwise (NoLater r)) (y : α) :
    ∃ n, IsCut (fun x => !r y x) xs n :=
  exists_isCut <| h.imp fun hab => by simpa using mt (hab.1 y)

/-- An item cuts the list of later items into those that are less than it and the others. -/
theorem exists_isCut_second (h : xs.Pairwise (NoLater r)) (x : α) :
    ∃ n, IsCut (fun y => r y x) xs n :=
  exists_isCut <| h.imp fun hab => hab.2 x

/-! ## Searches -/

variable {m : Type → Type} [Monad m] [LawfulMonad m]

/-- Halving finds the cut if it is in the range. -/
theorem bisectM_eq (h : IsCut p xs n) {low high : Nat} (hhigh : high ≤ xs.length)
    (hlow : low ≤ n) (hle : n ≤ high) :
    bisectM (fun x => pure (p x)) xs low high hhigh = (pure n : m Nat) := by
  -- The range shrinks, and the cut stays in it.
  induction hsize : high - low using Nat.strongRecOn generalizing low high with
  | ind size ih =>
      rw [bisectM]
      split
      next hlt =>
        have hmid := h.holds_iff (low + (high - low) / 2) (by omega)
        rw [pure_bind]
        split
        next hp => exact ih _ (by omega) hhigh (by have := hmid.1 hp; omega) hle rfl
        next hp => exact ih _ (by omega) _ hlow (by have := mt hmid.2 hp; omega) rfl
      next hge =>
        obtain rfl : low = n := by omega
        rfl

/-- Galloping upwards finds a cut that is above the items seen. -/
theorem gallopUpM_eq (h : IsCut p xs n) {hint last stride : Nat} (hlast : hint + last < n) :
    gallopUpM (fun x => pure (p x)) xs hint last stride = (pure n : m Nat) := by
  -- What lies above the stride shrinks, and the items up to `last` stay below the cut.
  induction hsize : xs.length - (hint + stride) using Nat.strongRecOn
      generalizing last stride with
  | ind size ih =>
      rw [gallopUpM]
      split
      next hlt =>
        have hstride := h.holds_iff (hint + stride) hlt
        rw [pure_bind]
        split
        next hp => exact ih _ (by omega) (hstride.1 hp) rfl
        next hp => exact bisectM_eq h _ hlast (by have := mt hstride.2 hp; omega)
      next hge => exact bisectM_eq h _ hlast h.le_length

/-- Galloping downwards finds a cut that is below the items seen. -/
theorem gallopDownM_eq (h : IsCut p xs n) {hint last stride : Nat} (hhint : hint < xs.length)
    (hlast : n ≤ hint - last) :
    gallopDownM (fun x => pure (p x)) xs hint last stride hhint = (pure n : m Nat) := by
  induction hsize : hint + 1 - stride using Nat.strongRecOn generalizing last stride with
  | ind size ih =>
      rw [gallopDownM]
      split
      next hle =>
        have hstride := h.holds_iff (hint - stride) (by omega)
        rw [pure_bind]
        split
        next hp => exact bisectM_eq h _ (hstride.1 hp) hlast
        next hp => exact ih _ (by omega) (by have := mt hstride.2 hp; omega) rfl
      next hgt => exact bisectM_eq h _ (Nat.zero_le n) hlast

/-- Galloping finds the cut from every hint. -/
theorem gallopM_eq (h : IsCut p xs n) {hint : Nat} (hhint : hint ≤ xs.length - 1) :
    gallopM (fun x => pure (p x)) xs hint = (pure n : m Nat) := by
  rw [gallopM]
  split
  next hlt =>
    have hat := h.holds_iff hint hlt
    rw [pure_bind]
    split
    next hp => exact gallopUpM_eq h (hat.1 hp)
    next hp => exact gallopDownM_eq h hlt (by have := mt hat.2 hp; omega)
  next hge =>
    have hle := h.le_length
    obtain rfl : n = xs.length := by omega
    rfl

end StoryLint.Order
