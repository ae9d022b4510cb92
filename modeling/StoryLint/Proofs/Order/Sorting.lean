import StoryLint.Order.MergeSort
import StoryLint.Proofs.Order.Merging

/-!
# What sorting does

`arranged_sort`: sorting by a coherent comparison arranges the items as the comparison answers when
it is asked whether the later one of two items is less than the earlier one. The comparison need
not be a strict order, so this covers comparisons that hold both ways.

`Stacked` is what the loop keeps: the runs on the stack are arrangements of segments of the list
that follow each other, from the bottom of the stack to the top. Finding a run, pushing it and
merging runs keep it, whatever powers the boundaries have and however often a run has to win.
-/

namespace StoryLint.Order

variable {α : Type}

/-- The runs on a stack are arrangements of segments that follow each other and make up a list. -/
inductive Stacked (r : α → α → Bool) : List α → List (Pending α) → Prop where
  | nil : Stacked r [] []
  | push {items segment run stack} :
      Stacked r items stack → Arranged r segment run.items →
      Stacked r (items ++ segment) (run :: stack)

variable {less : α → α → Bool} {items segment run xs : List α} {stack rest : List (Pending α)}
variable {m : Type → Type} [Monad m] [LawfulMonad m]

/-! ## Runs -/

/-- Answers of one kind can be chained. -/
theorem Coherent.chain (h : Coherent less) {answer : Bool} {a b c : α}
    (hab : less b a = answer) (hbc : less c b = answer) : less c a = answer := by
  cases answer with
  | true => exact h.trans hbc hab
  | false => exact h.not_trans hbc hab

/-- The items that are counted are compared with all those before them as with the last one. -/
theorem countRunM_pairwise (h : Coherent less) (descending : Bool) (last : α) (xs : List α) :
    ∃ count, countRunM (fun a b => pure (less a b)) descending last xs = (pure count : m Nat) ∧
      (last :: xs.take count).Pairwise fun a b => less b a = descending := by
  induction xs generalizing last with
  | nil => exact ⟨0, rfl, by simp⟩
  | cons x xs ih =>
      simp only [countRunM, pure_bind]
      by_cases hx : less x last = descending
      · obtain ⟨count, hcount, hpairwise⟩ := ih x
        rw [if_pos hx, hcount, pure_bind]
        refine ⟨count + 1, rfl, List.pairwise_cons.2 ⟨fun b hb => ?_, hpairwise⟩⟩
        rcases List.mem_cons.1 hb with rfl | hb
        · exact hx
        · exact h.chain hx (List.rel_of_pairwise_cons hpairwise hb)
      · rw [if_neg hx]
        exact ⟨0, rfl, by simp⟩

/-- The run that is found at the front of a list is an arrangement of its items. -/
theorem nextRunM_arranged (h : Coherent less) (x : α) (xs : List α) :
    ∃ count descending,
      nextRunM (fun a b => pure (less a b)) x xs = (pure (count, descending) : m (Nat × Bool)) ∧
      Arranged less (x :: xs.take count) (turnRun descending (x :: xs.take count)) := by
  cases xs with
  | nil => exact ⟨0, false, rfl, .refl_of_pairwise (by simp)⟩
  | cons y xs =>
      -- The second item has decided the direction, and the others answer as it did.
      obtain ⟨count, hcount, hpairwise⟩ := countRunM_pairwise (m := m) h (less y x) y xs
      have hwhole : (x :: (y :: xs).take (count + 1)).Pairwise fun a b => less b a = less y x := by
        refine List.pairwise_cons.2 ⟨fun b hb => ?_, hpairwise⟩
        rcases List.mem_cons.1 hb with rfl | hb
        · rfl
        · exact h.chain rfl (List.rel_of_pairwise_cons hpairwise hb)
      refine ⟨count + 1, less y x, by simp [nextRunM, hcount], ?_⟩
      cases hyx : less y x with
      | true => exact .reverse_of_pairwise (hyx ▸ hwhole)
      | false => exact .refl_of_pairwise (hyx ▸ hwhole)

/-- Inserting an item into an arrangement arranges the list with the item behind it. -/
theorem insertM_arranged (h : Coherent less) (harranged : Arranged less items run) (x : α) :
    ∃ run', insertM (fun a b => pure (less a b)) run x = (pure run' : m (List α)) ∧
      Arranged less (items ++ [x]) run' := by
  obtain ⟨index, hcut⟩ := exists_isCut_first (harranged.pairwise_noLater h) x
  have hbisect := bisectM_eq (m := m) hcut (Nat.le_refl _) (Nat.zero_le index) hcut.le_length
  refine ⟨run.take index ++ x :: run.drop index, ?_, .snoc ?_ (fun y hy => ?_) (fun y hy => ?_)⟩
  · simp only [insertM, pure_bind, hbisect]
  · rwa [List.take_append_drop]
  · simpa using hcut.take y hy
  · simpa using hcut.drop y hy

/-- Items that are inserted into an arranged run one after the other are arranged with it. -/
theorem insertAllM_arranged (h : Coherent less) (harranged : Arranged less items run)
    (xs : List α) :
    ∃ run', xs.foldlM (insertM fun a b => pure (less a b)) run = (pure run' : m (List α)) ∧
      Arranged less (items ++ xs) run' := by
  induction xs generalizing items run with
  | nil => exact ⟨run, rfl, by simpa using harranged⟩
  | cons x xs ih =>
      obtain ⟨run', hinsert, harranged'⟩ := insertM_arranged (m := m) h harranged x
      obtain ⟨run'', hrest, harranged''⟩ := ih harranged'
      refine ⟨run'', by rw [List.foldlM_cons, hinsert, pure_bind, hrest], ?_⟩
      simpa using harranged''

/-! ## The stack -/

/-- Merging the two topmost runs keeps the stack. -/
theorem Stacked.merge_top {upper lower : Pending α} {zs : List α}
    (h : Stacked less items (upper :: lower :: rest))
    (hmerge : Merges less lower.items upper.items zs) :
    Stacked less items ({ lower with items := zs } :: rest) := by
  -- The two segments follow each other, so they make up one segment of the merged run.
  cases h with
  | push hlower hupper =>
      cases hlower with
      | push hrest hlower =>
          rw [List.append_assoc]
          exact .push hrest (hlower.append hupper hmerge)

/-- All runs on a stack are ascending. -/
theorem Stacked.pairwise_noLater (h : Stacked less items stack) (hr : Coherent less) :
    ∀ run ∈ stack, run.items.Pairwise (NoLater less) := by
  induction h with
  | nil => simp
  | push _ hrun ih =>
      intro run hmem
      rcases List.mem_cons.1 hmem with rfl | hmem
      · exact hrun.pairwise_noLater hr
      · exact ih run hmem

/-- The two topmost runs are merged and the stack is kept. -/
theorem mergeTop_stacked (h : Coherent less) {upper lower : Pending α} (least : Nat)
    (hstack : Stacked less items (upper :: lower :: rest)) :
    ∃ zs least', mergeRunsM (fun a b => pure (less a b)) least lower.items upper.items =
        (pure (zs, least') : m (List α × Nat)) ∧
      Stacked less items ({ lower with items := zs } :: rest) := by
  have hascending := hstack.pairwise_noLater h
  obtain ⟨zs, least', hrun, hmerge⟩ := mergeRunsM_merges (m := m) least
    (hascending lower (by simp)) (hascending upper (by simp))
  exact ⟨zs, least', hrun, hstack.merge_top hmerge⟩

/-- Merging down to a power keeps the stack. -/
theorem settleM_stacked (h : Coherent less) (power least : Nat)
    (hstack : Stacked less items stack) :
    ∃ stack' least', settleM (fun a b => pure (less a b)) power least stack =
        (pure (stack', least') : m (List (Pending α) × Nat)) ∧ Stacked less items stack' := by
  induction hsize : stack.length generalizing stack least with
  | zero =>
      obtain rfl := List.eq_nil_of_length_eq_zero hsize
      exact ⟨[], least, by simp [settleM], hstack⟩
  | succ size ih =>
      obtain ⟨upper, below, rfl⟩ := List.exists_cons_of_length_eq_add_one hsize
      cases below with
      | nil => exact ⟨[upper], least, by simp [settleM], hstack⟩
      | cons lower rest =>
          rw [settleM]
          split
          next =>
            obtain ⟨zs, least', hrun, hmerged⟩ := mergeTop_stacked (m := m) h least hstack
            rw [hrun, pure_bind]
            exact ih least' hmerged (by simpa using hsize)
          next => exact ⟨_, _, rfl, hstack⟩

/-- The power of the topmost run plays no part. -/
theorem Stacked.modifyHead (h : Stacked less items stack) (power : Nat) :
    Stacked less items (stack.modifyHead ({ · with power })) := by
  cases h with
  | nil => exact .nil
  | push hstack hrun => exact .push hstack hrun

/-- Pushing the next run adds its segment. -/
theorem pushM_stacked (h : Coherent less) (length least : Nat)
    (hstack : Stacked less items stack) (hrun : Arranged less segment run) :
    ∃ stack' least', pushM (fun a b => pure (less a b)) length least run stack =
        (pure (stack', least') : m (List (Pending α) × Nat)) ∧
      Stacked less (items ++ segment) stack' := by
  cases stack with
  | nil => exact ⟨_, _, rfl, .push hstack hrun⟩
  | cons top rest =>
      obtain ⟨stack', least', hsettle, hsettled⟩ :=
        settleM_stacked (m := m) h (top.powerBefore length run) least hstack
      simp only [pushM, hsettle, pure_bind]
      exact ⟨_, _, rfl, .push (hsettled.modifyHead _) hrun⟩

/-- Merging all runs arranges the whole list. -/
theorem collapseM_arranged (h : Coherent less) (least : Nat)
    (hstack : Stacked less items stack) :
    ∃ zs, collapseM (fun a b => pure (less a b)) least stack = (pure zs : m (List α)) ∧
      Arranged less items zs := by
  induction hsize : stack.length generalizing stack least with
  | zero =>
      obtain rfl := List.eq_nil_of_length_eq_zero hsize
      cases hstack
      exact ⟨[], by simp [collapseM], .nil⟩
  | succ size ih =>
      obtain ⟨top, below, rfl⟩ := List.exists_cons_of_length_eq_add_one hsize
      cases below with
      | nil =>
          cases hstack with
          | push hbelow harranged =>
              cases hbelow
              exact ⟨top.items, by simp [collapseM], harranged⟩
      | cons upper below =>
          cases below with
          | nil =>
              obtain ⟨zs, least', hrun, hmerged⟩ := mergeTop_stacked (m := m) h least hstack
              cases hmerged with
              | push hbelow harranged =>
                  cases hbelow
                  exact ⟨zs, by simp [collapseM, hrun], harranged⟩
          | cons lower rest =>
              rw [collapseM]
              split
              -- The run below the two topmost ones is the shorter one, or the topmost run is.
              next =>
                cases hstack with
                | push hstack htop =>
                    obtain ⟨zs, least', hrun, hmerged⟩ :=
                      mergeTop_stacked (m := m) h least hstack
                    rw [hrun, pure_bind]
                    exact ih least' (hmerged.push htop) (by simpa using hsize)
              next =>
                obtain ⟨zs, least', hrun, hmerged⟩ := mergeTop_stacked (m := m) h least hstack
                rw [hrun, pure_bind]
                exact ih least' hmerged (by simpa using hsize)

/-! ## The loop -/

/-- The loop arranges the segments on the stack together with the rest of the list. -/
theorem sortRunsM_arranged (h : Coherent less) (length short least : Nat)
    (hstack : Stacked less items stack) (xs : List α) :
    ∃ zs, sortRunsM (fun a b => pure (less a b)) length short least stack xs =
        (pure zs : m (List α)) ∧ Arranged less (items ++ xs) zs := by
  induction hsize : xs.length using Nat.strongRecOn generalizing xs items least stack with
  | ind size ih =>
      cases xs with
      | nil =>
          rw [sortRunsM, List.append_nil]
          exact collapseM_arranged h least hstack
      | cons x xs =>
          obtain ⟨count, descending, hnext, hfound⟩ := nextRunM_arranged (m := m) h x xs
          rw [sortRunsM, hnext, pure_bind]
          dsimp only
          generalize short - (turnRun descending (x :: xs.take count)).length = missing
          obtain ⟨run, hinsert, hrun⟩ :=
            insertAllM_arranged (m := m) h hfound ((xs.drop count).take missing)
          rw [hinsert, pure_bind]
          obtain ⟨stack', least', hpush, hstack'⟩ :=
            pushM_stacked (m := m) h length least hstack hrun
          rw [hpush, pure_bind]
          have hshorter : ((xs.drop count).drop missing).length < size := by
            simp only [List.length_drop, ← hsize, List.length_cons]
            omega
          obtain ⟨zs, hrest, harranged⟩ := ih _ hshorter least' hstack' _ rfl
          refine ⟨zs, hrest, ?_⟩
          simpa only [List.append_assoc, List.cons_append, List.take_append_drop] using harranged

/-- Sorting arranges a list, whatever monad the comparison is asked in. -/
theorem sortM_arranged (h : Coherent less) (items : List α) :
    ∃ zs, sortM (fun a b => pure (less a b)) items = (pure zs : m (List α)) ∧
      Arranged less items zs :=
  sortRunsM_arranged h _ _ _ .nil items

/-- Sorting by a coherent comparison arranges a list. -/
theorem arranged_sort (h : Coherent less) (items : List α) :
    Arranged less items (sort less items) := by
  obtain ⟨zs, hsort, harranged⟩ := sortM_arranged (m := Id) h items
  rw [sort, hsort]
  exact harranged

end StoryLint.Order
