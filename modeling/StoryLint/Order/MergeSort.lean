import StoryLint.Order.Merge
import StoryLint.Order.Run

/-!
# Sorting by merging runs

`sortM less` sorts a list with a comparison that may have effects. It cuts the list into runs and
keeps them on a stack, the last run on top. The power of the boundary between two runs is its
depth in a nearly balanced tree of merges over the list; runs are merged as soon as a boundary
turns up that is less deep than the one between them, and all at the end. Only runs that follow
each other are merged, and every comparison asks whether an item is less than one that came before
it in the list. So equal items keep their order, and the comparison need not be symmetric to give
a definite result.
-/

namespace StoryLint.Order

/-- A run that waits to be merged: the index of its first item in the list, the power of the
boundary to the run above it, once there is one, and its items. -/
structure Pending (α : Type) where
  start : Nat
  power : Nat := 0
  items : List α
deriving Repr

/-- The power of a boundary: the first binary place in which the middles of the two runs differ, as
fractions of the list. The middles are given in half items, `low` before `high`. -/
def boundaryPower (length low high : Nat) : Nat :=
  if _ : low < high ∧ high < 2 * length then
    if length ≤ low then boundaryPower length (2 * (low - length)) (2 * (high - length)) + 1
    else if length ≤ high then 1
    else boundaryPower length (2 * low) (2 * high) + 1
  else 0
termination_by 2 * length - (high - low)

namespace Pending

variable {α : Type}

/-- The index behind the last item of a run. -/
def stop (run : Pending α) : Nat :=
  run.start + run.items.length

/-- The power of the boundary between a run and the items that follow it as the next run. -/
def powerBefore (length : Nat) (run : Pending α) (next : List α) : Nat :=
  boundaryPower length (run.start + run.stop) (2 * run.stop + next.length)

end Pending

variable {m : Type → Type} [Monad m] {α : Type} (less : α → α → m Bool)

/-- Merge the topmost runs while the boundary between them is deeper than `power`. -/
def settleM (power least : Nat) : List (Pending α) → m (List (Pending α) × Nat)
  | upper :: lower :: rest =>
      if power < lower.power then do
        let (items, least) ← mergeRunsM less least lower.items upper.items
        settleM power least ({ lower with items } :: rest)
      else return (upper :: lower :: rest, least)
  | stack => return (stack, least)
termination_by stack => stack.length

/-- Put the next run of a list onto the stack. -/
def pushM (length least : Nat) (run : List α) : List (Pending α) → m (List (Pending α) × Nat)
  | [] => return ([{ start := 0, items := run }], least)
  | top :: rest => do
      let power := top.powerBefore length run
      let (stack, least) ← settleM less power least (top :: rest)
      return ({ start := top.stop, items := run } :: stack.modifyHead ({ · with power }), least)

/-- Merge all runs on the stack, a short run below the two topmost ones before the topmost one. -/
def collapseM (least : Nat) : List (Pending α) → m (List α)
  | [] => return []
  | [run] => return run.items
  | [upper, lower] => do
      return (← mergeRunsM less least lower.items upper.items).1
  | top :: upper :: lower :: rest =>
      if lower.items.length < top.items.length then do
        let (items, least) ← mergeRunsM less least lower.items upper.items
        collapseM least (top :: { lower with items } :: rest)
      else do
        let (items, least) ← mergeRunsM less least upper.items top.items
        collapseM least ({ upper with items } :: lower :: rest)
termination_by stack => stack.length

/-- Put the runs of the rest of a list onto the stack and merge them all. Runs are lengthened to
`short` items if there are as many. -/
def sortRunsM (length short least : Nat) (stack : List (Pending α)) : List α → m (List α)
  | [] => collapseM less least stack
  | x :: rest => do
      let (count, descending) ← nextRunM less x rest
      let found := turnRun descending (x :: rest.take count)
      let behind := rest.drop count
      let missing := short - found.length
      let run ← (behind.take missing).foldlM (insertM less) found
      let (stack, least) ← pushM less length least run stack
      sortRunsM length short least stack (behind.drop missing)
termination_by items => items.length

/-- Sort a list. -/
def sortM (items : List α) : m (List α) :=
  sortRunsM less items.length (leastRun items.length) galloping [] items

/-- Sort a list by a comparison without effects. -/
def sort (less : α → α → Bool) (items : List α) : List α :=
  Id.run (sortM (fun a b => pure (less a b)) items)

end StoryLint.Order
