import StoryLint.Order.Search

/-!
# The runs of a list

A run is found at the front of a list: as many items as are ascending already, or as many as are
strictly descending, which are then turned round. A short run is lengthened by insertion.
-/

namespace StoryLint.Order

variable {m : Type → Type} [Monad m] {α : Type} (less : α → α → m Bool)

/-- How many items at the front of a list go on with a run, each asked whether it is less than the
one before it. -/
def countRunM (descending : Bool) (last : α) : List α → m Nat
  | [] => return 0
  | x :: rest => do
      if (← less x last) = descending then return (← countRunM descending x rest) + 1
      else return 0

/-- How many items behind the first one belong to its run, and whether the run is descending. The
second item decides the direction. -/
def nextRunM (x : α) : List α → m (Nat × Bool)
  | [] => return (0, false)
  | y :: rest => do
      let descending ← less y x
      return ((← countRunM less descending y rest) + 1, descending)

/-- A run in ascending order. -/
def turnRun (descending : Bool) (run : List α) : List α :=
  if descending then run.reverse else run

/-- Put an item into a run, behind the items that it is not less than. -/
def insertM (run : List α) (x : α) : m (List α) := do
  let index ← bisectM (fun y => do return !(← less x y)) run 0 run.length Nat.le.refl
  return run.take index ++ x :: run.drop index

/-- Halve a length until it is below 64, and count one if a bit was lost on the way. -/
def halve (lost n : Nat) : Nat :=
  if n < 64 then n + lost else halve (max lost (n % 2)) (n / 2)

/-- The length below which runs are lengthened: all of a list of fewer than 64 items, else
between 32 and 64, so that the runs divide the list evenly. -/
def leastRun (length : Nat) : Nat :=
  halve 0 length

end StoryLint.Order
