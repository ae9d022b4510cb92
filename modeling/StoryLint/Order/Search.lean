/-!
# Searching in a run

A run is a list in ascending order. `before` says of an item of a run whether it stands before
the place that is searched for, so it holds of the items up to some index and of none from that
index on. `gallopM` finds the index, starting the search at a hint: it goes away from the hint in
strides that double, and then halves the last stride by `bisectM`. Only the items that are looked
at are asked about.
-/

namespace StoryLint.Order

variable {m : Type → Type} [Monad m] {α : Type} (before : α → m Bool)

/-- Find the index by halving the range from `low` to `high`. -/
def bisectM (xs : List α) (low high : Nat) (h : high ≤ xs.length) : m Nat :=
  if _ : low < high then do
    if ← before xs[low + (high - low) / 2] then
      bisectM xs (low + (high - low) / 2 + 1) high h
    else bisectM xs low (low + (high - low) / 2) (by omega)
  else return low
termination_by high - low

/-- Search above the hint, the item `last` places above it being known to stand before. -/
def gallopUpM (xs : List α) (hint last stride : Nat) : m Nat :=
  if _ : hint + stride < xs.length then do
    if ← before xs[hint + stride] then gallopUpM xs hint stride (2 * stride + 1)
    else bisectM before xs (hint + last + 1) (hint + stride) (by omega)
  else bisectM before xs (hint + last + 1) xs.length (Nat.le_refl _)
termination_by xs.length - (hint + stride)

/-- Search below the hint, the item `last` places below it being known not to stand before. -/
def gallopDownM (xs : List α) (hint last stride : Nat) (h : hint < xs.length) : m Nat :=
  if _ : stride ≤ hint then do
    if ← before xs[hint - stride] then
      bisectM before xs (hint - stride + 1) (hint - last) (by omega)
    else gallopDownM xs hint stride (2 * stride + 1) h
  else bisectM before xs 0 (hint - last) (by omega)
termination_by hint + 1 - stride

/-- Find the index, starting at a hint. -/
def gallopM (xs : List α) (hint : Nat) : m Nat :=
  if h : hint < xs.length then do
    if ← before xs[hint] then gallopUpM before xs hint 0 1
    else gallopDownM before xs hint 0 1 h
  else return xs.length

end StoryLint.Order
