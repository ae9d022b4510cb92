import StoryLint.Order.Search

/-!
# Merging two runs

Two runs that follow each other in a list are merged from the front or from the back, whichever
of them is the shorter. A merge goes item by item until one of the runs has won so often in a row
that it is worth galloping: then whole stretches are taken, found by `gallopM`, until the
stretches get short again. How often a run has to win is adjusted on the way and handed from one
merge to the next.

A merge from the back is one of the reversed runs. Both ends share `mergeFromM`, which has the
items of the two runs in the order in which they are taken from that end.
-/

namespace StoryLint.Order

/-- The end at which two runs are merged. -/
inductive End where
  | front
  | back
deriving DecidableEq, Repr

/-- How a merge goes on: item by item, the runs having won so often in a row, with a stretch of
the first run, or with a stretch of the second run, after one of the first. -/
inductive Pace where
  | single (won₁ won₂ : Nat)
  | gallop₁
  | gallop₂ (stretch₁ : Nat)
deriving DecidableEq, Repr

/-- The stretch that is long enough to go on galloping, and the number of wins in a row with which
galloping starts at first. -/
def galloping : Nat := 7

/-- The pace after the first run has won once more. -/
def Pace.won₁ (least won : Nat) : Pace :=
  if least ≤ won + 1 then .gallop₁ else .single (won + 1) 0

/-- The pace after the second run has won once more. -/
def Pace.won₂ (least won : Nat) : Pace :=
  if least ≤ won + 1 then .gallop₁ else .single 0 (won + 1)

/-- The pace after two stretches, and how often a run has to win then. It gets easier to gallop
while galloping goes on, and harder when it has been given up. -/
def Pace.galloped (least longest : Nat) : Pace × Nat :=
  if galloping ≤ longest then (.gallop₁, if 1 < least then least - 1 else least)
  else (.single 0 0, least + 1)

namespace End

variable {m : Type → Type} [Monad m] {α : Type} (less : α → α → m Bool)

/-- Whether nothing is left to compare. The last item of the first run is known to come after the
second run, and the first item of the second run to come before the first run. -/
def isOver (side : End) (xs ys : List α) : Bool :=
  match side with
  | front => xs.length ≤ 1 || ys.isEmpty
  | back => xs.isEmpty || ys.length ≤ 1

/-- What is left of the runs when nothing is left to compare. -/
def rest (side : End) (xs ys : List α) : List α :=
  match side with
  | front => ys ++ xs
  | back => xs ++ ys

/-- Whether an item of the second run is taken before one of the first run. -/
def secondFirstM (side : End) (x y : α) : m Bool :=
  match side with
  | front => less y x
  | back => do return !(← less y x)

/-- How many items of a run are taken before the place that is searched for. -/
def stretchM (side : End) (before : α → m Bool) (xs : List α) : m Nat :=
  match side with
  | front => gallopM before xs 0
  | back => do return xs.length - (← gallopM before xs.reverse (xs.length - 1))

end End

variable {m : Type → Type} [Monad m] {α : Type} (less : α → α → m Bool)

/-- Merge two runs from an end, and tell how often a run has to win in a row from now on. -/
def mergeFromM (side : End) (pace : Pace) (least : Nat) (xs ys : List α) : m (List α × Nat) :=
  match xs, ys with
  | x :: xs, y :: ys =>
      if side.isOver (x :: xs) (y :: ys) then return (side.rest (x :: xs) (y :: ys), least)
      else
        match pace with
        | .single won₁ won₂ => do
            if ← side.secondFirstM less x y then
              let (zs, least) ← mergeFromM side (.won₂ least won₂) least (x :: xs) ys
              return (y :: zs, least)
            else
              let (zs, least) ← mergeFromM side (.won₁ least won₁) least xs (y :: ys)
              return (x :: zs, least)
        | .gallop₁ => do
            let count ← side.stretchM (fun x => do return !(← less y x)) (x :: xs)
            let stretch := (x :: xs).take count
            let xs := (x :: xs).drop count
            if side.isOver xs (y :: ys) then return (stretch ++ side.rest xs (y :: ys), least)
            else
              let (zs, least) ← mergeFromM side (.gallop₂ count) least xs ys
              return (stretch ++ y :: zs, least)
        | .gallop₂ stretch₁ => do
            let count ← side.stretchM (fun y => less y x) (y :: ys)
            let stretch := (y :: ys).take count
            let ys := (y :: ys).drop count
            if side.isOver (x :: xs) ys then return (stretch ++ side.rest (x :: xs) ys, least)
            else if side.isOver xs ys then return (stretch ++ x :: side.rest xs ys, least)
            else
              let (pace, least) := Pace.galloped least (max stretch₁ count)
              let (zs, least) ← mergeFromM side pace least xs ys
              return (stretch ++ x :: zs, least)
  | xs, ys => return (side.rest xs ys, least)
termination_by xs.length + ys.length

/-- Merge two runs of which the first item of the second run comes before the first run, and the
last item of the first run after the second run. -/
def mergeEndM (side : End) (least : Nat) (xs ys : List α) : m (List α × Nat) :=
  match side with
  | .front =>
      match ys with
      | [] => return (xs, least)
      | y :: ys => do
          let (zs, least) ← mergeFromM less .front (.single 0 0) least xs ys
          return (y :: zs, least)
  | .back =>
      match xs.reverse with
      | [] => return (ys, least)
      | x :: xs => do
          let (zs, least) ← mergeFromM less .back (.single 0 0) least xs ys.reverse
          return ((x :: zs).reverse, least)

/-- Merge two runs. The items of the first run that come before the second run, and those of the
second run that come after the first run, stay where they are. -/
def mergeRunsM (least : Nat) (xs ys : List α) : m (List α × Nat) :=
  match ys with
  | [] => return (xs, least)
  | y :: _ => do
      let start ← gallopM (fun x => do return !(← less y x)) xs 0
      match (xs.drop start).getLast? with
      | none => return (xs ++ ys, least)
      | some x => do
          let stop ← gallopM (fun y => less y x) ys (ys.length - 1)
          let side : End := if xs.length - start ≤ stop then .front else .back
          let (zs, least) ← mergeEndM less side least (xs.drop start) (ys.take stop)
          return (xs.take start ++ zs ++ ys.drop stop, least)

end StoryLint.Order
