import StoryLint.Number.Rounding
import StoryLint.Text.Grapheme.Cluster

/-!
# Similarity of names

`Similarity.score` is the similarity of Jaro and Winkler between two texts: a number from zero to
one, where one stands for equal texts. The units compared are grapheme clusters. The formula is
evaluated in double precision, every operation rounded, so a score is a rational number and
scores are totally ordered.

`didYouMean` lists the candidates whose score is above a threshold, the most similar first.
-/

namespace StoryLint.Similarity

open Number (toDouble)

variable {α : Type} [DecidableEq α]

/-- Mark the first unused unit equal to `a` whose index lies between `low` and `high`; `index` is
that of the first unit of the list. -/
def claim? (a : α) (low high : Nat) (index : Nat) : List (α × Bool) → Option (List (α × Bool))
  | [] => none
  | (b, used) :: rest =>
      if low ≤ index && index ≤ high && !used && a = b then some ((b, true) :: rest)
      else (claim? a low high (index + 1) rest).map ((b, used) :: ·)

/-- The units of the first text that have a partner in the second, and the second text with the
partners marked. Every unit takes the first free partner that is at most `range` places away. -/
def partners (range : Nat) (index : Nat) : List α → List (α × Bool) → List α × List (α × Bool)
  | [], marked => ([], marked)
  | a :: rest, marked =>
      match claim? a (index - range) (index + range) 0 marked with
      | some marked' =>
          let (matched, last) := partners range (index + 1) rest marked'
          (a :: matched, last)
      | none => partners range (index + 1) rest marked

/-- The number of places in which two lists differ, as far as both go. -/
def mismatches (xs ys : List α) : Nat :=
  ((xs.zip ys).filter fun (x, y) => x ≠ y).length

/-- A quotient in double precision. -/
def quotient (a b : Rat) : Rat :=
  toDouble (a / b)

/-- The similarity of Jaro: the mean of the matched share of either text and of the share of
matches that are in order. -/
def jaro (xs ys : List α) : Rat :=
  let range := max xs.length ys.length / 2 - 1
  let (matched, marked) := partners range 0 xs (ys.map (·, false))
  let count := matched.length
  if count = 0 then 0
  else
    let swapped := mismatches matched ((marked.filter (·.2)).map (·.1)) / 2
    let m : Rat := count
    let shares := toDouble (quotient m xs.length + quotient m ys.length)
    quotient (toDouble (shares + quotient (m - swapped) m)) 3

/-- The length of the common beginning of two lists, at most `limit`. -/
def commonStart (limit : Nat) : List α → List α → Nat
  | x :: xs, y :: ys =>
      match limit with
      | 0 => 0
      | limit + 1 => if x = y then commonStart limit xs ys + 1 else 0
  | _, _ => 0

/-- The weight of one common unit at the beginning, in double precision. -/
def startWeight : Rat :=
  toDouble (1 / 10)

/-- The similarity above which a common beginning counts. -/
def boostThreshold : Rat :=
  toDouble (7 / 10)

/-- The similarity of Jaro and Winkler: texts that are similar already gain by each of up to four
common units at their beginning. -/
def jaroWinkler (xs ys : List α) : Rat :=
  if xs.isEmpty || ys.isEmpty then 0
  else
    let base := jaro xs ys
    let common := commonStart 4 xs ys
    if boostThreshold < base ∧ 0 < common then
      toDouble (base + toDouble (toDouble (common * startWeight) * toDouble (1 - base)))
    else base

/-- The similarity of two texts. -/
def score (a b : String) : Rat :=
  jaroWinkler (Text.Grapheme.clusters a.toList) (Text.Grapheme.clusters b.toList)

/-- The similarity above which a name is worth suggesting. -/
def threshold : Rat :=
  toDouble (8 / 10)

/-- The candidates that score above the threshold, with their scores, in the given order. -/
def scored (value : String) (candidates : List String) : List (Rat × String) :=
  (candidates.map fun name => (score value name, name)).filter fun (s, _) => threshold < s

/-- The candidates similar to a value, the most similar first; equal scores keep their order. -/
def didYouMean (value : String) (candidates : List String) : List String :=
  ((scored value candidates).mergeSort fun a b => b.1 ≤ a.1).map (·.2)

/-- The note for a dead link: the passage name most similar to its target. There is none if no
passage names are known or no name is similar. -/
def deadLinkNote? (target : String) (names : Option (List String)) : Option String :=
  names.bind fun known =>
    (didYouMean target known).head?.map fun name =>
      "Found passage with similar name: \"" ++ name ++ "\""

end StoryLint.Similarity
