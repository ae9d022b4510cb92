/-!
# First occurrences

`splitFirst? mark s` cuts `s` at the first occurrence of `mark`; `replaceFirst` is the edit that
follows from it. An empty mark occurs at the front of every text.
-/

namespace StoryLint.Text

/-- The parts of a text before and after the first occurrence of `mark`. -/
def splitFirst? (mark : List Char) : List Char → Option (List Char × List Char)
  | [] => if mark = [] then some ([], []) else none
  | c :: rest =>
      if mark.isPrefixOf (c :: rest) then some ([], (c :: rest).drop mark.length)
      else (splitFirst? mark rest).map fun (before, after) => (c :: before, after)

/-- Replace the first occurrence of `old`, if there is one, by `new`. -/
def replaceFirst (old new s : List Char) : List Char :=
  match splitFirst? old s with
  | some (before, after) => before ++ new ++ after
  | none => s

/-- What `splitFirst?` returns puts the text together again. -/
theorem eq_of_splitFirst?_eq_some {mark s before after : List Char}
    (h : splitFirst? mark s = some (before, after)) : s = before ++ mark ++ after := by
  induction s generalizing before with
  | nil =>
      simp only [splitFirst?] at h
      split at h
      · simp_all
      · simp at h
  | cons c rest ih =>
      simp only [splitFirst?] at h
      split at h
      next hmark =>
        obtain ⟨tail, htail⟩ := List.isPrefixOf_iff_prefix.1 hmark
        simp only [Option.some.injEq, Prod.mk.injEq] at h
        obtain ⟨rfl, rfl⟩ := h
        simp [← htail]
      next =>
        obtain ⟨⟨b, a⟩, hb, hpair⟩ := Option.map_eq_some_iff.1 h
        simp only [Prod.mk.injEq] at hpair
        obtain ⟨rfl, rfl⟩ := hpair
        simp [ih hb]

end StoryLint.Text
