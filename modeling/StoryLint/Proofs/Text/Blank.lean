import StoryLint.Text.Blank
import Mathlib.Data.List.DropRight

/-!
# What trimming leaves

A bare text has no blank at either end. Trimming makes a text bare (`bare_trim`) by taking blanks
off its ends (`exists_eq_append_trim`), and leaves a bare text alone (`trim_eq_self_iff`).
-/

namespace StoryLint.Text

variable {s : List Char}

/-- A text without a blank at either end. -/
structure Bare (s : List Char) : Prop where
  head : ∀ c ∈ s.head?, isBlank c = false
  last : ∀ c ∈ s.getLast?, isBlank c = false

/-- Dropping at the end, by the list library. -/
theorem dropTail_eq_rdropWhile (p : Char → Bool) (s : List Char) :
    dropTail p s = s.rdropWhile p := rfl

/-- What is left when the end is dropped is the front. -/
theorem dropTail_prefix (p : Char → Bool) (s : List Char) : dropTail p s <+: s := by
  rw [dropTail_eq_rdropWhile]
  exact List.rdropWhile_prefix _ _

/-- A trimmed text is the front of what starts at the first character that is not blank. -/
theorem trim_prefix_dropWhile (s : List Char) : trim s <+: s.dropWhile isBlank :=
  dropTail_prefix _ _

/-- A text is what trimming leaves of it, with blanks around. -/
theorem exists_eq_append_trim (s : List Char) :
    ∃ front back, s = front ++ trim s ++ back ∧ (∀ c ∈ front, isBlank c = true) ∧
      ∀ c ∈ back, isBlank c = true := by
  refine ⟨s.takeWhile isBlank, (s.dropWhile isBlank).rtakeWhile isBlank, ?_, ?_, ?_⟩
  · unfold trim
    rw [dropTail_eq_rdropWhile, List.append_assoc, List.rdropWhile_append_rtakeWhile,
      List.takeWhile_append_dropWhile]
  · exact fun c hc => List.mem_takeWhile_imp hc
  · exact fun c hc => List.mem_rtakeWhile_imp hc

/-- What trimming leaves stands in the text. -/
theorem trim_isInfix (s : List Char) : trim s <:+: s := by
  obtain ⟨front, back, hs, -, -⟩ := exists_eq_append_trim s
  exact ⟨front, back, hs.symm⟩

/-- A trimmed text has no blanks around it. -/
theorem bare_trim (s : List Char) : Bare (trim s) where
  head := by
    intro c hc
    obtain ⟨rest, hrest⟩ := trim_prefix_dropWhile s
    have hhead : (s.dropWhile isBlank).head? = some c := by
      rw [← hrest, List.head?_append, hc]
      rfl
    have := List.head?_dropWhile_not isBlank s
    rwa [hhead] at this
  last := by
    intro c hc
    unfold trim at hc
    rw [dropTail_eq_rdropWhile] at hc
    obtain ⟨hne, rfl⟩ := List.mem_getLast?_eq_getLast hc
    exact Bool.eq_false_iff.2 (List.rdropWhile_last_not _ _ hne)

/-- Exactly the bare texts are left alone. -/
theorem trim_eq_self_iff : trim s = s ↔ Bare s := by
  constructor
  · intro h
    rw [← h]
    exact bare_trim s
  · intro h
    have hfront : s.dropWhile isBlank = s := by
      cases s with
      | nil => rfl
      | cons c rest => exact List.dropWhile_cons_of_neg (by simp [h.head c rfl])
    unfold trim
    rw [hfront, dropTail_eq_rdropWhile, List.rdropWhile_eq_self_iff]
    intro hne
    simp [h.last _ (List.getLast?_eq_some_getLast hne)]

/-- Trimming twice is trimming once. -/
theorem trim_trim (s : List Char) : trim (trim s) = trim s :=
  trim_eq_self_iff.2 (bare_trim s)

end StoryLint.Text
