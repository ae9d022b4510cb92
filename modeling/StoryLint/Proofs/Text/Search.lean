import StoryLint.Text.Search
import Mathlib.Data.List.Infix

/-!
# What the first occurrence is

`splitFirst?_eq_some_iff` is the law of the search: the text before the cut is the shortest that
the mark can follow. A mark whose first character does not come again cannot overlap itself, so
it is found right behind every text in which it does not occur (`splitFirst?_append`).
-/

namespace StoryLint.Text

variable {mark s before after old new : List Char}

/-- A text that holds the mark is cut. -/
theorem splitFirst?_eq_none_iff : splitFirst? mark s = none ↔ ¬ mark <:+: s := by
  induction s with
  | nil =>
      simp only [splitFirst?, List.infix_nil]
      split <;> simp_all
  | cons c rest ih =>
      simp only [splitFirst?, List.infix_cons_iff, ← List.isPrefixOf_iff_prefix]
      split
      · simp_all
      · rename_i hmark
        rw [Option.map_eq_none_iff, ih]
        simp [hmark]

/-- No occurrence of the mark starts before the cut. -/
theorem length_le_of_splitFirst?_eq_some (h : splitFirst? mark s = some (before, after))
    {before' after' : List Char} (hs : s = before' ++ mark ++ after') :
    before.length ≤ before'.length := by
  induction s generalizing before before' with
  | nil =>
      simp only [splitFirst?] at h
      split at h <;> simp_all
  | cons c rest ih =>
      simp only [splitFirst?] at h
      split at h
      · simp_all
      · rename_i hmark
        obtain ⟨⟨b, a⟩, hrest, hcut⟩ := Option.map_eq_some_iff.1 h
        obtain ⟨rfl, rfl⟩ := Prod.mk.inj hcut
        cases before' with
        | nil =>
            refine (hmark (List.isPrefixOf_iff_prefix.2 ⟨after', ?_⟩)).elim
            simpa using hs.symm
        | cons d tail =>
            rw [List.cons_append, List.cons_append] at hs
            have := ih hrest (List.cons.inj hs).2
            simpa using this

/-- A text is cut at the occurrence of the mark that has the shortest text before it. -/
theorem splitFirst?_eq_some_iff :
    splitFirst? mark s = some (before, after) ↔
      s = before ++ mark ++ after ∧
        ∀ before' after', s = before' ++ mark ++ after' → before.length ≤ before'.length := by
  constructor
  · intro h
    exact ⟨eq_of_splitFirst?_eq_some h, fun _ _ => length_le_of_splitFirst?_eq_some h⟩
  · intro h
    obtain ⟨hs, hleast⟩ := h
    cases h : splitFirst? mark s with
    | none =>
        rw [splitFirst?_eq_none_iff] at h
        exact (h ⟨before, after, hs.symm⟩).elim
    | some cut =>
        obtain ⟨b, a⟩ := cut
        have heq := eq_of_splitFirst?_eq_some h
        -- The cut and the given occurrence start at the same place.
        have hlength : before.length = b.length :=
          Nat.le_antisymm (hleast b a heq) (length_le_of_splitFirst?_eq_some h hs)
        rw [hs, List.append_assoc, List.append_assoc] at heq
        obtain ⟨rfl, htail⟩ := List.append_inj heq hlength
        rw [List.append_cancel_left htail]

/-- The mark does not occur in the text before the cut. -/
theorem not_isInfix_of_splitFirst?_eq_some (hmark : mark ≠ [])
    (h : splitFirst? mark s = some (before, after)) : ¬ mark <:+: before := by
  intro hinfix
  obtain ⟨b, a, hb⟩ := hinfix
  have hs : s = b ++ mark ++ (a ++ mark ++ after) := by
    rw [eq_of_splitFirst?_eq_some h, ← hb]
    simp
  have hle := length_le_of_splitFirst?_eq_some h hs
  have hpos := List.length_pos_iff.2 hmark
  rw [← hb] at hle
  simp only [List.length_append] at hle
  omega

/-- A mark whose first character does not come again is found right behind a text in which it
does not occur. -/
theorem splitFirst?_append {c : Char} {tail : List Char} (hc : c ∉ tail)
    (h : ¬ (c :: tail) <:+: before) :
    splitFirst? (c :: tail) (before ++ c :: tail ++ after) = some (before, after) := by
  rw [splitFirst?_eq_some_iff]
  refine ⟨rfl, fun before' after' hs => Nat.not_lt.1 fun hlt => ?_⟩
  rw [List.append_assoc, List.append_assoc, List.append_eq_append_iff] at hs
  obtain ⟨w, hbefore', -⟩ | ⟨w, hbefore, htail⟩ := hs
  · rw [hbefore', List.length_append] at hlt
    omega
  -- `w` is what lies between the starts of the two occurrences.
  rw [List.append_eq_append_iff] at htail
  obtain ⟨v, hw, -⟩ | ⟨v, hoverlap, hv⟩ := htail
  · exact h ⟨before', v, by rw [hbefore, hw]; simp⟩
  · cases w with
    | nil =>
        rw [hbefore, List.append_nil] at hlt
        exact Nat.lt_irrefl _ hlt
    | cons d w =>
        cases v with
        | nil => exact h ⟨before', [], by rw [hbefore, hoverlap]; simp⟩
        | cons e v =>
            obtain ⟨rfl, -⟩ := List.cons.inj hv
            obtain ⟨-, rfl⟩ := List.cons.inj hoverlap
            simp at hc

/-- Replacing a text by itself changes nothing. -/
theorem replaceFirst_self : replaceFirst old old s = s := by
  unfold replaceFirst
  split
  · rename_i before after h
    exact (eq_of_splitFirst?_eq_some h).symm
  · rfl

/-- The occurrence with the shortest text before it is the one that is replaced. -/
theorem replaceFirst_append
    (h : ∀ before' after', before ++ old ++ after = before' ++ old ++ after' →
      before.length ≤ before'.length) :
    replaceFirst old new (before ++ old ++ after) = before ++ new ++ after := by
  rw [replaceFirst, splitFirst?_eq_some_iff.2 ⟨rfl, h⟩]

/-- A text that has an occurrence is changed at one that starts nowhere behind it. -/
theorem exists_replaceFirst_eq (new : List Char) (hs : s = before ++ old ++ after) :
    ∃ before' after', s = before' ++ old ++ after' ∧ before'.length ≤ before.length ∧
      replaceFirst old new s = before' ++ new ++ after' := by
  cases h : splitFirst? old s with
  | none =>
      rw [splitFirst?_eq_none_iff] at h
      exact (h ⟨before, after, hs.symm⟩).elim
  | some cut =>
      obtain ⟨b, a⟩ := cut
      refine ⟨b, a, eq_of_splitFirst?_eq_some h, length_le_of_splitFirst?_eq_some h hs, ?_⟩
      rw [replaceFirst, h]

/-- Putting part of a text in its place brings in no new character. -/
theorem replaceFirst_subset {old new : List Char} (h : new ⊆ old) (s : List Char) :
    replaceFirst old new s ⊆ s := by
  unfold replaceFirst
  split
  · rename_i before after hsplit
    rw [eq_of_splitFirst?_eq_some hsplit]
    exact List.append_subset.2 ⟨List.append_subset.2
      ⟨fun c hc => by simp [hc], fun c hc => by simp [h hc]⟩, fun c hc => by simp [hc]⟩
  · exact List.Subset.refl _

end StoryLint.Text
