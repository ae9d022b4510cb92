import Mathlib.Data.List.TakeWhile

/-!
# Numbers in texts

A number is written with digits only, so it ends where any other character comes and can be read
back from a longer text (`eq_of_toString_append`).
-/

namespace StoryLint.Text

variable {c : Char} {first second : Nat}

/-- A number is written in digits only. -/
theorem notMem_toString (hc : c.isDigit = false) (number : Nat) :
    c ∉ (toString number).toList := by
  rw [Nat.toString_eq_ofList_toDigits, String.toList_ofList]
  intro hmem
  have hdigit := Nat.isDigit_of_mem_toDigits (by decide) (by decide) hmem
  rw [hc] at hdigit
  cases hdigit

/-- Different numbers are written differently. -/
theorem eq_of_toString_eq (h : toString first = toString second) : first = second := by
  rw [Nat.toString_eq_ofList_toDigits, Nat.toString_eq_ofList_toDigits, String.ofList_inj] at h
  rw [← Nat.ofDigitChars_ten_toDigits (n := first), h, Nat.ofDigitChars_ten_toDigits]

/-- What stands in front of the first character that is no digit is the number. -/
theorem takeWhile_toString_append (hc : c.isDigit = false) (number : Nat) (rest : List Char) :
    ((toString number).toList ++ c :: rest).takeWhile (· ≠ c) = (toString number).toList := by
  have hdigits : ∀ d ∈ (toString number).toList, decide (d ≠ c) = true := by
    intro d hd
    refine decide_eq_true ?_
    rintro rfl
    exact notMem_toString hc number hd
  rw [List.takeWhile_append_of_pos hdigits]
  simp

/-- Two texts that are the same have the same number in front of a character that is no digit. -/
theorem eq_of_toString_append {rest rest' : List Char} (hc : c.isDigit = false)
    (h : (toString first).toList ++ c :: rest = (toString second).toList ++ c :: rest') :
    first = second := by
  have hdigits := congrArg (List.takeWhile (· ≠ c)) h
  rw [takeWhile_toString_append hc, takeWhile_toString_append hc, String.toList_inj] at hdigits
  exact eq_of_toString_eq hdigits

end StoryLint.Text
