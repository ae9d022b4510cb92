import StoryLint.Proofs.Text.Digits

/-!
# Lines of a text

A text that is written line by line has as many newlines as lines exactly if no line has a newline
of its own (`newlines_join_lines`), and splitting it at its newlines gives the lines back
(`lines_join_lines`).
-/

namespace StoryLint.Text

/-- The number of newlines in a text. -/
def newlines (text : String) : Nat :=
  text.toList.count '\n'

/-- The texts between newlines, and before the first and behind the last one. -/
def lines (text : String) : List String :=
  (text.toList.splitOn '\n').map String.ofList

variable {texts : List String} {text : String}

/-- A text has no newlines exactly if the newline is not in it. -/
theorem newlines_eq_zero_iff : newlines text = 0 ↔ '\n' ∉ text.toList :=
  List.count_eq_zero

/-- An empty text has no newlines. -/
@[simp] theorem newlines_empty : newlines "" = 0 := by
  decide

/-- The newlines of two texts add up. -/
@[simp] theorem newlines_append (first second : String) :
    newlines (first ++ second) = newlines first + newlines second := by
  simp [newlines]

/-- A literal reads as its characters, so that none of them has to be counted. -/
theorem newlines_literal {chars : List Char} (h : '\n' ∉ chars) :
    newlines (String.ofList chars) = 0 := by
  rwa [newlines_eq_zero_iff, String.toList_ofList]

/-- A natural number has no newlines. -/
theorem newlines_toString_nat (n : Nat) : newlines (toString n) = 0 :=
  newlines_eq_zero_iff.2 (notMem_toString (by decide) n)

/-- An integer has no newlines. -/
theorem newlines_toString_int (n : Int) : newlines (toString n) = 0 := by
  cases n with
  | ofNat n => exact newlines_toString_nat n
  | negSucc n =>
      have hsign : newlines "-" = 0 := by decide
      have htext : toString (Int.negSucc n) = "-" ++ toString (n + 1) := rfl
      rw [htext, newlines_append, hsign, newlines_toString_nat]

/-- Texts have no newlines together exactly if none of them has one. -/
theorem newlines_join_eq_zero_iff :
    newlines (String.join texts) = 0 ↔ ∀ text ∈ texts, '\n' ∉ text.toList := by
  simp [newlines_eq_zero_iff]

/-- Each line ends with a newline, and may have further ones. -/
theorem newlines_join_lines (texts : List String) :
    newlines (String.join (texts.map (· ++ "\n"))) =
      texts.length + newlines (String.join texts) := by
  have hend : newlines "\n" = 1 := by decide
  induction texts with
  | nil => decide
  | cons text rest ih =>
      simp only [List.map_cons, String.join_cons, newlines_append, hend, ih, List.length_cons]
      omega

/-- Lines without newlines of their own are found again, with nothing behind the last newline. -/
theorem lines_join_lines (h : ∀ text ∈ texts, '\n' ∉ text.toList) :
    lines (String.join (texts.map (· ++ "\n"))) = texts ++ [""] := by
  induction texts with
  | nil => decide
  | cons text rest ih =>
      have htext := h text List.mem_cons_self
      have hrest := ih fun other hother => h other (List.mem_cons_of_mem _ hother)
      have hend : "\n".toList = ['\n'] := rfl
      rw [lines] at hrest ⊢
      rw [List.map_cons, String.join_cons, String.toList_append, String.toList_append, hend,
        List.append_assoc, List.singleton_append, List.splitOn_append_cons_self_of_not_mem htext,
        List.map_cons, hrest, String.ofList_toList, List.cons_append]

end StoryLint.Text
