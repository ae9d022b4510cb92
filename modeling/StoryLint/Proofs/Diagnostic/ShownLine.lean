import StoryLint.Proofs.Diagnostic.Location
import StoryLint.Proofs.Source.Lines
import StoryLint.Proofs.Text.Blank

/-!
# Lines as they are shown

A line of a file is shown without the characters that end it. `ShowsLine` says which line of a text
that is, without the table of line starts; `exists_showsLine` finds it behind the text of a line.
-/

namespace StoryLint

/-- A line of a text as it is shown: `before` is in front of the line, and `shown` are its
characters without the carriage returns at its end. -/
structure ShowsLine (text : List Char) (index : Nat) (before shown : List Char) : Prop where
  isLine : ∃ ending after, IsLine text before (shown ++ ending) after ∧ ∀ c ∈ ending, c = '\r'
  last_ne : shown.getLast? ≠ some '\r'
  count_eq : before.count '\n' = index

namespace ShowsLine

variable {text before shown : List Char} {index : Nat}

/-- An offset in the text of a line, or right behind it, is on that line. -/
theorem lineOf_add (h : ShowsLine text index before shown) {column : Nat}
    (hcolumn : column ≤ shown.length) : lineOf text (before.length + column) = index := by
  obtain ⟨ending, after, hline, -⟩ := h.isLine
  rw [hline.lineOf_add (by rw [List.length_append]; omega), h.count_eq]

/-- An offset in front of a line is on an earlier one. -/
theorem lineOf_lt (h : ShowsLine text index before shown) {offset : Nat}
    (hoffset : offset < before.length) : lineOf text offset < index := by
  obtain ⟨ending, after, hline, -⟩ := h.isLine
  rw [← h.count_eq]
  exact hline.lineOf_lt hoffset

/-- A line starts behind the text in front of it. -/
theorem lineOf_length (h : ShowsLine text index before shown) :
    lineOf text before.length = index := by
  simpa using h.lineOf_add (Nat.zero_le _)

/-- An offset of an earlier line is in front of every character that is shown. -/
theorem lt_of_lineOf_lt (h : ShowsLine text index before shown) (offset : Nat)
    (hoffset : lineOf text offset < index) : offset < before.length := by
  by_contra hle
  have hmono := lineOf_mono text (Nat.le_of_not_lt hle)
  rw [h.lineOf_length] at hmono
  omega

/-- An offset of a later line is behind every character that is shown. -/
theorem lt_of_lt_lineOf (h : ShowsLine text index before shown) (offset : Nat) {column : Nat}
    (hoffset : index < lineOf text offset) (hcolumn : column ≤ shown.length) :
    before.length + column < offset := by
  by_contra hle
  have hmono := lineOf_mono text (Nat.le_of_not_lt hle)
  rw [h.lineOf_add hcolumn] at hmono
  omega

/-- An offset of a line or a later one is not in front of the line. -/
theorem le_of_le_lineOf (h : ShowsLine text index before shown) (offset : Nat)
    (hoffset : index ≤ lineOf text offset) : before.length ≤ offset := by
  by_contra hlt
  have := h.lineOf_lt (Nat.lt_of_not_le hlt)
  omega

end ShowsLine

/-! ## Lines of a file -/

/-- The newline behind a line is not shown. -/
theorem Text.trimLineEnd_append_take_one {body after : List Char}
    (hafter : after = [] ∨ after.head? = some '\n') :
    trimLineEnd (body ++ after.take 1) = trimLineEnd body := by
  cases after with
  | nil => rw [List.take_nil, List.append_nil]
  | cons c rest =>
      obtain rfl : c = '\n' := by simpa using hafter
      unfold trimLineEnd
      rw [dropTail_eq_rdropWhile, dropTail_eq_rdropWhile]
      exact List.rdropWhile_concat_pos _ _ _ rfl

/-- From a line without its newline, carriage returns are cut off. -/
theorem Text.exists_eq_trimLineEnd_append {body : List Char} (hbody : '\n' ∉ body) :
    ∃ ending, body = trimLineEnd body ++ ending ∧ ∀ c ∈ ending, c = '\r' := by
  refine ⟨body.rtakeWhile isLineEnd, ?_, fun c hc => ?_⟩
  · unfold trimLineEnd
    rw [dropTail_eq_rdropWhile, List.rdropWhile_append_rtakeWhile]
  · have hend : isLineEnd c = true := List.mem_rtakeWhile_imp hc
    have hmem : c ∈ body := (List.rtakeWhile_suffix _ _).subset hc
    have hne : c ≠ '\n' := fun heq => hbody (heq ▸ hmem)
    simpa [isLineEnd, hne] using hend

/-- All of them are cut off. -/
theorem Text.getLast?_trimLineEnd_ne (body : List Char) :
    (trimLineEnd body).getLast? ≠ some '\r' := by
  intro hlast
  unfold trimLineEnd at hlast
  rw [dropTail_eq_rdropWhile] at hlast
  obtain ⟨hne, hr⟩ := List.mem_getLast?_eq_getLast hlast
  exact List.rdropWhile_last_not _ _ hne (hr ▸ rfl)

/-- The text of a line is the line as it is shown. -/
theorem exists_showsLine {files : StoryFiles} {file : SourceFile} {id : Int} {index : Nat}
    {text : String} (hfile : files.codeMap.file? id = some file)
    (h : Snippet.lineText? files id file.text.toList index = some text) :
    ∃ before shown stop, text = String.ofList shown ∧
      ShowsLine file.text.toList index before shown ∧
      file.lineRange? (index + 1 : Int) = some (before.length, stop) := by
  rw [Snippet.lineText?, StoryFiles.lineRange?_of_file? hfile, Option.map_eq_some_iff] at h
  obtain ⟨⟨start, stop⟩, hrange, rfl⟩ := h
  obtain ⟨before, body, after, hline, hcount, rfl, rfl⟩ := SourceFile.exists_isLine hrange
  have hbody : (file.text.toList.drop before.length).take
      (before.length + body.length + (after.take 1).length - before.length) =
        body ++ after.take 1 :=
    hline.slice_eq
  obtain ⟨ending, htrimmed, hending⟩ := Text.exists_eq_trimLineEnd_append hline.newline_notMem
  rw [htrimmed] at hline
  exact ⟨before, Text.trimLineEnd body, _,
    by simp only [hbody, Text.trimLineEnd_append_take_one hline.after_eq],
    ⟨⟨ending, after, hline, hending⟩, Text.getLast?_trimLineEnd_ne body, hcount⟩, hrange⟩

end StoryLint
