import StoryLint.Proofs.Diagnostic.Location

/-!
# Offsets of a file

An offset has a line by the table of line starts, and a position by counting along the text.
`StoryFiles.lineIndex?_places` is the main result: the line by the table is the last one that
starts up to the offset, every offset from zero on has one, and within the text the two agree. The
position of an offset determines the offset: it stands as many characters behind the start of its
line as its column says.
-/

namespace StoryLint.StoryFiles

/-- Every offset of a known file has the line that the table of line starts gives it: the last one
that starts up to it, and none for an offset in front of the text. Within the text that line starts
where the position of the offset has its first column, so that line and column give the offset
back. -/
theorem lineIndex?_places {files : StoryFiles} {id : Int} {file : SourceFile}
    (hfile : files.codeMap.file? id = some file) :
    ∃ starts, files.codeMap.lineStarts? id = some starts ∧
      (∀ offset : Int, files.lineIndex? id offset = none ↔ offset < 0) ∧
      (∀ (offset : Int) (index : Nat), files.lineIndex? id offset = some index ↔
        IsGreatest {i : Nat | ∃ start : Nat, starts[i]? = some start ∧ (start : Int) ≤ offset}
          index) ∧
      (∀ offset ≤ file.text.length, ∃ index start stop : Nat,
        files.lineIndex? id offset = some index ∧
          files.lineRange? id index = some (start, stop) ∧
          Position.ofOffset file.text.toList offset =
            { line := index + 1, column := (offset : Int) - start + 1 }) ∧
      ∀ offset ≤ file.text.length, ∀ line column : Int,
        Position.ofOffset file.text.toList offset = { line, column } →
          ∃ start stop : Nat, files.codeMap.lineRange? id line = some (start, stop) ∧
            (start : Int) + column - 1 = offset := by
  have hplaces : ∀ offset ≤ file.text.length, ∃ index start stop : Nat,
      files.lineIndex? id offset = some index ∧
        files.lineRange? id index = some (start, stop) ∧
        Position.ofOffset file.text.toList offset =
          { line := index + 1, column := (offset : Int) - start + 1 } := by
    intro offset hoffset
    obtain ⟨index, start, stop, hindex, hrange, hle, hposition⟩ :=
      SourceFile.exists_ofOffset_eq hoffset
    refine ⟨index, start, stop, ?_, ?_, ?_⟩
    · rw [lineIndex?_of_file? hfile, hindex]
    · rw [lineRange?_of_file? hfile, hrange]
    · rw [hposition, Int.ofNat_sub hle]
  refine ⟨file.lineStarts, by rw [CodeMap.lineStarts?, hfile]; rfl, fun offset => ?_,
    fun offset index => ?_, hplaces, fun offset hoffset line column hposition => ?_⟩
  · rw [lineIndex?_of_file? hfile]
    exact SourceFile.lineIndex?_eq_none_iff
  · rw [lineIndex?_of_file? hfile]
    exact SourceFile.lineIndex?_eq_some_iff
  · obtain ⟨index, start, stop, -, hrange, hplace⟩ := hplaces offset hoffset
    rw [hposition, Position.mk.injEq] at hplace
    obtain ⟨rfl, rfl⟩ := hplace
    exact ⟨start, stop, hrange, by omega⟩

/-- Two files, the second one with an empty line and a newline at its end. -/
def emptyLineFiles : StoryFiles :=
  { codeMap := { files := [⟨"a", "x"⟩, ⟨"b", "x\n\ny\n"⟩], names_nodup := by decide } }

/-- In front of the text, on the newline of the empty line, at the end and behind it. -/
theorem lineIndex?_places_empty_line :
    emptyLineFiles.codeMap.file? 1 = some ⟨"b", "x\n\ny\n"⟩ ∧
      emptyLineFiles.lineIndex? 1 (-1) = none ∧ emptyLineFiles.lineIndex? 1 2 = some 1 ∧
      emptyLineFiles.lineIndex? 1 5 = some 3 ∧ emptyLineFiles.lineIndex? 1 9 = some 3 ∧
      ∃ start stop : Nat, emptyLineFiles.codeMap.lineRange? 1 4 = some (start, stop) ∧
        (start : Int) + 1 - 1 = 5 := by
  have hfile : emptyLineFiles.codeMap.file? 1 = some ⟨"b", "x\n\ny\n"⟩ := rfl
  have hstarts : emptyLineFiles.codeMap.lineStarts? 1 = some [0, 2, 3, 5] := by decide
  obtain ⟨starts, hfound, hnone, hsome, -, hback⟩ := lineIndex?_places hfile
  obtain rfl := Option.some.inj (hstarts.symm.trans hfound)
  have hempty : emptyLineFiles.lineIndex? 1 2 = some 1 := by
    refine (hsome 2 1).2 ⟨⟨2, rfl, by decide⟩, ?_⟩
    rintro i ⟨start, hstart, hle⟩
    rcases i with _ | _ | _ | _ | i <;> simp at hstart <;> omega
  have hlast : ∀ offset : Int, 5 ≤ offset → emptyLineFiles.lineIndex? 1 offset = some 3 := by
    intro offset hoffset
    refine (hsome offset 3).2 ⟨⟨5, rfl, hoffset⟩, ?_⟩
    rintro i ⟨start, hstart, -⟩
    have := (List.getElem?_eq_some_iff.1 hstart).1
    simp only [List.length_cons, List.length_nil] at this
    omega
  exact ⟨hfile, (hnone (-1)).2 (by decide), hempty, hlast 5 (by decide), hlast 9 (by decide),
    hback 5 (by decide) 4 1 (by decide)⟩

end StoryLint.StoryFiles
