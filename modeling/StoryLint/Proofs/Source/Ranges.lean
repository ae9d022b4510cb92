import StoryLint.Proofs.Source.Lines

/-!
# The ranges of the lines

The line table of a file gives every line a range. `CodeMap.lineRange?_cuts` says that these ranges
cut the text of the file into its lines: nothing is lost between two lines, none overlaps another
one, and a newline stands at the end of every line but the last and nowhere else.

The ranges are read off the table of line starts (`rangesFrom`), from each start to the next one.
That they follow each other is a fact of any ascending table; what the lines look like is known from
`SourceFile.exists_isLine`.
-/

namespace StoryLint

/-- Ranges cut a text into its lines: they go from the start of the text to its end without a gap or
an overlap, and every line but the last ends with a newline, the only one that it has. -/
structure CutsLines (text : List Char) (ranges : List (Nat × Nat)) : Prop where
  length_eq : ranges.length = text.count '\n' + 1
  first_eq : ranges.head?.map (·.1) = some 0
  adjacent : ranges.IsChain fun line next => line.2 = next.1
  last_eq : ranges.getLast?.map (·.2) = some text.length
  flatten_eq : (ranges.map (slice text)).flatten = text
  line_eq : ∀ (index : Nat) range, ranges[index]? = some range → ∃ body, '\n' ∉ body ∧
    slice text range = if index < text.count '\n' then body ++ ['\n'] else body

/-! ## Ranges between starts -/

/-- The ranges from each start to the next one, the last range up to `stop`. -/
def rangesFrom (first : Nat) (starts : List Nat) (stop : Nat) : List (Nat × Nat) :=
  match starts with
  | [] => [(first, stop)]
  | next :: rest => (first, next) :: rangesFrom next rest stop

variable {first stop : Nat} {starts : List Nat} {text before body after : List Char}

/-- There is a range for each start. -/
@[simp] theorem length_rangesFrom : (rangesFrom first starts stop).length = starts.length + 1 := by
  induction starts generalizing first with
  | nil => rfl
  | cons next rest ih => simp [rangesFrom, ih]

/-- The first range begins at the first start. -/
theorem head?_rangesFrom : (rangesFrom first starts stop).head?.map (·.1) = some first := by
  cases starts <;> rfl

/-- A range goes from its start to the next one. -/
theorem getElem?_rangesFrom (index : Nat) :
    (rangesFrom first starts stop)[index]? = (first :: starts)[index]?.map fun start =>
      (start, (first :: starts)[index + 1]?.getD stop) := by
  induction starts generalizing first index with
  | nil => cases index <;> simp [rangesFrom]
  | cons next rest ih =>
      cases index with
      | zero => rfl
      | succ index => simpa [rangesFrom] using ih index

/-- Each range begins where the previous one ends. -/
theorem isChain_rangesFrom :
    (rangesFrom first starts stop).IsChain fun line next => line.2 = next.1 := by
  induction starts generalizing first with
  | nil => exact .singleton _
  | cons next rest ih =>
      cases rest with
      | nil => exact .cons_cons rfl (.singleton _)
      | cons other rest => exact .cons_cons rfl ih

/-- The last range goes up to the end. -/
theorem getLast?_rangesFrom : (rangesFrom first starts stop).getLast?.map (·.2) = some stop := by
  induction starts generalizing first with
  | nil => rfl
  | cons next rest ih =>
      have hsome : rangesFrom next rest stop ≠ [] :=
        List.ne_nil_of_length_eq_add_one length_rangesFrom
      rw [rangesFrom, List.getLast?_cons_of_ne_nil hsome, ih]

/-- Characters up to an offset and from there on. -/
theorem slice_append_slice {a b c : Nat} (hab : a ≤ b) (hbc : b ≤ c) :
    slice text (a, b) ++ slice text (b, c) = slice text (a, c) := by
  have hsplit : c - a = (b - a) + (c - b) := by omega
  have hdrop : (text.drop a).drop (b - a) = text.drop b := by
    rw [List.drop_drop, Nat.add_sub_cancel' hab]
  rw [slice, slice, slice, hsplit, List.take_add, hdrop]

/-- The ranges between ascending starts hold what stands between the first start and the end. -/
theorem flatten_rangesFrom (hstarts : (first :: starts).Pairwise (· < ·))
    (hstop : ∀ start ∈ first :: starts, start ≤ stop) :
    ((rangesFrom first starts stop).map (slice text)).flatten = slice text (first, stop) := by
  induction starts generalizing first with
  | nil => simp [rangesFrom]
  | cons next rest ih =>
      have hnext : first < next := List.rel_of_pairwise_cons hstarts List.mem_cons_self
      have hle : next ≤ stop := hstop next (by simp)
      -- The first range ends where the others start, so the two slices join up.
      rw [rangesFrom, List.map_cons, List.flatten_cons,
        ih hstarts.of_cons fun start hstart => hstop start (List.mem_cons_of_mem _ hstart),
        slice_append_slice (Nat.le_of_lt hnext) hle]

/-! ## Lines -/

/-- Behind the last line there is no newline, and behind any other one there is. -/
theorem IsLine.take_one_eq (h : IsLine text before body after) :
    after.take 1 = if before.count '\n' < text.count '\n' then ['\n'] else [] := by
  have hcount : text.count '\n' = before.count '\n' + after.count '\n' := by
    rw [h.text_eq, List.count_append, List.count_append, List.count_eq_zero.2 h.newline_notMem,
      Nat.zero_add]
  cases after with
  | nil =>
      rw [List.count_nil, Nat.add_zero] at hcount
      rw [hcount, if_neg (Nat.lt_irrefl _), List.take_nil]
  | cons c rest =>
      obtain rfl : c = '\n' := by simpa using h.after_eq
      rw [List.count_cons_self] at hcount
      rw [if_pos (by omega)]
      rfl

namespace SourceFile

variable {file : SourceFile}

/-- The ranges of the lines of a file. -/
def lineRanges (file : SourceFile) : List (Nat × Nat) :=
  rangesFrom 0 (startsFrom 0 file.text.toList) file.text.length

/-- The line table has these ranges, numbered from one, and no other ones. -/
theorem lineRange?_eq_getElem? (file : SourceFile) (line : Int) :
    file.lineRange? line = if line < 1 then none else file.lineRanges[(line - 1).toNat]? := by
  rw [lineRange?, lineRanges, getElem?_rangesFrom]
  rfl

/-- The ranges of the lines of a file cut its text. -/
theorem cutsLines (file : SourceFile) : CutsLines file.text.toList file.lineRanges where
  length_eq := by rw [lineRanges, length_rangesFrom, length_startsFrom]
  first_eq := head?_rangesFrom
  adjacent := isChain_rangesFrom
  last_eq := by rw [lineRanges, getLast?_rangesFrom, String.length_toList]
  flatten_eq := by
    have hstop : ∀ start ∈ file.lineStarts, start ≤ file.text.length := by
      intro start hstart
      rcases List.mem_cons.1 hstart with rfl | hstart
      · exact Nat.zero_le _
      · have hle := (mem_startsFrom_bounds hstart).2
        rwa [Nat.zero_add, String.length_toList] at hle
    rw [lineRanges, flatten_rangesFrom file.pairwise_lineStarts hstop, slice, List.drop_zero,
      Nat.sub_zero, ← String.length_toList, List.take_length]
  line_eq := by
    -- The line that starts there ends with a newline if not all newlines are in front of it.
    rintro index ⟨start, stop⟩ hrange
    have hline : file.lineRange? (index + 1 : Int) = some (start, stop) := by
      rw [lineRange?_eq_getElem?, if_neg (by omega), Int.add_sub_cancel, Int.toNat_natCast, hrange]
    obtain ⟨before, body, after, hisLine, rfl, rfl, rfl⟩ := exists_isLine hline
    refine ⟨body, hisLine.newline_notMem, ?_⟩
    rw [hisLine.slice_eq, hisLine.take_one_eq]
    split
    · rfl
    · exact List.append_nil body

end SourceFile

/-- The ranges that a code map gives the lines of a file cut its text into its lines: from the first
to the last they join up to the text, and only their ends are newlines. Line numbers go from one to
the number of newlines and one more; there is no range for any other number. -/
theorem CodeMap.lineRange?_cuts {map : CodeMap} {id : Int} {file : SourceFile}
    (hfile : map.file? id = some file) :
    ∃ ranges, CutsLines file.text.toList ranges ∧
      (∀ line : Int, map.lineRange? id line =
        if line < 1 then none else ranges[(line - 1).toNat]?) ∧
      ∀ line : Int, map.lineRange? id line = none ↔
        line < 1 ∨ file.text.toList.count '\n' + 1 < line := by
  have hrange : ∀ line : Int, map.lineRange? id line =
      if line < 1 then none else file.lineRanges[(line - 1).toNat]? := by
    intro line
    rw [lineRange?, hfile, Option.bind_some, SourceFile.lineRange?_eq_getElem?]
  refine ⟨file.lineRanges, file.cutsLines, hrange, fun line => ?_⟩
  have hlength := file.cutsLines.length_eq
  rw [hrange]
  split
  · exact iff_of_true rfl (.inl ‹_›)
  · rw [List.getElem?_eq_none_iff]
    omega

/-- A file with an empty line and a newline at its end, behind another one. -/
def openEndMap : CodeMap :=
  { files := [⟨"a", ""⟩, ⟨"b", "x\n\ny\n"⟩], names_nodup := by decide }

/-- The last line starts at the end of the text and is empty. -/
theorem CodeMap.lineRange?_cuts_open_end :
    openEndMap.file? 1 = some ⟨"b", "x\n\ny\n"⟩ ∧
      openEndMap.lineRange? 1 0 = none ∧ openEndMap.lineRange? 1 5 = none ∧
      ∃ ranges, CutsLines "x\n\ny\n".toList ranges ∧
        ranges[1]? = some (2, 3) ∧ ranges[3]? = some (5, 5) := by
  have hfile : openEndMap.file? 1 = some ⟨"b", "x\n\ny\n"⟩ := rfl
  have hsecond : openEndMap.lineRange? 1 2 = some (2, 3) := by decide
  have hfourth : openEndMap.lineRange? 1 4 = some (5, 5) := by decide
  obtain ⟨ranges, hcuts, hrange, hnone⟩ := lineRange?_cuts hfile
  exact ⟨hfile, (hnone 0).2 (by decide), (hnone 5).2 (by decide), ranges, hcuts,
    (hrange 2).symm.trans hsecond, (hrange 4).symm.trans hfourth⟩

end StoryLint
