import StoryLint.Proofs.Diagnostic.Underline
import StoryLint.Proofs.Text.Digits
import Mathlib.Data.Nat.Digits.Defs

/-!
# The gutter

Every row of a block but the location rows has a bar behind the gutter.
`Diagnostic.bars_aligned_iff` is the main result. The gutter is wide enough for all line numbers, so
the bars of the other rows stand in one column; the dots for lines that are left out are three wide,
and with line numbers of one digit only the gutter is narrower than that. So the bars of a block
stand in one column exactly if no label spans more than two lines, or some label reaches line ten.
-/

namespace StoryLint

/-- The column of the first bar of a line of output. -/
def barColumn (line : String) : Option Nat :=
  line.toList.findIdx? (· = '|')

/-- The first bar of a line, with no bar in front of it. -/
theorem barColumn_eq {line : String} {front rest : List Char}
    (hline : line.toList = front ++ ' ' :: '|' :: rest) (hfront : '|' ∉ front) :
    barColumn line = some (front.length + 1) := by
  have hnone : front.findIdx? (fun c => decide (c = '|')) = none := by
    rw [List.findIdx?_eq_none_iff]
    intro c hc
    exact decide_eq_false fun heq => hfront (heq ▸ hc)
  rw [barColumn, hline, List.findIdx?_append, hnone]
  simp [List.findIdx?_cons, Nat.add_comm]

/-- The number of digits of a number. -/
theorem length_toString_le_iff {number width : Nat} (hwidth : 0 < width) :
    (toString number).length ≤ width ↔ number < 10 ^ width := by
  rw [Nat.toString_eq_ofList_toDigits, String.length_ofList,
    Nat.length_toDigits_le_iff (by decide) hwidth]

/-- Spaces, character by character. -/
@[simp] theorem toList_spaces (width : Nat) :
    (spaces width).toList = List.replicate width ' ' := by
  rw [spaces, String.toList_ofList]

/-- A padded text, character by character. -/
@[simp] theorem toList_padLeft (width : Nat) (text : String) :
    (padLeft width text).toList = List.replicate (width - text.length) ' ' ++ text.toList := by
  rw [padLeft, String.toList_append, String.toList_ofList]

namespace Row

/-- Whether a row has a bar behind the gutter. -/
def isGutter : Row → Bool
  | location _ _ _ _ => false
  | bar | source _ _ | ellipsis | marker _ _ _ _ => true

/-- The bar of a row stands behind the gutter, and behind the dots if these are wider. -/
theorem barColumn_text {gutter : Nat} {row : Row} (hrow : row.isGutter = true)
    (hnumber : ∀ number line, row = .source number line → (toString number).length ≤ gutter) :
    barColumn (row.text gutter) =
      some ((if row = .ellipsis then max gutter 3 else gutter) + 1) := by
  -- For each kind of row: the text in front of its first bar, whose length is the column.
  have hspaces : ∀ width, '|' ∉ List.replicate width ' ' := fun width hmem =>
    absurd (List.eq_of_mem_replicate hmem) (by decide)
  cases row with
  | location style fileName line column => cases hrow
  | bar =>
      have hline : (bar.text gutter).toList = List.replicate gutter ' ' ++ ' ' :: '|' :: [] := by
        simp
      rw [barColumn_eq hline (hspaces gutter), List.length_replicate]
      simp
  | source number line =>
      have hline : ((source number line).text gutter).toList =
          (List.replicate (gutter - (toString number).length) ' ' ++ (toString number).toList) ++
            ' ' :: '|' :: ' ' :: line.toList := by
        simp
      have hlength := hnumber number line rfl
      rw [barColumn_eq hline (by
          rw [List.mem_append, not_or]
          exact ⟨hspaces _, Text.notMem_toString (by decide) number⟩),
        List.length_append, List.length_replicate, String.length_toList,
        Nat.sub_add_cancel hlength]
      simp
  | ellipsis =>
      have hdots : "...".length = 3 := by decide
      have hline : (ellipsis.text gutter).toList =
          (List.replicate (gutter - 3) ' ' ++ ['.', '.', '.']) ++ ' ' :: '|' :: [] := by
        simp [hdots]
      have hlength : gutter - 3 + 3 = max gutter 3 := by omega
      rw [barColumn_eq hline (by
          rw [List.mem_append, not_or]
          exact ⟨hspaces _, by decide⟩),
        List.length_append, List.length_replicate]
      simp [hlength]
  | marker style column width message =>
      have hline : ((marker style column width message).text gutter).toList =
          List.replicate gutter ' ' ++ ' ' :: '|' :: ' ' :: (List.replicate column ' ' ++
            (List.replicate width style.mark ++ (remark message).toList)) := by
        simp
      rw [barColumn_eq hline (hspaces gutter), List.length_replicate]
      simp

end Row

/-! ## Blocks -/

/-- What a maximum is at least, some item is at least. -/
theorem le_foldl_max_iff {least start : Nat} {items : List Nat} :
    least ≤ items.foldl max start ↔ least ≤ start ∨ ∃ item ∈ items, least ≤ item := by
  induction items generalizing start with
  | nil => simp
  | cons item rest ih =>
      rw [List.foldl_cons, ih, le_max_iff]
      simp [or_assoc]

namespace Snippet

variable {snippet : Snippet} {snippets : List Snippet} {number width : Nat} {line : String}
  {current : Option String}

/-- Lines are left out if a snippet has more than two. -/
theorem ellipsis_mem_lineRows_iff :
    Row.ellipsis ∈ snippet.lineRows ↔ 2 < snippet.lines.length := by
  match h : snippet.lines with
  | [] => simp [lineRows, shown, h]
  | [first] => simp [lineRows_of_single h, linePair]
  | [first, last] => simp [lineRows_of_pair h, linePair]
  | first :: second :: third :: rest =>
      obtain ⟨between, last, hlast⟩ : ∃ between last, second :: third :: rest = between ++ [last] :=
        ⟨_, _, (List.dropLast_concat_getLast (List.cons_ne_nil _ _)).symm⟩
      have hbetween : between ≠ [] := by
        rintro rfl
        simp at hlast
      rw [hlast] at h
      simp [lineRows_of_long h hbetween]

/-- The number of a row is that of a line of the snippet. -/
theorem number_le_of_mem_lineRows (h : Row.source number line ∈ snippet.lineRows) :
    number ≤ snippet.firstLine + snippet.lines.length := by
  simp only [lineRows, List.mem_flatMap] at h
  obtain ⟨⟨shown, place⟩, hshown, h⟩ := h
  have hmem := List.fst_mem_of_mem_zipIdx hshown
  simp only [Snippet.shown, List.mem_map, List.mem_filter] at hmem
  obtain ⟨⟨text, index⟩, ⟨hindex, -⟩, rfl⟩ := hmem
  have hlt := (List.mem_zipIdx' hindex).1
  have hnumber : number = snippet.firstLine + index + 1 := by
    split at h <;> simp_all [shownLine]
  omega

/-- Rows of a block are location rows, bars, and rows of the lines of a snippet. -/
theorem mem_rows {row : Row} (hrow : row.isGutter = true) (hbar : row ≠ .bar) :
    row ∈ rows current snippets ↔ ∃ snippet ∈ snippets, row ∈ snippet.lineRows := by
  induction snippets generalizing current with
  | nil => simp [rows]
  | cons snippet rest ih =>
      have hlocation : row ∉ (if current ≠ some snippet.fileName ∨
          snippet.label.style = .primary then [snippet.locationRow] else []) := by
        intro hmem
        split at hmem
        · rw [List.mem_singleton.1 hmem] at hrow
          cases hrow
        · cases hmem
      simp only [rows, List.mem_append, List.mem_cons, ih, hbar, hlocation, false_or,
        exists_eq_or_imp]

/-- The gutter is wider than `least` if a number has that many digits. -/
theorem lt_gutterWidth_iff {least : Nat} (hleast : 0 < least) :
    least < gutterWidth snippets ↔
      ∃ snippet ∈ snippets, least ≤ (toString (snippet.lastLine + 1)).length := by
  have hzero : ¬ least ≤ 0 := Nat.not_le_of_lt hleast
  simp only [gutterWidth, Nat.lt_succ_iff, le_foldl_max_iff, hzero, false_or, List.mem_map,
    exists_exists_and_eq_and]

/-- The gutter holds every line number up to that of the last line of a snippet. -/
theorem length_toString_le_gutterWidth (h : snippet ∈ snippets)
    (hnumber : number ≤ snippet.lastLine + 1) :
    (toString number).length ≤ gutterWidth snippets := by
  have hpositive : 0 < (toString (snippet.lastLine + 1)).length := by
    rw [Nat.toString_eq_ofList_toDigits, String.length_ofList]
    exact Nat.length_toDigits_pos
  have hwidth := (lt_gutterWidth_iff hpositive).2 ⟨snippet, h, Nat.le_refl _⟩
  have hlast := (length_toString_le_iff hpositive).1 (Nat.le_refl _)
  have hlength := (length_toString_le_iff hpositive).2 (Nat.lt_of_le_of_lt hnumber hlast)
  omega

/-- The gutter is as wide as the dots if a line number has two digits. -/
theorem three_le_gutterWidth_iff :
    3 ≤ gutterWidth snippets ↔ ∃ snippet ∈ snippets, 9 ≤ snippet.lastLine := by
  have hdigits : ∀ last : Nat, 2 ≤ (toString (last + 1)).length ↔ 9 ≤ last := by
    intro last
    have hone : (toString (last + 1)).length ≤ 1 ↔ last + 1 < 10 ^ 1 :=
      length_toString_le_iff Nat.one_pos
    omega
  simp only [← hdigits]
  exact lt_gutterWidth_iff Nat.two_pos

end Snippet

/-! ## Labels -/

namespace Label

/-- A label lies in a file if its range is a range of the file's text. -/
structure LiesIn (label : Label) (file : SourceFile) : Prop where
  start_nonneg : 0 ≤ label.start
  start_le_stop : label.start ≤ label.stop
  stop_le_length : label.stop ≤ file.text.length

/-- The line of the first character of a label, or of its place if its range is empty. -/
def firstLine (label : Label) (file : SourceFile) : Nat :=
  lineOf file.text.toList label.start.toNat

/-- The line of the last character of a label, or of its place if its range is empty. -/
def lastLine (label : Label) (file : SourceFile) : Nat :=
  lineOf file.text.toList (max label.start (label.stop - 1)).toNat

/-- A label that lies in its file has a snippet with the lines from its first to its last. -/
theorem LiesIn.exists_snippet {files : StoryFiles} {file : SourceFile} {label : Label}
    (h : label.LiesIn file) (hfile : files.codeMap.file? label.fileId = some file) :
    ∃ snippet, Snippet.resolve? files label = some snippet ∧
      snippet.firstLine = label.firstLine file ∧ snippet.lastLine = label.lastLine file ∧
      snippet.firstLine + snippet.lines.length = snippet.lastLine + 1 := by
  obtain ⟨snippet, hresolve, rfl, hrepresents⟩ := Snippet.exists_resolve?_represents label hfile
    h.start_nonneg h.start_le_stop h.stop_le_length
  have hle := hrepresents.firstLine_le_lastLine
  have hlength := hrepresents.length_lines
  exact ⟨snippet, hresolve, hrepresents.firstLine_eq.symm, hrepresents.lastLine_eq.symm, by omega⟩

end Label

namespace Diagnostic

variable {files : StoryFiles} {d : Diagnostic} {row : Row} {snippet : Snippet}

/-- Every label of a diagnostic lies in its file. -/
def LabelsLieIn (d : Diagnostic) (files : StoryFiles) : Prop :=
  ∀ label ∈ d.labels, ∃ file, files.codeMap.file? label.fileId = some file ∧ label.LiesIn file

/-- The bars of a block stand in one column. -/
def BarsAligned (d : Diagnostic) (files : StoryFiles) : Prop :=
  ∃ column, ∀ row ∈ d.block files, row.isGutter = true →
    barColumn (row.text (Snippet.gutterWidth (d.snippets files))) = some column

namespace LabelsLieIn

variable (hlabels : d.LabelsLieIn files)
include hlabels

/-- The snippets are on the lines of the labels. -/
theorem exists_mem_snippets_iff {p : Nat → Nat → Prop} :
    (∃ snippet ∈ d.snippets files, p snippet.firstLine snippet.lastLine) ↔
      ∃ label ∈ d.labels, ∃ file, files.codeMap.file? label.fileId = some file ∧
        p (label.firstLine file) (label.lastLine file) := by
  simp only [snippets, List.mem_filterMap]
  constructor
  · rintro ⟨snippet, ⟨label, hlabel, hresolve⟩, hp⟩
    obtain ⟨file, hfile, hlies⟩ := hlabels label hlabel
    obtain ⟨other, hother, hfirst, hlast, -⟩ := hlies.exists_snippet hfile
    obtain rfl := Option.some.inj (hresolve.symm.trans hother)
    exact ⟨label, hlabel, file, hfile, hfirst ▸ hlast ▸ hp⟩
  · rintro ⟨label, hlabel, file, hfile, hp⟩
    obtain ⟨other, hother, hlies⟩ := hlabels label hlabel
    obtain rfl := Option.some.inj (hfile.symm.trans hother)
    obtain ⟨snippet, hresolve, hfirst, hlast, -⟩ := hlies.exists_snippet hfile
    exact ⟨snippet, ⟨label, hlabel, hresolve⟩, hfirst ▸ hlast ▸ hp⟩

/-- A snippet of a diagnostic has one text for each of its lines. -/
theorem lastLine_of_mem_snippets (h : snippet ∈ d.snippets files) :
    snippet.firstLine + snippet.lines.length = snippet.lastLine + 1 := by
  obtain ⟨label, hlabel, hresolve⟩ := List.mem_filterMap.1 h
  obtain ⟨file, hfile, hlies⟩ := hlabels label hlabel
  obtain ⟨other, hother, -, -, hlines⟩ := hlies.exists_snippet hfile
  obtain rfl := Option.some.inj (hresolve.symm.trans hother)
  exact hlines

end LabelsLieIn

/-- A row of the gutter that is no bar belongs to the lines of some snippet. -/
theorem mem_block_iff (hrow : row.isGutter = true) (hbar : row ≠ .bar) :
    row ∈ d.block files ↔ ∃ snippet ∈ d.snippets files, row ∈ snippet.lineRows := by
  rw [block]
  split
  · simp [List.isEmpty_iff.1 ‹_›]
  · simp [Snippet.mem_rows hrow hbar, hbar]

/-- Where the bar stands in a row: behind the gutter, and behind the dots of an elision where these
are wider. -/
theorem barColumn_of_mem_block (hlabels : d.LabelsLieIn files) (hrow : row ∈ d.block files)
    (hgutter : row.isGutter = true) :
    barColumn (row.text (Snippet.gutterWidth (d.snippets files))) =
      some ((if row = .ellipsis then max (Snippet.gutterWidth (d.snippets files)) 3
        else Snippet.gutterWidth (d.snippets files)) + 1) := by
  refine Row.barColumn_text hgutter ?_
  rintro number line rfl
  obtain ⟨snippet, hsnippet, hmem⟩ := (mem_block_iff rfl (by simp)).1 hrow
  have hnumber := Snippet.number_le_of_mem_lineRows hmem
  have hlines := hlabels.lastLine_of_mem_snippets hsnippet
  exact Snippet.length_toString_le_gutterWidth hsnippet (by omega)

/-- The bars of a block stand in one column if there are no dots, or if the dots are not wider
than the gutter. -/
theorem barsAligned_iff_of_labels (hlabels : d.LabelsLieIn files) :
    d.BarsAligned files ↔
      Row.ellipsis ∉ d.block files ∨ 3 ≤ Snippet.gutterWidth (d.snippets files) := by
  constructor
  · rintro ⟨column, hcolumn⟩
    by_cases hdots : Row.ellipsis ∈ d.block files
    · -- A block that is not empty has a bar below it, which the dots are compared with.
      have hbar : Row.bar ∈ d.block files := by
        rw [block] at hdots ⊢
        split at hdots
        · cases hdots
        · simp [*]
      have hbelow := hcolumn _ hbar rfl
      have hmiddle := hcolumn _ hdots rfl
      rw [barColumn_of_mem_block hlabels hbar rfl] at hbelow
      rw [barColumn_of_mem_block hlabels hdots rfl, ← hbelow] at hmiddle
      have hwide : max (Snippet.gutterWidth (d.snippets files)) 3 =
          Snippet.gutterWidth (d.snippets files) := by
        simpa using hmiddle
      exact .inr (by omega)
    · exact .inl hdots
  · intro h
    refine ⟨Snippet.gutterWidth (d.snippets files) + 1, fun row hrow hgutter => ?_⟩
    rw [barColumn_of_mem_block hlabels hrow hgutter]
    rcases h with hdots | hwide
    · have hne : row ≠ .ellipsis := fun heq => hdots (heq ▸ hrow)
      rw [if_neg hne]
    · rw [Nat.max_eq_left hwide, ite_self]

/-- In a diagnostic whose labels lie in their files, all rows of the block are written below each
other. Their bars stand behind the gutter, or behind the dots where these are wider; so they stand
in one column exactly if no label spans more than two lines, or some label reaches line ten. -/
theorem bars_aligned_iff (hlabels : d.LabelsLieIn files) :
    (∃ above below : List String, d.render false files = String.join
      ((above ++ (d.block files).map (Row.text (Snippet.gutterWidth (d.snippets files))) ++
        below).map (· ++ "\n"))) ∧
    (∀ row ∈ d.block files, row.isGutter = true →
      barColumn (row.text (Snippet.gutterWidth (d.snippets files))) =
        some ((if row = .ellipsis then max (Snippet.gutterWidth (d.snippets files)) 3
          else Snippet.gutterWidth (d.snippets files)) + 1)) ∧
    (d.BarsAligned files ↔
      (∀ label ∈ d.labels, ∀ file, files.codeMap.file? label.fileId = some file →
        label.lastLine file ≤ label.firstLine file + 1) ∨
      ∃ label ∈ d.labels, ∃ file, files.codeMap.file? label.fileId = some file ∧
        9 ≤ label.lastLine file) := by
  refine ⟨exists_render_eq_lines List.infix_rfl,
    fun row hrow hgutter => barColumn_of_mem_block hlabels hrow hgutter, ?_⟩
  have hdots : Row.ellipsis ∈ d.block files ↔ ∃ label ∈ d.labels, ∃ file,
      files.codeMap.file? label.fileId = some file ∧
        label.firstLine file + 1 < label.lastLine file := by
    rw [mem_block_iff rfl (by simp), ← hlabels.exists_mem_snippets_iff
      (p := fun first last => first + 1 < last)]
    refine exists_congr fun snippet => and_congr_right fun hsnippet => ?_
    have hlines := hlabels.lastLine_of_mem_snippets hsnippet
    rw [Snippet.ellipsis_mem_lineRows_iff]
    omega
  rw [barsAligned_iff_of_labels hlabels, hdots, Snippet.three_le_gutterWidth_iff,
    hlabels.exists_mem_snippets_iff (p := fun _ last => 9 ≤ last)]
  simp only [not_exists, not_and, Nat.not_lt]

/-- A file of ten lines. -/
def lettersFiles : StoryFiles :=
  { codeMap := { files := [⟨"f", "a\nb\nc\nd\ne\nf\ng\nh\ni\nj"⟩], names_nodup := by decide } }

/-- A diagnostic with a label from the start of the file on. -/
def lettersDiagnostic (stop : Int) : Diagnostic :=
  { severity := .error, message := "m", code := "c"
    labels := [{ style := .primary, fileId := 0, start := 0, stop, message := "" }] }

/-- The label on the letters lies in its file as long as it stops there. -/
theorem labelsLieIn_letters {stop : Int} (hstart : 0 ≤ stop) (hstop : stop ≤ 19) :
    (lettersDiagnostic stop).LabelsLieIn lettersFiles := by
  intro label hlabel
  obtain rfl := List.mem_singleton.1 hlabel
  exact ⟨_, rfl, Int.le_refl 0, hstart, hstop⟩

/-- With a line number of two digits, the dots fit into the gutter. -/
theorem bars_aligned_ten_lines :
    (lettersDiagnostic 19).LabelsLieIn lettersFiles ∧
      Row.ellipsis ∈ (lettersDiagnostic 19).block lettersFiles ∧
      (lettersDiagnostic 19).BarsAligned lettersFiles := by
  have hlabels : (lettersDiagnostic 19).LabelsLieIn lettersFiles :=
    labelsLieIn_letters (by decide) (by decide)
  have hblock : (lettersDiagnostic 19).block lettersFiles =
      [.location .primary "f" 1 1, .bar, .source 1 "a", .marker .primary 0 1 "", .ellipsis,
       .source 10 "j", .marker .primary 0 1 "", .bar] := by
    decide +kernel
  refine ⟨hlabels, by simp [hblock], (bars_aligned_iff hlabels).2.2.2 (.inr ?_)⟩
  exact ⟨_, List.mem_singleton_self _, _, rfl, by decide⟩

/-- With line numbers of one digit, the bar behind the dots stands right of the other ones. -/
theorem bars_not_aligned_three_lines :
    (lettersDiagnostic 5).LabelsLieIn lettersFiles ∧
      (lettersDiagnostic 5).render false lettersFiles =
        "error[c]: m\n --> f:1:1\n   |\n 1 | a\n   | ^\n... |\n 3 | c\n   | ^\n   |\n\n" ∧
      ¬ (lettersDiagnostic 5).BarsAligned lettersFiles := by
  have hlabels : (lettersDiagnostic 5).LabelsLieIn lettersFiles :=
    labelsLieIn_letters (by decide) (by decide)
  refine ⟨hlabels, by decide +kernel, ?_⟩
  rintro ⟨column, hcolumn⟩
  have hgutter : Snippet.gutterWidth ((lettersDiagnostic 5).snippets lettersFiles) = 2 := by
    decide +kernel
  have hblock : (lettersDiagnostic 5).block lettersFiles =
      [.location .primary "f" 1 1, .bar, .source 1 "a", .marker .primary 0 1 "", .ellipsis,
       .source 3 "c", .marker .primary 0 1 "", .bar] := by
    decide +kernel
  rw [hblock, hgutter] at hcolumn
  have hbar : some 3 = some column := hcolumn .bar (by simp) rfl
  have hdots : some 4 = some column := hcolumn .ellipsis (by simp) rfl
  exact absurd (hbar.trans hdots.symm) (by decide)

end Diagnostic

end StoryLint
