import StoryLint.Proofs.Diagnostic.Emission

/-!
# Which file the rows of a snippet belong to

A secondary snippet may stand below the location row of another one. A reader finds its file by
looking up to the nearest location row. `Diagnostic.emit_attributes_snippets` is the main result:
whatever labels there are, of whatever files, the reader finds the file of the snippet, and no
location row is printed for a secondary snippet that the reader could do without. What is printed
for a row is spelled out by `Page.rowLine`.

The rows of snippets are written one snippet after the other, and what is passed on is the name of
the last file. `Snippet.nearestFile?_above` ties it to the rows: it is the file of the nearest
location row, because every snippet leaves its own file behind, with a location row or without one.
-/

namespace StoryLint

/-- The file that a location row names. -/
def Row.fileName? : Row → Option String
  | .location _ fileName _ _ => some fileName
  | _ => none

/-- The file of the last location row. -/
def nearestFile? (rows : List Row) : Option String :=
  (rows.filterMap Row.fileName?).getLast?

/-- A line and a column are where a label starts in its file. The columns of a start behind the end
of the file are counted on from the end. -/
def Label.StartsAt (files : StoryFiles) (label : Label) (fileName : String)
    (line column : Nat) : Prop :=
  ∃ file, files.codeMap.file? label.fileId = some file ∧ file.name = fileName ∧
    Position.ofOffset file.text.toList label.start.toNat =
      { line, column := column - ((label.start.toNat - file.text.length : Nat) : Int) }

/-- Whether the file of a label is known, and the label does not start in front of it. -/
def Label.isFound (files : StoryFiles) (label : Label) : Bool :=
  decide ((0 ≤ label.fileId ∧ label.fileId < files.codeMap.size) ∧ 0 ≤ label.start)

/-- A snippet with the location row above it, if it has one. -/
structure Placed where
  location? : Option Row
  snippet : Snippet

namespace Placed

/-- The rows of a snippet below its location row. -/
def rows (placed : Placed) : List Row :=
  placed.location?.toList ++ .bar :: placed.snippet.lineRows

/-- The rows of a snippet as lines of text. -/
def lines (page : Page) (placed : Placed) : List String :=
  placed.rows.map page.rowLine

/-- A reader of the rows finds the file of a snippet: the nearest location row names it. A location
row of the snippet itself is written as an arrow, or as colons if the snippet is secondary, with
file, line and column of its start. A primary snippet has such a row. A secondary one has it if the
nearest location row above names another file or there is none, and only then. The other rows are
lines of the file of the label. -/
structure Attributed (files : StoryFiles) (above : List Row) (placed : Placed) : Prop where
  nearest : nearestFile? (above ++ placed.location?.toList) = some placed.snippet.fileName
  own : ∀ row, placed.location? = some row → ∃ line column,
    row = .location placed.snippet.label.style placed.snippet.fileName line column ∧
      placed.snippet.label.StartsAt files placed.snippet.fileName line column ∧
      ∀ page : Page, page.rowLine row = spaces (page.gutter - 1) ++
        page.ink (.boldIn .blue)
          (if placed.snippet.label.style = .primary then "-->" else ":::") ++ " " ++
        placed.snippet.fileName ++ ":" ++ toString line ++ ":" ++ toString column
  primary : placed.snippet.label.style = .primary → placed.location?.isSome
  secondary : placed.snippet.label.style = .secondary →
    (placed.location?.isSome ↔ nearestFile? above ≠ some placed.snippet.fileName)
  drawn : ∃ file, files.codeMap.file? placed.snippet.label.fileId = some file ∧
    file.name = placed.snippet.fileName ∧ placed.snippet.DrawnFrom file

end Placed

/-! ## The nearest location row -/

section Nearest

variable {above rows : List Row}

/-- No rows name no file. -/
@[simp] theorem nearestFile?_nil : nearestFile? [] = none := rfl

/-- What is nearest in later rows is nearer than what is nearest in earlier ones. -/
theorem nearestFile?_append (above rows : List Row) :
    nearestFile? (above ++ rows) = (nearestFile? rows).or (nearestFile? above) := by
  rw [nearestFile?, List.filterMap_append, List.getLast?_append]
  rfl

/-- Rows that name no file leave the file open. -/
theorem nearestFile?_eq_none (h : ∀ row ∈ rows, row.fileName? = none) :
    nearestFile? rows = none := by
  rw [nearestFile?, List.filterMap_eq_nil_iff.2 h, List.getLast?_nil]

end Nearest

namespace Snippet

variable {files : StoryFiles} {label : Label} {snippet : Snippet} {current : Option String}
variable {above : List Row} {snippets : List Snippet}

/-- The rows of the lines of a snippet name no file. -/
theorem fileName?_of_mem_lineRows {row : Row} (h : row ∈ snippet.lineRows) :
    row.fileName? = none := by
  cases row with
  | location => exact absurd h location_notMem_lineRows
  | bar | source | ellipsis | marker => rfl

/-- A bar and the rows of the lines of a snippet name no file. -/
theorem nearestFile?_bar_lineRows (snippet : Snippet) :
    nearestFile? (.bar :: snippet.lineRows) = none :=
  nearestFile?_eq_none fun row hrow => by
    rcases List.mem_cons.1 hrow with rfl | hrow
    · rfl
    · exact fileName?_of_mem_lineRows hrow

/-! ## One snippet -/

/-- A snippet below rows of a file. -/
def place (current : Option String) (snippet : Snippet) : Placed :=
  { snippet
    location? := if current ≠ some snippet.fileName ∨ snippet.label.style = .primary then
      some snippet.locationRow else none }

/-- The nearest location row names the file of a snippet, be it the row of the snippet itself or
that of one above. -/
theorem nearestFile?_location (habove : nearestFile? above = current) :
    nearestFile? (above ++ (snippet.place current).location?.toList) = some snippet.fileName := by
  rw [nearestFile?_append, habove, place]
  split
  · rfl
  · rename_i hhidden
    rw [not_or, not_not] at hhidden
    exact hhidden.1

/-- Behind a snippet its file is the nearest one. -/
theorem nearestFile?_above (habove : nearestFile? above = current) :
    nearestFile? (above ++ (snippet.place current).rows) = some snippet.fileName := by
  rw [Placed.rows, ← List.append_assoc, nearestFile?_append, place, nearestFile?_bar_lineRows]
  exact nearestFile?_location habove

/-- The file of a label with a snippet is the one that the snippet names. -/
theorem exists_file?_of_resolve? (h : resolve? files label = some snippet) :
    ∃ file, files.codeMap.file? label.fileId = some file ∧ file.name = snippet.fileName := by
  have hfrom := resolvedFrom_of_resolve? h
  obtain ⟨source, hsource, -⟩ := hfrom.lines_eq
  obtain ⟨file, hfile, -⟩ := StoryFiles.exists_file?_of_source? hsource
  have hname := (StoryFiles.name?_of_file? hfile).symm.trans hfrom.name?_eq
  exact ⟨file, hfile, Option.some.inj hname⟩

/-- A snippet below rows of a file is attributed to its own. -/
theorem attributed_place (habove : nearestFile? above = current)
    (h : resolve? files snippet.label = some snippet) :
    (snippet.place current).Attributed files above := by
  obtain ⟨file, hfile, hname⟩ := exists_file?_of_resolve? h
  refine ⟨nearestFile?_location habove, fun row hrow => ?_, fun hstyle => ?_, fun hstyle => ?_,
    file, hfile, hname, drawnFrom_of_resolve? hfile h⟩
  · simp only [place, Option.ite_none_right_eq_some, Option.some.injEq] at hrow
    obtain ⟨-, rfl⟩ := hrow
    exact ⟨_, _, rfl, ⟨file, hfile, hname, ofOffset_of_resolve? hfile h⟩, fun page => rfl⟩
  · have hprimary : snippet.label.style = .primary := hstyle
    simp [place, hprimary]
  · have hsecondary : snippet.label.style = .secondary := hstyle
    rw [habove]
    simp [place, hsecondary]

/-! ## All snippets -/

/-- Snippets one below the other. -/
def placeAll (current : Option String) : List Snippet → List Placed
  | [] => []
  | snippet :: rest => snippet.place current :: placeAll (some snippet.fileName) rest

/-- Placing snippets keeps them, in their order. -/
@[simp] theorem map_snippet_placeAll (current : Option String) (snippets : List Snippet) :
    (placeAll current snippets).map (·.snippet) = snippets := by
  induction snippets generalizing current with
  | nil => rfl
  | cons snippet rest ih => rw [placeAll, List.map_cons, ih, place]

/-- The rows of snippets are the rows of each of them where it is placed. -/
theorem rows_eq_flatMap (current : Option String) (snippets : List Snippet) :
    rows current snippets = (placeAll current snippets).flatMap Placed.rows := by
  induction snippets generalizing current with
  | nil => rfl
  | cons snippet rest ih =>
      rw [rows, placeAll, List.flatMap_cons, ← ih, Placed.rows, place]
      split <;> rfl

/-- Every snippet is attributed to its file by the rows in front of it. -/
theorem attributed_of_mem_placeAll (habove : nearestFile? above = current)
    (h : ∀ snippet ∈ snippets, resolve? files snippet.label = some snippet)
    {before after : List Placed} {placed : Placed}
    (hplaced : placeAll current snippets = before ++ placed :: after) :
    placed.Attributed files (above ++ before.flatMap Placed.rows) := by
  -- The name that is passed on is always that of the nearest location row above.
  induction snippets generalizing above current before with
  | nil => simp [placeAll] at hplaced
  | cons snippet rest ih =>
      rw [placeAll] at hplaced
      cases before with
      | nil =>
          cases hplaced
          rw [List.flatMap_nil, List.append_nil]
          exact attributed_place habove (h snippet List.mem_cons_self)
      | cons first before =>
          rw [List.cons_append, List.cons.injEq] at hplaced
          obtain ⟨rfl, hplaced⟩ := hplaced
          rw [List.flatMap_cons, ← List.append_assoc]
          exact ih (nearestFile?_above habove)
            (fun other hother => h other (List.mem_cons_of_mem _ hother)) hplaced

/-- A label is found exactly if it has a snippet. -/
theorem isSome_resolve? (files : StoryFiles) (label : Label) :
    (resolve? files label).isSome = label.isFound files := by
  rw [Bool.eq_iff_iff, Label.isFound, decide_eq_true_iff, ← Cutout.exists_locate_eq_ok_iff,
    Cutout.resolve?_eq_toOption]
  cases Cutout.locate (.ofMap files.codeMap) label <;> simp [Except.toOption]

/-- The snippets of labels keep their order. -/
theorem map_label_filterMap (files : StoryFiles) (labels : List Label) :
    (labels.filterMap (resolve? files)).map (·.label) = labels.filter (·.isFound files) := by
  induction labels with
  | nil => rfl
  | cons label rest ih =>
      have hfound := isSome_resolve? files label
      cases hsnippet : resolve? files label with
      | none =>
          rw [hsnippet, Option.isSome_none] at hfound
          rw [List.filterMap_cons_none hsnippet, ih, List.filter_cons_of_neg (by simp [← hfound])]
      | some snippet =>
          rw [hsnippet, Option.isSome_some] at hfound
          rw [List.filterMap_cons_some hsnippet, List.map_cons, ih,
            List.filter_cons_of_pos hfound.symm, (resolvedFrom_of_resolve? hsnippet).label_eq]

end Snippet

namespace Diagnostic

variable {files : StoryFiles} {d : Diagnostic}

/-- A snippet of a diagnostic is what its own label resolves to. -/
theorem resolve?_of_mem_snippets {snippet : Snippet} (h : snippet ∈ d.snippets files) :
    Snippet.resolve? files snippet.label = some snippet := by
  obtain ⟨label, -, hsnippet⟩ := List.mem_filterMap.1 h
  obtain rfl := (Snippet.resolvedFrom_of_resolve? hsnippet).label_eq
  exact hsnippet

/-- The lines of a diagnostic whose block has placed snippets: the headline, each snippet below its
location row, a bar if there are any, the notes, and an empty line. -/
def linesOf (d : Diagnostic) (page : Page) (placed : List Placed) : List String :=
  page.headline d :: placed.flatMap (Placed.lines page) ++
    (if placed.isEmpty then [] else [page.barLine]) ++ d.notes.map page.noteLine ++ [""]

/-- The block of a diagnostic is made of its snippets one below the other. -/
theorem block_eq_placeAll (d : Diagnostic) (files : StoryFiles) :
    d.block files = (Snippet.placeAll none (d.snippets files)).flatMap Placed.rows ++
      (if (Snippet.placeAll none (d.snippets files)).isEmpty then [] else [.bar]) := by
  rw [← Snippet.rows_eq_flatMap, block]
  cases d.snippets files <;> rfl

/-- The text of a diagnostic is made of the lines of its snippets. -/
theorem render_eq_linesOf (d : Diagnostic) (files : StoryFiles) (colored : Bool) :
    d.render colored files = String.join ((d.linesOf (d.page files colored)
      (Snippet.placeAll none (d.snippets files))).map (· ++ "\n")) := by
  have hblock : (d.block files).map (d.page files colored).rowLine =
      (Snippet.placeAll none (d.snippets files)).flatMap (Placed.lines (d.page files colored)) ++
        (if (Snippet.placeAll none (d.snippets files)).isEmpty then []
          else [(d.page files colored).barLine]) := by
    rw [block_eq_placeAll, List.map_append, List.map_flatMap]
    cases Snippet.placeAll none (d.snippets files) <;> rfl
  rw [render_eq_page, hblock, linesOf]
  simp only [List.cons_append, List.append_assoc]

/-- Whatever the labels of a diagnostic are, it is emitted in one write as a headline, a block of
snippets and the notes. The block has the snippets of the labels that point into a known file, in
the order of the labels, each below its location row if it has one, and a reader attributes each of
them to its file. -/
theorem emit_attributes_snippets (files : StoryFiles) (d : Diagnostic) :
    ∃ placed : List Placed,
      placed.map (·.snippet.label) = d.labels.filter (·.isFound files) ∧
      placed.map (·.snippet) = d.labels.filterMap (Snippet.resolve? files) ∧
      d.block files = placed.flatMap Placed.rows ++ (if placed.isEmpty then [] else [.bar]) ∧
      (∀ (σ : Type) (device : Device σ) (colored : Bool) (s : σ),
        d.emit device colored (.ofMap files.codeMap) s = .ok (device.write (String.join
          ((d.linesOf (d.page files colored) placed).map (· ++ "\n"))) s)) ∧
      ∀ before p after, placed = before ++ p :: after →
        p.Attributed files (before.flatMap Placed.rows) := by
  refine ⟨Snippet.placeAll none (d.snippets files), ?_, ?_, block_eq_placeAll d files,
    fun σ device colored s => ?_, ?_⟩
  · have hlabels := congrArg (List.map (·.label))
      (Snippet.map_snippet_placeAll none (d.snippets files))
    rw [List.map_map] at hlabels
    exact hlabels.trans (Snippet.map_label_filterMap files d.labels)
  · exact Snippet.map_snippet_placeAll none (d.snippets files)
  · rw [emit_ofMap, render_eq_linesOf]
  · intro before p after hplaced
    exact Snippet.attributed_of_mem_placeAll nearestFile?_nil
      (fun snippet hsnippet => resolve?_of_mem_snippets hsnippet) hplaced

/-- The second label needs no location row, and the third one is of an unknown file. -/
example :
    let files : StoryFiles :=
      { codeMap := { files := [⟨"a", "x"⟩, ⟨"b", "y"⟩], names_nodup := by decide } }
    let label (style : LabelStyle) (fileId : Int) : Label :=
      { style, fileId, start := 0, stop := 1 }
    let d : Diagnostic :=
      { severity := .error, message := "m", code := "c"
        labels := [label .primary 0, label .secondary 0, label .secondary 7, label .secondary 1,
          label .secondary 0] }
    (d.block files).filter (·.fileName?.isSome) =
      [.location .primary "a" 1 1, .location .secondary "b" 1 1, .location .secondary "a" 1 1] := by
  decide +kernel

end Diagnostic

end StoryLint
