import StoryLint.Diagnostic.Emission
import StoryLint.Proofs.Diagnostic.Gutter
import StoryLint.Proofs.Source.CodeTables
import StoryLint.Proofs.Terminal.Device

/-!
# Emission never goes wrong

A label may have any file id and any range. `Diagnostic.emit_writes_once` is the main result: on the
tables of files that were added one after the other, emitting a diagnostic reads no index that is
not there and writes once. A label has a snippet if its file is known and its start is not negative,
and otherwise the look-up stops at one of these two checks; no other one can stop it.

`Cutout.locate_cases` is the argument. With an unknown file or a negative start the look-up stops as
soon as it can. In all other cases the label has a snippet, and the look-up in the tables reads what
the snippet is made of. Lines are found by their starts, so the line of the start is not behind that
of the end, whatever the range, and it does not start behind the label.
-/

namespace StoryLint

/-! ## Marks -/

namespace Snippet

variable {snippet : Snippet} {style : LabelStyle} {column width : Nat} {message : String}

/-- There is a mark below every line that is shown. -/
theorem width_pos_of_mem_lineRows (h : Row.marker style column width message ∈ snippet.lineRows) :
    1 ≤ width := by
  have hshown : ∀ line ∈ snippet.shown, 1 ≤ line.width := by
    intro line hline
    obtain ⟨⟨text, index⟩, -, rfl⟩ := List.mem_map.1 hline
    simp only [shownLine]
    omega
  simp only [lineRows, List.mem_flatMap] at h
  obtain ⟨⟨line, index⟩, hline, h⟩ := h
  have hwidth := hshown line (List.fst_mem_of_mem_zipIdx hline)
  split at h <;> simp_all

end Snippet

/-! ## Looking up a label -/

namespace Cutout

variable {α β : Type} {files : StoryFiles} {file : SourceFile} {label : Label}

/-- A look that succeeds goes on with what it found. -/
@[simp] theorem look_ok (a : α) : look (.ok a) = .ok a := rfl

/-- What is needed and there is taken. -/
@[simp] theorem need_some (stop : Stop) (a : α) : need stop (some a) = .ok a := rfl

/-- What is needed and not there stops the drawing. -/
@[simp] theorem need_none (stop : Stop) : need stop (none : Option α) = .error stop := rfl

/-- What can be read item by item is read without a stop. -/
theorem mapM_need {stop : α → Stop} {f : α → Option β} {items : List α} {values : List β}
    (h : items.mapM f = some values) :
    items.mapM (fun item => need (stop item) (f item)) = .ok values := by
  induction items generalizing values with
  | nil =>
      cases h
      rfl
  | cons item rest ih =>
      simp only [List.mapM_cons, bind, Option.bind_eq_some_iff] at h
      obtain ⟨value, hvalue, others, hothers, h⟩ := h
      cases h
      simp only [List.mapM_cons, hvalue, ih hothers, need_some]
      rfl

/-- In the tables of a code map, a line is missing only where its range is. -/
theorem lineText_ofMap (files : StoryFiles) (id : Int) (source : List Char) (index : Nat) :
    lineText (.ofMap files.codeMap) id source index =
      need (.noLineRange index) (Snippet.lineText? files id source index) := by
  rw [lineText, CodeTables.lineRange?_ofMap, Snippet.lineText?, StoryFiles.lineRange?]
  cases files.codeMap.lineRange? id (index + 1) <;> rfl

/-- The start of a line of a code map is that of its range. -/
theorem lineStart_ofMap {id : Int} {index start stop : Nat}
    (h : files.codeMap.lineRange? id (index + 1) = some (start, stop)) :
    lineStart (.ofMap files.codeMap) id index = .ok start := by
  rw [lineStart, CodeTables.lineRange?_ofMap, h]
  rfl

/-- What holds of the part of a file that a label cuts out: it has all lines from the first to the
last one, and starts on the first one. -/
structure Sound (cutout : Cutout) : Prop where
  firstLine_le_lastLine : cutout.firstLine ≤ cutout.lastLine
  length_lines : cutout.lines.length = cutout.lastLine - cutout.firstLine + 1
  startColumn_nonneg : 0 ≤ cutout.startColumn

/-- A label of a file that is not there is not located. -/
theorem locate_of_unknown (h : files.codeMap.file? label.fileId = none) :
    locate (.ofMap files.codeMap) label = .error .unknownFile ∧
      Snippet.resolve? files label = none := by
  have hsource : files.codeMap.context? label.fileId = none := by simp [CodeMap.context?, h]
  constructor
  · simp [locate, CodeTables.source?_ofMap, CodeTables.name?_ofMap, hsource, bind, Except.bind]
  · simp [Snippet.resolve?, StoryFiles.source?, hsource]

/-- A label in front of its file has no first line. -/
theorem locate_of_negative (hfile : files.codeMap.file? label.fileId = some file)
    (hstart : label.start < 0) :
    locate (.ofMap files.codeMap) label = .error .noFirstLine ∧
      Snippet.resolve? files label = none := by
  have hline : file.lineIndex? label.start = none := SourceFile.lineIndex?_eq_none_iff.2 hstart
  constructor
  · simp [locate, CodeTables.source?_ofMap, CodeTables.name?_ofMap, CodeTables.lineIndex?_ofMap,
      CodeMap.context?, CodeMap.name?, hfile, hline, bind, Except.bind]
  · simp [Snippet.resolve?, StoryFiles.source?_of_file? hfile, StoryFiles.name?_of_file? hfile,
      StoryFiles.lineIndex?_of_file? hfile, hline]

/-- A label of a known file that does not start in front of it is looked up without a stop. -/
theorem exists_locate_eq (hfile : files.codeMap.file? label.fileId = some file)
    (hstart : 0 ≤ label.start) :
    ∃ cutout, locate (.ofMap files.codeMap) label = .ok cutout ∧
      Snippet.resolve? files label = some cutout.toSnippet ∧ cutout.Sound := by
  obtain ⟨snippet, hsnippet⟩ := Snippet.exists_resolve?_eq_some hfile hstart
  obtain ⟨hlabel, hname, hfirst, hlast, ⟨source, hsource, hlines⟩,
    ⟨firstStart, firstStop, hfirstRange, hstartColumn⟩,
    ⟨lastStart, lastStop, hlastRange, hendColumn⟩⟩ := Snippet.resolvedFrom_of_resolve? hsnippet
  rw [StoryFiles.source?_of_file? hfile] at hsource
  rw [StoryFiles.name?_of_file? hfile] at hname
  cases hsource
  rw [StoryFiles.lineIndex?_of_file? hfile] at hfirst hlast
  -- The line of the start does not begin behind it, so the snippet has its column as it is.
  obtain ⟨lineStart, lineStop, hlineRange, hcolumn⟩ :=
    SourceFile.exists_lineRange?_of_lineIndex? hfirst
  rw [← StoryFiles.lineRange?_of_file? hfile, hfirstRange] at hlineRange
  cases hlineRange
  have hle : snippet.firstLine ≤ snippet.lastLine :=
    SourceFile.lineIndex?_mono hfirst hlast (by omega)
  have hcount := (Snippet.lines_of_resolve? hfile hsnippet).1
  have hread : (List.range' snippet.firstLine (snippet.lastLine + 1 - snippet.firstLine)).mapM
      (lineText (.ofMap files.codeMap) label.fileId file.text.toList) = .ok snippet.lines := by
    rw [funext fun index => lineText_ofMap files label.fileId file.text.toList index]
    exact mapM_need hlines
  refine ⟨{ snippet with
      startColumn := label.start - firstStart, endColumn := label.stop - lastStart },
    ?_, ?_, hle, ?_, ?_⟩
  · simp [locate, CodeTables.source?_ofMap, CodeTables.name?_ofMap, CodeTables.lineIndex?_ofMap,
      CodeMap.context?, CodeMap.name?, hfile, SourceFile.contents_context, hfirst, hlast, hread,
      lineStart_ofMap hfirstRange, lineStart_ofMap hlastRange, hlabel, hname, bind, Except.bind,
      pure, Except.pure]
  · rw [hsnippet, toSnippet, ← hstartColumn, ← hendColumn]
  · show snippet.lines.length = snippet.lastLine - snippet.firstLine + 1
    omega
  · show 0 ≤ label.start - (firstStart : Int)
    omega

/-- Looking up a label finds the cutout of its snippet, or stops at one of two checks. -/
theorem locate_cases (files : StoryFiles) (label : Label) :
    (∃ cutout, locate (.ofMap files.codeMap) label = .ok cutout ∧
        Snippet.resolve? files label = some cutout.toSnippet ∧ cutout.Sound) ∨
      ∃ stop, locate (.ofMap files.codeMap) label = .error stop ∧
        Snippet.resolve? files label = none ∧ (stop = .unknownFile ∨ stop = .noFirstLine) := by
  cases hfile : files.codeMap.file? label.fileId with
  | none =>
      obtain ⟨hlocate, hresolve⟩ := locate_of_unknown hfile
      exact .inr ⟨_, hlocate, hresolve, .inl rfl⟩
  | some file =>
      rcases Int.lt_or_le label.start 0 with hnegative | hstart
      · obtain ⟨hlocate, hresolve⟩ := locate_of_negative hfile hnegative
        exact .inr ⟨_, hlocate, hresolve, .inr rfl⟩
      · exact .inl (exists_locate_eq hfile hstart)

/-- The cutout that is found is that of the snippet. -/
theorem resolve?_eq_toOption (files : StoryFiles) (label : Label) :
    Snippet.resolve? files label =
      (locate (.ofMap files.codeMap) label).toOption.map toSnippet := by
  obtain ⟨cutout, hlocate, hresolve, -⟩ | ⟨stop, hlocate, hresolve, -⟩ := locate_cases files label
  all_goals
    rw [hlocate, hresolve]
    rfl

/-- Nothing else keeps a label of a code map from being located. -/
theorem stop_of_locate_eq_error {stop : Stop}
    (h : locate (.ofMap files.codeMap) label = .error stop) :
    stop = .unknownFile ∨ stop = .noFirstLine := by
  obtain ⟨cutout, hlocate, -⟩ | ⟨other, hlocate, -, hother⟩ := locate_cases files label
  · cases h.symm.trans hlocate
  · cases h.symm.trans hlocate
    exact hother

/-- What a located label cuts out of its file is sound. -/
theorem sound_of_locate_eq_ok {cutout : Cutout}
    (h : locate (.ofMap files.codeMap) label = .ok cutout) : cutout.Sound := by
  obtain ⟨found, hlocate, -, hsound⟩ | ⟨other, hlocate, -⟩ := locate_cases files label
  · cases h.symm.trans hlocate
    exact hsound
  · cases h.symm.trans hlocate

/-- A label is found exactly if its file is known and its start is not negative. -/
theorem exists_locate_eq_ok_iff :
    (∃ cutout, locate (.ofMap files.codeMap) label = .ok cutout) ↔
      (0 ≤ label.fileId ∧ label.fileId < files.codeMap.size) ∧ 0 ≤ label.start := by
  cases hfile : files.codeMap.file? label.fileId with
  | none =>
      have hunknown := CodeMap.file?_eq_none_iff.1 hfile
      exact iff_of_false (by simp [locate_of_unknown hfile]) (by omega)
  | some file =>
      have hknown : ¬ (label.fileId < 0 ∨ files.codeMap.size ≤ label.fileId) := fun hunknown => by
        simp [CodeMap.file?_eq_none_iff.2 hunknown] at hfile
      rcases Int.lt_or_le label.start 0 with hnegative | hstart
      · exact iff_of_false (by simp [locate_of_negative hfile hnegative]) (by omega)
      · obtain ⟨cutout, hlocate, -⟩ := exists_locate_eq hfile hstart
        exact iff_of_true ⟨cutout, hlocate⟩ (by omega)

/-- The labels that are found are those that have a snippet. -/
theorem exists_locateAll_eq (files : StoryFiles) (labels : List Label) :
    ∃ cutouts, locateAll (.ofMap files.codeMap) labels = .ok cutouts ∧
      cutouts.map toSnippet = labels.filterMap (Snippet.resolve? files) := by
  induction labels with
  | nil => exact ⟨[], rfl, rfl⟩
  | cons label rest ih =>
      obtain ⟨cutouts, hrest, hsnippets⟩ := ih
      obtain ⟨cutout, hlocate, hresolve, -⟩ | ⟨stop, hlocate, hresolve, hstop⟩ :=
        locate_cases files label
      · refine ⟨cutout :: cutouts, ?_, ?_⟩
        · rw [locateAll, hlocate, hrest]
          rfl
        · rw [List.map_cons, hsnippets, List.filterMap_cons_some hresolve]
      · refine ⟨cutouts, ?_, by rw [hsnippets, List.filterMap_cons_none hresolve]⟩
        rcases hstop with rfl | rfl <;> rw [locateAll, hlocate, hrest]

end Cutout

/-! ## Emission -/

namespace Diagnostic

variable {σ : Type} {files : StoryFiles} {d : Diagnostic}

/-- Lines that are joined, an empty one behind them, are lines that each end with a newline. -/
theorem intercalate_append_empty (texts : List String) :
    "\n".intercalate (texts ++ [""]) = String.join (texts.map (· ++ "\n")) := by
  induction texts with
  | nil => rfl
  | cons text rest ih =>
      rw [List.cons_append, String.intercalate_cons_of_ne_nil (by simp), ih, List.map_cons,
        String.join_cons]

/-- On the tables of a code map, the text of the diagnostic is written and nothing else. -/
theorem emit_ofMap (device : Device σ) (colored : Bool) (files : StoryFiles) (d : Diagnostic)
    (s : σ) :
    d.emit device colored (.ofMap files.codeMap) s =
      .ok (device.write (d.render colored files) s) := by
  obtain ⟨cutouts, hcutouts, hsnippets⟩ := Cutout.exists_locateAll_eq files d.labels
  have htext : "\n".intercalate (d.lineTexts colored (d.snippets files)) ++ "\n" =
      d.render colored files := by
    rw [lineTexts, intercalate_append_empty, List.map_map]
    rfl
  rw [emit, hcutouts, ← htext, snippets, ← hsnippets]
  rfl

/-- Every run of marks has at least one mark. -/
theorem width_pos_of_mem_block {style : LabelStyle} {column width : Nat} {message : String}
    (h : Row.marker style column width message ∈ d.block files) : 1 ≤ width := by
  obtain ⟨snippet, -, hrow⟩ := (mem_block_iff rfl (by simp)).1 h
  exact Snippet.width_pos_of_mem_lineRows hrow

/-- Whatever files were added and whatever its labels are, a diagnostic is emitted without reading
an index that is not there, and with one write, of its text. A label has a snippet exactly if its id
is that of a file and its start is not negative; if it has none, looking it up has stopped at one of
these two checks. A snippet has all lines from its first to its last one, and starts on the first
one. Below every line that is shown there is a mark. -/
theorem emit_writes_once (calls : List SourceFile) (d : Diagnostic) (colored : Bool) :
    let tables := ((CodeTables.addAll calls).run {}).2
    let files : StoryFiles := { codeMap := calls.foldl CodeMap.register {} }
    (∀ (σ : Type) (device : Device σ) (s : σ), ∃ fault? after,
      d.emit device colored tables s = .ok (fault?, after) ∧
        d.emit device.logged colored tables (s, []) =
          .ok (fault?, after, [⟨.write (d.render colored files), fault?⟩])) ∧
    (∀ label : Label,
      Snippet.resolve? files label =
          (Cutout.locate tables label).toOption.map Cutout.toSnippet ∧
        ((∃ cutout, Cutout.locate tables label = .ok cutout) ↔
          (0 ≤ label.fileId ∧ label.fileId < tables.size) ∧ 0 ≤ label.start) ∧
        (∀ stop, Cutout.locate tables label = .error stop →
          stop = .unknownFile ∨ stop = .noFirstLine) ∧
        ∀ cutout, Cutout.locate tables label = .ok cutout → cutout.Sound) ∧
    ∀ style column width message,
      Row.marker style column width message ∈ d.block files → 1 ≤ width := by
  intro tables files
  have htables : tables = .ofMap files.codeMap := (CodeTables.run_addAll_ofMap calls {}).1
  rw [htables]
  refine ⟨fun σ device s => ?_, fun label => ?_, fun _ _ _ _ => width_pos_of_mem_block⟩
  · refine ⟨(device.write (d.render colored files) s).1,
      (device.write (d.render colored files) s).2, emit_ofMap device colored files d s, ?_⟩
    rw [emit_ofMap]
    rfl
  · rw [CodeTables.size_ofMap]
    exact ⟨Cutout.resolve?_eq_toOption files label, Cutout.exists_locate_eq_ok_iff,
      fun _ => Cutout.stop_of_locate_eq_error, fun _ => Cutout.sound_of_locate_eq_ok⟩

end Diagnostic

end StoryLint
