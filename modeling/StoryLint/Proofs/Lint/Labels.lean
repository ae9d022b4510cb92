import StoryLint.Proofs.Diagnostic.Labels
import StoryLint.Proofs.Issue.Report
import StoryLint.Proofs.Lint.Forms

/-!
# The labels of a report

The contexts of a story that was read lie in the files of the story, those of warnings, errors
and passages, and the earlier places that warnings are stored with. Each is found there by its
file name, with its own text (`SourceContext.FoundIn`). An issue of the report therefore has a
label for each place that names a file, and no other one, and its diagnostic shows them all
(`Issue.Labelled`). `read_labels` is the main result, for every document that can be read.
-/

namespace StoryLint

/-- Whether there is a context that names a file. -/
def SourceContext.NamesFile (context : Option SourceContext) : Prop :=
  ∃ c ∈ context, ∃ name, c.fileName = some name

/-- A context is found in files: its range lies in its text, and a file that it names is known,
with the context's text, and is the one that the context resolves to. -/
structure SourceContext.FoundIn (files : StoryFiles) (c : SourceContext) : Prop where
  range : 0 ≤ c.start.value ∧ c.start.value ≤ c.stop.value ∧ c.stop.value ≤ c.text.length
  named : ∀ name, c.fileName = some name → ∃ id : Nat,
    files.codeMap.idOf? name = some id ∧ files.codeMap.text? name = some c.text ∧
      files.codeMap.context? id = some (.whole (some name) c.text) ∧
      files.resolve? (some c) = some (id, (c.start.value, c.stop.value))
  unnamed : c.fileName = none → files.resolve? (some c) = none

/-- A context that lies in the files is found there. -/
theorem SourceContext.InMap.foundIn {files : StoryFiles} {c : SourceContext}
    (hc : c.InMap files.codeMap) : c.FoundIn files where
  range := ⟨c.start_nonneg, c.start_le_stop, c.stop_le_length⟩
  named := by
    intro name hname
    obtain ⟨id, hid, hfile⟩ := CodeMap.exists_idOf?_eq (hc name hname)
    refine ⟨id, hid, CodeMap.text?_eq_some_iff.2 (hc name hname), ?_, ?_⟩
    · rw [CodeMap.context?, hfile]
      rfl
    · simp [StoryFiles.resolve?, hname, StoryFiles.idOf?, hid, span]
  unnamed := fun hnone => StoryFiles.resolve?_eq_none hnone

/-- A label marks the range of a context in the file that the context names. -/
structure Label.Marks (files : StoryFiles) (label : Label) (c : SourceContext) : Prop where
  file : ∃ name, c.fileName = some name ∧
    files.codeMap.file? label.fileId = some ⟨name, c.text⟩
  start_eq : label.start = c.start.value
  stop_eq : label.stop = c.stop.value

/-- A diagnostic shows every label of its own that marks a context. -/
theorem Label.Marks.showsLabel {files : StoryFiles} {d : Diagnostic} {label : Label}
    {c : SourceContext} (h : label.Marks files c) (hlabel : label ∈ d.labels) :
    d.ShowsLabel files label := by
  obtain ⟨⟨name, -, hfile⟩, hstart, hstop⟩ := h
  refine Diagnostic.showsLabel hlabel hfile ?_ ?_ ?_
  · rw [hstart]
    exact c.start_nonneg
  · rw [hstart, hstop]
    exact c.start_le_stop
  · rw [hstop]
    exact c.stop_le_length

/-! ## Issues -/

namespace Issue

variable {issue : Issue} {files : StoryFiles}

/-- The earlier place that an issue is stored with. -/
def referent? : Issue → Option SourceContext
  | error _ => none
  | warning w _ => w.referent

/-- An issue with a place points back to the earlier place that it is stored with. -/
theorem earlier?_eq_referent? {c : SourceContext} (h : issue.context = some c) :
    issue.earlier? = issue.referent? := by
  cases issue with
  | error e => rfl
  | warning w denied =>
      have hcontext : w.context = some c := h
      simp [earlier?, referent?, Warning.earlier?, hcontext]

/-- The labels of an issue: a primary one exactly if its context names a file, a secondary one
exactly if moreover an earlier place does, each marking its place and shown by the diagnostic. -/
structure Labelled (files : StoryFiles) (issue : Issue) : Prop where
  primary_iff : (∃ label ∈ (issue.diagnostic files).labels, label.style = .primary) ↔
    SourceContext.NamesFile issue.context
  secondary_iff : (∃ label ∈ (issue.diagnostic files).labels, label.style = .secondary) ↔
    SourceContext.NamesFile issue.context ∧ SourceContext.NamesFile issue.referent?
  styles_nodup : ((issue.diagnostic files).labels.map (·.style)).Nodup
  marks_primary : ∀ label ∈ (issue.diagnostic files).labels, label.style = .primary →
    ∃ c ∈ issue.context, label.Marks files c
  marks_secondary : ∀ label ∈ (issue.diagnostic files).labels, label.style = .secondary →
    ∃ c ∈ issue.referent?, label.Marks files c

/-- Each label marks a context, and is shown. -/
theorem Labelled.showsLabel (h : issue.Labelled files) {label : Label}
    (hlabel : label ∈ (issue.diagnostic files).labels) :
    (issue.diagnostic files).ShowsLabel files label := by
  cases hstyle : label.style with
  | primary =>
      obtain ⟨c, -, hmarks⟩ := h.marks_primary label hlabel hstyle
      exact hmarks.showsLabel hlabel
  | secondary =>
      obtain ⟨c, -, hmarks⟩ := h.marks_secondary label hlabel hstyle
      exact hmarks.showsLabel hlabel

/-- A context that names a file resolves to a range that a label can mark. -/
theorem exists_resolve?_marks {context : Option SourceContext}
    (hc : ∀ c ∈ context, c.InMap files.codeMap) (h : SourceContext.NamesFile context) :
    ∃ id span, files.resolve? context = some (id, span) ∧
      ∀ style message, ∃ c, context = some c ∧
        Label.Marks files { style, fileId := id, start := span.1, stop := span.2, message } c := by
  obtain ⟨c, hcontext, name, hname⟩ := h
  obtain ⟨id, hresolve, hfile⟩ := StoryFiles.exists_resolve?_eq (hc c hcontext) hname
  rw [← Option.mem_def.1 hcontext] at hresolve
  exact ⟨id, c.span, hresolve, fun style message => ⟨c, hcontext, ⟨name, hname, hfile⟩, rfl, rfl⟩⟩

/-- A context that names no file resolves to none. -/
theorem resolve?_of_not_namesFile {context : Option SourceContext}
    (h : ¬ SourceContext.NamesFile context) : files.resolve? context = none := by
  refine StoryFiles.resolve?_eq_none (Option.bind_eq_none_iff.2 fun c hc => ?_)
  exact Option.eq_none_iff_forall_ne_some.2 fun name hname => h ⟨c, hc, name, hname⟩

/-- Without a place in a file an issue has no labels. -/
theorem labels_of_not_namesFile (files : StoryFiles)
    (h : ¬ SourceContext.NamesFile issue.context) :
    (issue.diagnostic files).labels = [] := by
  simp only [diagnostic, resolve?_of_not_namesFile h]

/-- An issue that lies in the files of the story has a label for each of its places. -/
theorem labelled (hc : ∀ c ∈ issue.context, c.InMap files.codeMap)
    (hr : ∀ c ∈ issue.referent?, c.InMap files.codeMap) : issue.Labelled files := by
  by_cases hcontext : SourceContext.NamesFile issue.context
  · obtain ⟨id, span, hresolve, hmarks⟩ := exists_resolve?_marks hc hcontext
    have hlabels := labels_of_resolve? hresolve
    have hearlier : issue.earlier? = issue.referent? := by
      obtain ⟨c, hc, -⟩ := hcontext
      exact earlier?_eq_referent? hc
    rw [earlierLabel?, hearlier] at hlabels
    have hprimary := hmarks .primary ""
    -- The labels are known now, and every statement about them is one about this list.
    by_cases hreferent : SourceContext.NamesFile issue.referent?
    · obtain ⟨id', span', hresolve', hmarks'⟩ := exists_resolve?_marks hr hreferent
      have hsecondary := hmarks' .secondary earlierMessage
      rw [hresolve'] at hlabels
      constructor <;> simp [hlabels, placeLabel, hcontext, hreferent, hprimary, hsecondary]
    · rw [resolve?_of_not_namesFile hreferent] at hlabels
      constructor <;> simp [hlabels, placeLabel, hcontext, hreferent, hprimary]
  · have hlabels := labels_of_not_namesFile files hcontext
    constructor <;> simp [hlabels, hcontext]

end Issue

/-! ## Stories -/

namespace StoryOutput

/-- All contexts of a story: of the warnings, of what they refer to, of the errors and of the
passages. -/
def contexts (output : StoryOutput) : List SourceContext :=
  output.warnings.flatMap (fun w => w.context.toList ++ w.referent.toList) ++
    output.result.errorList.flatMap (·.context.toList) ++
    match output.result with
    | .story story => story.passages.flatMap (·.context.toList)
    | .errors _ _ => []

variable {output : StoryOutput} {policy : Policy} {issue : Issue}

/-- Every context of a story lies in its files. -/
theorem InMap.of_mem_contexts (h : output.InMap) {c : SourceContext} (hc : c ∈ output.contexts) :
    c.InMap output.result.codeMap := by
  simp only [contexts, List.mem_append, List.mem_flatMap, Option.mem_toList] at hc
  rcases hc with (⟨w, hw, hc | hc⟩ | ⟨e, he, hc⟩) | hc
  · exact h.warnings w hw c hc
  · exact h.referents w hw c hc
  · exact h.errors e he c hc
  · split at hc
    · rename_i story hstory
      obtain ⟨p, hp, hc⟩ := List.mem_flatMap.1 hc
      exact h.passages story hstory p hp c (Option.mem_toList.1 hc)
    · cases hc

/-- The earlier place of an issue lies in the files of the story, if all its contexts do. -/
theorem InMap.referent?_of_mem_classification (h : output.InMap)
    (hissue : issue ∈ (output.classification policy).issues) :
    ∀ c ∈ issue.referent?, c.InMap (StoryFiles.ofResult output.result).codeMap := by
  rw [codeMap_ofResult]
  obtain ⟨e, he, rfl⟩ | ⟨w, hw, denied, rfl⟩ := mem_classification hissue
  · intro c hc
    cases hc
  · exact h.referents w hw

end StoryOutput

/-- Every context of a story that was read is found in the files of the story. By any policy,
an issue of its report has a primary label exactly if its context names a file and a secondary one
exactly if moreover it is stored with an earlier place that names a file, and its diagnostic shows
each of its labels. -/
theorem read_labels {source : Option String} {document : Json} {output : StoryOutput}
    (hread : Dump.read source document = .ok output) :
    let files := StoryFiles.ofResult output.result
    (∀ c ∈ output.contexts, c.FoundIn files) ∧
      ∀ policy, ∀ issue ∈ (output.classification policy).issues, issue.Labelled files ∧
        ∀ label ∈ (issue.diagnostic files).labels,
          (issue.diagnostic files).ShowsLabel files label := by
  have hmap := Dump.contexts_inMap hread
  intro files
  refine ⟨fun c hc => ?_, fun policy issue hissue => ?_⟩
  · have hfound := hmap.of_mem_contexts hc
    rw [← codeMap_ofResult] at hfound
    exact hfound.foundIn
  · have hlabelled := Issue.labelled (hmap.of_mem_classification hissue)
      (hmap.referent?_of_mem_classification hissue)
    exact ⟨hlabelled, fun label hlabel => hlabelled.showsLabel hlabel⟩

/-- A second passage, from the end of the first line of a file on, given as a truth value. The first
passage of the name is in an empty file. -/
def secondPassage : Warning :=
  { kind := .duplicatePassageName
    context := some ⟨some "a", "x\nyz", .flag true, .number 4, by decide, by decide, by decide⟩
    referent := some (.whole (some "b") "") }

/-- A second passage in text without a file. -/
def secondPassageInText : Warning :=
  { kind := .duplicatePassageName
    context := some (.whole none "z")
    referent := secondPassage.referent }

/-- A story with both. -/
def secondPassagesOutput : StoryOutput :=
  { result := .story
      { codeMap := { files := [⟨"a", "x\nyz"⟩, ⟨"b", ""⟩], names_nodup := by decide } }
    warnings := [secondPassage, secondPassageInText] }

/-- A document that states the story. -/
def secondPassagesDocument : Json :=
  let first : Json := .object [("file", .text "b")]
  .object
    [("files", .object [("a", .text "x\nyz"), ("b", .text "")]),
     ("warnings", .array
       [.object [("kind", .text "duplicate-passage-name"),
          ("context", .object [("file", .text "a"), ("start", .bool true)]), ("referent", first)],
        .object [("kind", .text "duplicate-passage-name"),
          ("context", .object [("text", .text "z")]), ("referent", first)]])]

/-- The passage with a place in a file has two labels that are shown, the other one has none. -/
theorem read_labels_second_passage :
    Dump.read none secondPassagesDocument = .ok secondPassagesOutput ∧
      (let files := StoryFiles.ofResult secondPassagesOutput.result
       let d := (Issue.warning secondPassage false).diagnostic files
       (∃ label ∈ d.labels, label.style = .primary ∧ d.ShowsLabel files label) ∧
         (∃ label ∈ d.labels, label.style = .secondary ∧ d.ShowsLabel files label) ∧
         ¬ ∃ label ∈ ((Issue.warning secondPassageInText false).diagnostic files).labels,
           label.style = .primary) := by
  have hread : Dump.read none secondPassagesDocument = .ok secondPassagesOutput :=
    Dump.read_eq_ok_iff.2 <| .story (.given rfl rfl)
      (.given rfl <|
        .cons (.entry rfl (.absent rfl) (.given rfl ⟨.file rfl rfl, .flag rfl, .missing rfl⟩)
          (.given rfl ⟨.file rfl rfl, .missing rfl, .missing rfl⟩)) <|
        .cons (.entry rfl (.absent rfl) (.given rfl ⟨.inline rfl rfl, .missing rfl, .missing rfl⟩)
          (.given rfl ⟨.file rfl rfl, .missing rfl, .missing rfl⟩)) .nil)
      (.absent rfl) (.absent rfl) rfl (.absent rfl)
  have hissue : ∀ w ∈ secondPassagesOutput.warnings,
      .warning w false ∈ (secondPassagesOutput.classification {}).issues := by
    intro w hw
    refine StoryOutput.mem_classification_iff.2 (.inr ⟨w, hw, ?_, rfl⟩)
    rfl
  obtain ⟨-, hissues⟩ := read_labels hread
  obtain ⟨hlabelled, hshown⟩ := hissues {} _ (hissue secondPassage (by decide))
  obtain ⟨hlabelledInText, -⟩ := hissues {} _ (hissue secondPassageInText (by decide))
  refine ⟨hread, ?_, ?_, ?_⟩
  · obtain ⟨label, hlabel, hstyle⟩ := hlabelled.primary_iff.2 ⟨_, rfl, _, rfl⟩
    exact ⟨label, hlabel, hstyle, hshown label hlabel⟩
  · obtain ⟨label, hlabel, hstyle⟩ :=
      hlabelled.secondary_iff.2 ⟨⟨_, rfl, _, rfl⟩, _, rfl, _, rfl⟩
    exact ⟨label, hlabel, hstyle, hshown label hlabel⟩
  · rw [hlabelledInText.primary_iff]
    rintro ⟨c, hc, name, hname⟩
    cases hc
    cases hname

end StoryLint
