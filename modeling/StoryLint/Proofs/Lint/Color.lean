import StoryLint.Proofs.Diagnostic.Color
import StoryLint.Proofs.Dump.Texts
import StoryLint.Proofs.Issue.Report
import StoryLint.Proofs.Issue.Suggestion
import StoryLint.Proofs.Lint.Report
import StoryLint.Proofs.Text.Search

/-!
# Reports in colour

If the texts of a dump hold no escape character, the texts of a report on it hold none but for
painting: messages are made of templates and details, notes of passage names and links, and the
rest comes from the files. `lint_color` is the main result: with colour the report shows what it
is without colour, and no colour is left in force behind an issue.
-/

namespace StoryLint

open Terminal

/-! ## Messages -/

namespace Template

/-- The fixed parts of a template hold no escape character. -/
def Unescaped : Template → Prop
  | fixed text => Terminal.Unescaped text
  | withDetail before after => Terminal.Unescaped before ∧ Terminal.Unescaped after

/-- A template without escape characters gives a message with those of the detail only. -/
theorem Unescaped.format {template : Template} {detail : Option String}
    (h : template.Unescaped) (hdetail : ∀ d ∈ detail, Terminal.Unescaped d) :
    Terminal.Unescaped (template.format detail) := by
  cases template with
  | fixed text => exact h
  | withDetail before after =>
      obtain ⟨hbefore, hafter⟩ := h
      cases detail with
      | none => simp +decide [Template.format, hbefore, hafter]
      | some d => simp [Template.format, hbefore, hafter, hdetail d rfl]

end Template

/-- The name of a kind of warning has no escape character. -/
theorem WarningKind.unescaped_name (kind : WarningKind) : Unescaped kind.name := by
  cases kind <;> exact unescaped_literal (by decide)

/-- The name of a kind of error has no escape character. -/
theorem ErrorKind.unescaped_name (kind : ErrorKind) : Unescaped kind.name := by
  cases kind <;> exact unescaped_literal (by decide)

/-- The template of a kind of warning has no escape character. -/
theorem WarningKind.unescaped_template (kind : WarningKind) : kind.template.Unescaped := by
  cases kind <;> first
    | exact unescaped_literal (by decide)
    | exact ⟨unescaped_literal (by decide), unescaped_literal (by decide)⟩

/-- The template of a kind of error has no escape character. -/
theorem ErrorKind.unescaped_template (kind : ErrorKind) : kind.template.Unescaped := by
  cases kind <;> first
    | exact unescaped_literal (by decide)
    | exact ⟨unescaped_literal (by decide), unescaped_literal (by decide)⟩

/-- A place in front of a message adds no escape character to those of the file name. -/
theorem SourceContext.unescaped_locate {context : Option SourceContext} {message : String}
    (hcontext : ∀ c ∈ context, c.Texts Unescaped) (hmessage : Unescaped message) :
    Unescaped (SourceContext.locate context message) := by
  have hnumber : ∀ n : Int, Unescaped n.repr := unescaped_toString_int
  have hposition : ∀ p : Position, Unescaped p.text := by
    intro p
    simp +decide [Position.text, hnumber]
  cases context with
  | none => exact hmessage
  | some c =>
      cases hname : c.fileName with
      | none => simp +decide [SourceContext.locate, hname, hposition, hmessage]
      | some name =>
          have hfile := (hcontext c rfl).fileName name hname
          simp +decide [SourceContext.locate, hname, hposition, hmessage, hfile]

/-! ## Notes -/

/-- A name that is suggested is a candidate. -/
theorem Similarity.mem_of_mem_didYouMean {value name : String} {candidates : List String}
    (h : name ∈ didYouMean value candidates) : name ∈ candidates := by
  rw [didYouMean_eq_rank] at h
  exact ((ranks_rank score threshold value candidates).mem_iff.1 h).1

/-- The note on a dead link has escape characters only from the known names. -/
theorem Similarity.unescaped_deadLinkNote? {target note : String} {names : Option (List String)}
    (hnames : ∀ known ∈ names, ∀ name ∈ known, Unescaped name)
    (h : deadLinkNote? target names = some note) : Unescaped note := by
  obtain ⟨known, hknown, h⟩ := Option.bind_eq_some_iff.1 h
  obtain ⟨name, hname, rfl⟩ := Option.map_eq_some_iff.1 h
  have hunescaped := hnames known hknown name
    (mem_of_mem_didYouMean (List.mem_of_mem_head? hname))
  simp +decide [hunescaped]

/-- A repair of a link adds no character. -/
theorem Link.repairOf_subset (link : List Char) : repairOf link ⊆ link :=
  Text.replaceFirst_subset (Text.trim_isInfix _).subset link

/-- The note on a repair has escape characters only from the link. -/
theorem Link.unescaped_repairNote? {link note : String} (hlink : Unescaped link)
    (h : repairNote? link = some note) : Unescaped note := by
  unfold repairNote? at h
  split at h
  · cases h
  · obtain rfl := Option.some.inj h
    have hrepair : Unescaped (repair link) := unescaped_ofList hlink (repairOf_subset _)
    simp +decide [hlink, hrepair]

/-! ## Issues -/

namespace Issue

variable {issue : Issue} {files : StoryFiles}

/-- The texts of an issue that its report can show hold no escape character. -/
structure Unescaped (issue : Issue) : Prop where
  message : Terminal.Unescaped issue.message
  context : ∀ c ∈ issue.context, c.Texts Terminal.Unescaped

/-- The name of an issue has no escape character. -/
theorem unescaped_name (issue : Issue) : Terminal.Unescaped issue.name := by
  cases issue with
  | error e => exact e.kind.unescaped_name
  | warning w denied => exact w.kind.unescaped_name

/-- The text of an issue has escape characters only from the story. -/
theorem Unescaped.text (h : issue.Unescaped) : Terminal.Unescaped issue.text := by
  rw [text_eq_locate]
  exact SourceContext.unescaped_locate h.context h.message

/-- A context of texts without escape characters has no escape character in its range. -/
theorem unescaped_contents {c : SourceContext} (h : c.Texts Terminal.Unescaped) :
    Terminal.Unescaped c.contents :=
  unescaped_ofList h.text (List.Subset.trans (List.take_subset _ _) (List.drop_subset _ _))

/-- What is suggested for an issue has escape characters only from the story. -/
theorem Unescaped.suggestion? (h : issue.Unescaped) (hfiles : files.Unescaped) {note : String}
    (hnote : issue.suggestion? files = some note) : Terminal.Unescaped note := by
  obtain ⟨w, denied, rfl, ⟨-, target, -, hnote⟩ | ⟨-, c, hc, hnote⟩⟩ := suggestion?_cases hnote
  · exact Similarity.unescaped_deadLinkNote? hfiles.passageNames hnote
  · exact Link.unescaped_repairNote? (unescaped_contents (h.context c hc)) hnote

/-- The diagnostic of an issue has escape characters only from the story. -/
theorem Unescaped.diagnostic (h : issue.Unescaped) (hfiles : files.Unescaped) :
    (issue.diagnostic files).Unescaped where
  message := diagnostic_message ▸ h.message
  code := diagnostic_code ▸ issue.unescaped_name
  labels := by
    cases hresolve : files.resolve? issue.context with
    | none => simp [Issue.diagnostic, hresolve]
    | some place =>
        rw [labels_of_resolve? hresolve]
        intro label hlabel
        obtain rfl | hearlier := List.mem_cons.1 hlabel
        · show Terminal.Unescaped ""
          decide
        · obtain ⟨_, -, rfl⟩ := Option.map_eq_some_iff.1 (Option.mem_toList.1 hearlier)
          show Terminal.Unescaped earlierMessage
          decide
  notes note hnote := h.suggestion? hfiles (suggestion?_of_mem_notes hnote)

/-- A report on one issue shows the same with colour as without. -/
theorem Unescaped.shows_reportText (h : issue.Unescaped) (hfiles : files.Unescaped)
    (compact : Bool) :
    Shows (issue.reportText true compact files) (issue.reportText false compact files) := by
  cases compact with
  | false => exact Diagnostic.shows_render (h.diagnostic hfiles) hfiles
  | true =>
      have hseverity : Terminal.Unescaped issue.compactSeverity.text := by
        rw [compactSeverity]
        cases issue.severity <;> decide
      have hline : Terminal.Unescaped (issue.text ++ "\n") :=
        unescaped_append.2 ⟨h.text, by decide⟩
      simp only [reportText, compactTexts, if_true, String.join_cons, String.join_nil]
      exact (shows_render hseverity).append ((Shows.plain hline).append Shows.empty)

end Issue

/-! ## Reports -/

variable {output : StoryOutput}

/-- What a report knows of a story holds no escape character if the texts of the story do not. -/
theorem StoryOutput.Texts.files_unescaped (h : output.Texts Unescaped) :
    (StoryFiles.ofResult output.result).Unescaped where
  sources := by
    rw [codeMap_ofResult]
    exact h.files
  passageNames := by
    cases hresult : output.result with
    | story story =>
        rintro known ⟨⟩
        exact h.passageNames story hresult
    | errors list map => exact fun known hknown => nomatch hknown

/-- A story without escape characters has issues without any. -/
theorem StoryOutput.Texts.issue_unescaped (h : output.Texts Unescaped) {policy : Policy}
    {issue : Issue} (hissue : issue ∈ (output.classification policy).issues) :
    issue.Unescaped := by
  obtain ⟨e, he, rfl⟩ | ⟨w, hw, denied, rfl⟩ := StoryOutput.mem_classification hissue
  · obtain ⟨hdetail, hcontext⟩ := h.errors e he
    exact ⟨e.kind.unescaped_template.format hdetail, hcontext⟩
  · obtain ⟨hdetail, hcontext⟩ := h.warnings w hw
    exact ⟨w.kind.unescaped_template.format hdetail, hcontext⟩

/-- The report on any of the issues, one after the other, shows the same with colour as without. -/
theorem StoryOutput.Texts.shows_issues (h : output.Texts Unescaped) (policy : Policy)
    (compact : Bool) {issues : List Issue}
    (hissues : issues ⊆ (output.classification policy).issues) :
    Shows (String.join (issues.map (Issue.reportText true compact (.ofResult output.result))))
      (String.join (issues.map (Issue.reportText false compact (.ofResult output.result)))) :=
  Shows.join_map fun _ hissue =>
    (h.issue_unescaped (hissues hissue)).shows_reportText h.files_unescaped compact

/-- What linting writes to a new stream that never fails. -/
theorem output_lint_new {config : Config} {terminal : Option Bool} {colored : Bool}
    (h : config.color.enabledFor terminal = colored) :
    (lint output config { terminal }).sink.output =
      String.join ((output.classification config.policy).issues.map
        (Issue.reportText colored config.compact (.ofResult output.result))) ++
        Sink.closing colored := by
  have hlint : (lint output config { terminal }).sink.output =
      "" ++ output.reportText config (config.color.enabledFor terminal) :=
    output_lint output config rfl rfl
  rw [hlint, h, String.empty_append, StoryOutput.reportText, Issue.join_reportTexts]

/-- With colour, linting writes what it writes without, as far as a terminal shows it. When it has
written an issue completely, no colour is in force, and none is at the end. -/
theorem lint_color {source : Option String} {document : Json}
    (hread : Dump.read source document = .ok output)
    (hdocument : ∀ text ∈ document.texts, Unescaped text) (config : Config)
    (on off : ColorChoice) (terminal terminal' : Option Bool)
    (hon : on.enabledFor terminal = true) (hoff : off.enabledFor terminal' = false) :
    let report := Issue.reportText true config.compact (.ofResult output.result)
    let completed (count : Nat) :=
      String.join (((output.classification config.policy).issues.take count).map report)
    let painted := (lint output { config with color := on } { terminal }).sink.output
    let plain := (lint output { config with color := off } { terminal := terminal' }).sink.output
    erase painted = plain ∧ codesAfter painted = [] ∧
      ∀ count, (∃ rest, painted = completed count ++ rest) ∧ codesAfter (completed count) = [] := by
  intro report completed painted plain
  have htexts := Dump.texts_of_read hread (by decide) hdocument
  have hpainted : painted =
      String.join ((output.classification config.policy).issues.map report) ++ resetSequence :=
    output_lint_new hon
  have hplain : plain = String.join ((output.classification config.policy).issues.map
      (Issue.reportText false config.compact (.ofResult output.result))) ++ "" :=
    output_lint_new hoff
  have hshows : Shows painted plain := by
    rw [hpainted, hplain]
    exact (htexts.shows_issues config.policy config.compact (List.Subset.refl _)).append
      Shows.reset
  -- The first issues of a report are a report on fewer issues, which shows what it should as well.
  refine ⟨hshows.erase_eq, hshows.codesAfter_eq, fun count => ⟨⟨String.join
    (((output.classification config.policy).issues.drop count).map report) ++ resetSequence, ?_⟩,
    (htexts.shows_issues config.policy config.compact (List.take_subset count _)).codesAfter_eq⟩⟩
  rw [hpainted, ← String.append_assoc, ← String.join_append, ← List.map_append,
    List.take_append_drop]

/-- A document with a link that is not closed. -/
def openLinkDocument : Json :=
  .object
    [("files", .object [("a", .text "[[x")]),
     ("warnings", .array
       [.object [("kind", .text "unclosed-link"), ("context", .object [("file", .text "a")])]])]

/-- A story with a link that is not closed. -/
def openLinkOutput : StoryOutput :=
  { result := .story { codeMap := { files := [⟨"a", "[[x"⟩], names_nodup := by decide } }
    warnings := [{ kind := .unclosedLink, context := some (.whole (some "a") "[[x") }] }

/-- The warning about the link shows the same in colour as without. -/
theorem lint_color_open_link :
    Dump.read none openLinkDocument = .ok openLinkOutput ∧
      (∀ text ∈ openLinkDocument.texts, Unescaped text) ∧
      erase (lint openLinkOutput { color := .always } {}).sink.output =
        (lint openLinkOutput { color := .never } {}).sink.output ∧
      codesAfter (lint openLinkOutput { color := .always } {}).sink.output = [] := by
  have hread : Dump.read none openLinkDocument = .ok openLinkOutput :=
    Dump.read_eq_ok_iff.2 <| .story (.given rfl rfl)
      (.given rfl <| .cons (.entry rfl (.absent rfl)
        (.given rfl ⟨.file rfl rfl, .missing rfl, .missing rfl⟩) (.absent rfl)) .nil)
      (.absent rfl) (.absent rfl) rfl (.absent rfl)
  have htexts : ∀ text ∈ openLinkDocument.texts, Unescaped text := by decide
  obtain ⟨herase, hcodes, -⟩ := lint_color hread htexts {} .always .never none none rfl rfl
  exact ⟨hread, htexts, herase, hcodes⟩

end StoryLint
