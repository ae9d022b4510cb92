import StoryLint.Proofs.Dump.Format
import StoryLint.Proofs.Fields
import StoryLint.Proofs.Source.CodeMap

/-!
# Contexts that are read

A context that names a file is read with the text of that file, so that every context of a story
lies in the story's code map. That holds of the places of warnings, errors and passages, and of
the earlier places that warnings refer to; `contexts_inMap` is the result for a whole document.
-/

namespace StoryLint

/-- Every context of a story lies in the files of the story. -/
structure StoryOutput.InMap (output : StoryOutput) : Prop where
  warnings : ∀ w ∈ output.warnings, ∀ c ∈ w.context, c.InMap output.result.codeMap
  referents : ∀ w ∈ output.warnings, ∀ c ∈ w.referent, c.InMap output.result.codeMap
  errors : ∀ e ∈ output.result.errorList, ∀ c ∈ e.context, c.InMap output.result.codeMap
  passages : ∀ story, output.result = .story story →
    ∀ p ∈ story.passages, ∀ c ∈ p.context, c.InMap output.result.codeMap

/-- Leaving out passages of one name adds none. -/
theorem Passage.mem_of_mem_distinct {p : Passage} {passages : List Passage}
    (h : p ∈ Passage.distinct passages) : p ∈ passages := by
  obtain ⟨field, hfield, rfl⟩ := List.mem_map.1 h
  obtain ⟨p, hp, rfl⟩ := List.mem_map.1 (Fields.mem_of_mem_distinct hfield)
  exact hp

namespace Dump

variable {map : CodeMap} {fields : Object} {name : String} {value : Json}

/-- A context that is stated lies in the files of the document. -/
theorem StatesContext.inMap {c : SourceContext} (h : StatesContext map fields c) :
    c.InMap map := by
  intro name hname
  have htext := h.text
  rw [hname] at htext
  cases htext with
  | file _ htext => exact CodeMap.text?_eq_some_iff.1 htext

/-- A context that may be missing lies in the files if it is stated. -/
theorem StatesContext?.inMap {context : Option SourceContext}
    (h : StatesContext? map fields name context) : ∀ c ∈ context, c.InMap map := by
  rintro c rfl
  cases h with
  | given _ hc => exact hc.inMap

/-- The place of a warning that is stated lies in the files, and so does its earlier place. -/
theorem StatesWarning.inMap {w : Warning} (h : StatesWarning map value w) :
    (∀ c ∈ w.context, c.InMap map) ∧ ∀ c ∈ w.referent, c.InMap map := by
  obtain ⟨-, -, hcontext, hreferent⟩ := h
  exact ⟨hcontext.inMap, hreferent.inMap⟩

/-- The place of an error that is stated lies in the files. -/
theorem StatesError.inMap {e : ParseError} (h : StatesError map value e) :
    ∀ c ∈ e.context, c.InMap map := by
  obtain ⟨-, -, hcontext⟩ := h
  exact hcontext.inMap

/-- The place of a passage that is stated lies in the files. -/
theorem StatesPassage.inMap {p : Passage} (h : StatesPassage map value p) :
    ∀ c ∈ p.context, c.InMap map := by
  intro c hc
  obtain ⟨-, -, hcontext, -⟩ := h
  rw [hc] at hcontext
  cases hcontext with
  | given _ hc => exact hc.inMap

/-- Every context that a document states lies in the files that it states. -/
theorem States.inMap {output : StoryOutput} (h : States value output) : output.InMap := by
  cases h with
  | story _ hwarnings _ hpassages hdistinct _ =>
      have hwarning := hwarnings.forall_mem fun _ _ => StatesWarning.inMap
      refine ⟨fun w hw => (hwarning w hw).1, fun w hw => (hwarning w hw).2,
        fun e he => (List.not_mem_nil he).elim, ?_⟩
      rintro story ⟨⟩ p hp
      -- A passage of the story is one of those that are stated, though not each of these is.
      rw [hdistinct] at hp
      exact hpassages.forall_mem (fun _ _ => StatesPassage.inMap) p
        (Passage.mem_of_mem_distinct hp)
  | errors _ hwarnings herrors _ =>
      have hwarning := hwarnings.forall_mem fun _ _ => StatesWarning.inMap
      exact ⟨fun w hw => (hwarning w hw).1, fun w hw => (hwarning w hw).2,
        herrors.forall_mem fun _ _ => StatesError.inMap, fun story hstory => (nomatch hstory)⟩

/-- Reading a document gives no context outside its files. -/
theorem contexts_inMap {source : Option String} {output : StoryOutput}
    (h : read source value = .ok output) : output.InMap :=
  (read_eq_ok_iff.1 h).inMap

end Dump

end StoryLint
