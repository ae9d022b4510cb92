import StoryLint.Proofs.Dump.Contexts

/-!
# Texts that are read

What is read of a document is made of the document's own texts, the names of its fields included.
A property that all of them have, and the empty text too, is therefore a property of everything
that a report can show of the story: `texts_of_read`.
-/

namespace StoryLint

namespace Json

mutual

/-- The texts in a value, the names of fields included. -/
def texts : Json → List String
  | .null | .bool _ | .integer _ | .real _ => []
  | .text s => [s]
  | .array items => textsOfItems items
  | .object fields => textsOfFields fields

/-- The texts in the items of an array. -/
def textsOfItems : List Json → List String
  | [] => []
  | item :: rest => texts item ++ textsOfItems rest

/-- The texts in the fields of an object. -/
def textsOfFields : List (String × Json) → List String
  | [] => []
  | (name, value) :: rest => name :: (texts value ++ textsOfFields rest)

end

variable {items : List Json} {item value : Json} {fields : List (String × Json)} {name : String}

/-- The texts of an item are texts of the array. -/
theorem texts_subset_of_mem_items (h : item ∈ items) : item.texts ⊆ (array items).texts := by
  rw [texts]
  induction items with
  | nil => cases h
  | cons first rest ih =>
      rw [textsOfItems]
      obtain rfl | hrest := List.mem_cons.1 h
      · exact List.subset_append_left _ _
      · exact List.Subset.trans (ih hrest) (List.subset_append_right _ _)

/-- The name and the texts of a field are texts of the object. -/
theorem texts_subset_of_mem_fields (h : (name, value) ∈ fields) :
    name :: value.texts ⊆ (object fields).texts := by
  rw [texts]
  induction fields with
  | nil => cases h
  | cons field rest ih =>
      obtain ⟨firstName, firstValue⟩ := field
      rw [textsOfFields]
      obtain heq | hrest := List.mem_cons.1 h
      · obtain ⟨rfl, rfl⟩ := Prod.mk.inj heq
        exact List.cons_subset_cons _ (List.subset_append_left _ _)
      · exact List.Subset.trans (ih hrest)
          (List.Subset.trans (List.subset_append_right _ _) (List.subset_cons_self _ _))

/-- The texts of a value that is looked up are texts of the object. -/
theorem texts_subset_of_get? (h : Fields.get? name fields = some value) :
    value.texts ⊆ (object fields).texts :=
  List.Subset.trans (List.subset_cons_self _ _) (texts_subset_of_mem_fields (Fields.mem_of_get? h))

end Json

variable {P : String → Prop}

/-- The texts of a context have a property. -/
structure SourceContext.Texts (P : String → Prop) (c : SourceContext) : Prop where
  fileName : ∀ name ∈ c.fileName, P name
  text : P c.text

/-- The texts of a story that a report can show have a property. -/
structure StoryOutput.Texts (P : String → Prop) (output : StoryOutput) : Prop where
  files : ∀ file ∈ output.result.codeMap.files, P file.name ∧ P file.text
  warnings : ∀ w ∈ output.warnings, (∀ detail ∈ w.detail, P detail) ∧ ∀ c ∈ w.context, c.Texts P
  errors : ∀ e ∈ output.result.errorList,
    (∀ detail ∈ e.detail, P detail) ∧ ∀ c ∈ e.context, c.Texts P
  passageNames : ∀ story, output.result = .story story → ∀ name ∈ story.passageNames, P name

namespace Dump

variable {map : CodeMap} {fields document : Object} {name : String} {value : Json}

/-- The texts of a list's entries are texts of the document. -/
theorem StatesList.exists_entry_texts {α : Type} {list : EntryList} {states : Json → α → Prop}
    {values : List α} {v : α} (h : StatesList document list states values) (hv : v ∈ values)
    (hP : ∀ s ∈ (Json.object document).texts, P s) :
    ∃ entry, states entry v ∧ ∀ s ∈ entry.texts, P s := by
  obtain ⟨items, entry, hfield, hentry, hstates⟩ := h.exists_entry hv
  exact ⟨entry, hstates, fun s hs =>
    hP s (Json.texts_subset_of_get? hfield (Json.texts_subset_of_mem_items hentry hs))⟩

/-- A text that is stated is a text of the object. -/
theorem StatesText?.texts {text : Option String} (h : StatesText? fields name text)
    (hP : ∀ s ∈ (Json.object fields).texts, P s) : ∀ s ∈ text, P s := by
  rintro s rfl
  cases h with
  | given hfield => exact hP s (Json.texts_subset_of_get? hfield (by simp [Json.texts]))

/-- The names and the texts of the files are texts of the document. -/
theorem StatesFiles.texts (h : StatesFiles document map)
    (hP : ∀ s ∈ (Json.object document).texts, P s) :
    ∀ file ∈ map.files, P file.name ∧ P file.text := by
  intro file hfile
  cases h with
  | @given texts hfield hfiles =>
      have hmem : (file.name, .text file.text) ∈ Fields.distinct texts := by
        rw [hfiles]
        exact List.mem_map_of_mem hfile
      have hsubset := List.Subset.trans
        (Json.texts_subset_of_mem_fields (Fields.mem_of_mem_distinct hmem))
        (Json.texts_subset_of_get? hfield)
      exact ⟨hP _ (hsubset (by simp)), hP _ (hsubset (by simp [Json.texts]))⟩
  | missing _ hnone => simp [hnone] at hfile

/-- What holds of the empty text, the files and the texts of an object holds of the context it
states. -/
theorem StatesContext.texts {c : SourceContext} (h : StatesContext map fields c) (hempty : P "")
    (hfiles : ∀ file ∈ map.files, P file.name ∧ P file.text)
    (hP : ∀ s ∈ (Json.object fields).texts, P s) : c.Texts P := by
  have htext := h.text
  refine ⟨fun name hname => (hfiles _ (h.inMap name hname)).1, ?_⟩
  cases hname : c.fileName with
  | some name => exact (hfiles _ (h.inMap name hname)).2
  | none =>
      rw [hname] at htext
      generalize c.text = text at htext
      cases htext with
      | inline _ hfield => exact hP _ (Json.texts_subset_of_get? hfield (by simp [Json.texts]))
      | empty => exact hempty

/-- The same of a context that may be missing: it has no other texts. -/
theorem StatesContext?.texts {context : Option SourceContext}
    (h : StatesContext? map fields name context) (hempty : P "")
    (hfiles : ∀ file ∈ map.files, P file.name ∧ P file.text)
    (hP : ∀ s ∈ (Json.object fields).texts, P s) : ∀ c ∈ context, c.Texts P := by
  rintro c rfl
  cases h with
  | given hfield hc =>
      exact hc.texts hempty hfiles fun s hs => hP s (Json.texts_subset_of_get? hfield hs)

/-- A warning has no texts but those of its entry and of the files. -/
theorem StatesWarning.texts {w : Warning} (h : StatesWarning map value w) (hempty : P "")
    (hfiles : ∀ file ∈ map.files, P file.name ∧ P file.text) (hP : ∀ s ∈ value.texts, P s) :
    (∀ detail ∈ w.detail, P detail) ∧ ∀ c ∈ w.context, c.Texts P := by
  obtain ⟨-, hdetail, hcontext, -⟩ := h
  exact ⟨hdetail.texts hP, hcontext.texts hempty hfiles hP⟩

/-- An error has no texts but those of its entry and of the files. -/
theorem StatesError.texts {e : ParseError} (h : StatesError map value e) (hempty : P "")
    (hfiles : ∀ file ∈ map.files, P file.name ∧ P file.text) (hP : ∀ s ∈ value.texts, P s) :
    (∀ detail ∈ e.detail, P detail) ∧ ∀ c ∈ e.context, c.Texts P := by
  obtain ⟨-, hdetail, hcontext⟩ := h
  exact ⟨hdetail.texts hP, hcontext.texts hempty hfiles hP⟩

/-- The name of a passage is a text of its entry. -/
theorem StatesPassage.texts {p : Passage} (h : StatesPassage map value p)
    (hP : ∀ s ∈ value.texts, P s) : P p.name := by
  obtain ⟨hname, -, -, -⟩ := h
  exact hP _ (Json.texts_subset_of_get? hname (by simp [Json.texts]))

/-- What holds of the empty text and the texts of a document holds of the texts of its result. -/
theorem States.texts {output : StoryOutput} (h : States value output) (hempty : P "")
    (hP : ∀ s ∈ value.texts, P s) : output.Texts P := by
  cases h with
  | story hfiles hwarnings _ hpassages hdistinct _ =>
      refine ⟨hfiles.texts hP, fun w hw => ?_, fun e he => (List.not_mem_nil he).elim, ?_⟩
      · obtain ⟨_, hw, hentry⟩ := hwarnings.exists_entry_texts hw hP
        exact hw.texts hempty (hfiles.texts hP) hentry
      · rintro story ⟨⟩ name hname
        obtain ⟨p, hp, rfl⟩ := List.mem_map.1 hname
        rw [hdistinct] at hp
        obtain ⟨_, hp, hentry⟩ :=
          hpassages.exists_entry_texts (Passage.mem_of_mem_distinct hp) hP
        exact hp.texts hentry
  | errors hfiles hwarnings herrors _ =>
      refine ⟨hfiles.texts hP, fun w hw => ?_, fun e he => ?_,
        fun story hstory => (nomatch hstory)⟩
      · obtain ⟨_, hw, hentry⟩ := hwarnings.exists_entry_texts hw hP
        exact hw.texts hempty (hfiles.texts hP) hentry
      · obtain ⟨_, he, hentry⟩ := herrors.exists_entry_texts he hP
        exact he.texts hempty (hfiles.texts hP) hentry

/-- What is read of a document has the properties of the document's texts. -/
theorem texts_of_read {source : Option String} {output : StoryOutput}
    (h : read source value = .ok output) (hempty : P "") (hP : ∀ s ∈ value.texts, P s) :
    output.Texts P :=
  (read_eq_ok_iff.1 h).texts hempty hP

end Dump

end StoryLint
