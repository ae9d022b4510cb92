import StoryLint.Dump.Reader
import StoryLint.Proofs.Except
import StoryLint.Proofs.Json.Shown

/-!
# Documents that are not read

Reading a document ends in three ways: in what the document states, in a fault of its form with
the place of the fault, or at an obstacle. An obstacle is no fault of the documented form: an array
or an object for a file name, which cannot even be looked up among the files, or an integer with
too many digits where a value has to be written, as a file name in a reason or as the content of a
passage.

`Reached` says which spots of a document reading comes to, the file names that are looked up and the
contents that are stated. `Spot.Meets` says where the obstacles are. `read_ok_or_malformed_iff`
is the main result: a document is read or answered with the place of a fault exactly if no spot
that reading comes to meets an obstacle.
-/

namespace StoryLint.Dump

/-- The entry with the given index is reached: it is there, and those before it are read. -/
structure EntryReached {α : Type} (read : Nat → Json → Except Fault α) (items : List Json)
    (index : Nat) (entry : Json) : Prop where
  here : items[index]? = some entry
  before : ∃ firsts, readEntries read 0 (items.take index) = .ok firsts

/-- A list fails at the first entry that fails. -/
theorem readEntries_eq_error_iff {α : Type} {read : Nat → Json → Except Fault α} {start : Nat}
    {items : List Json} {fault : Fault} :
    readEntries read start items = .error fault ↔
      ∃ index entry, items[index]? = some entry ∧
        (∃ firsts, readEntries read start (items.take index) = .ok firsts) ∧
        read (start + index) entry = .error fault := by
  induction items generalizing start with
  | nil => simp [readEntries]
  | cons item rest ih =>
      -- The first item fails, or it is read and the rest fails, counted from the next index.
      simp only [readEntries, bind_eq_error_iff, pure_ne_error, ih]
      constructor
      · intro h
        obtain hitem | ⟨first, hfirst, hrest | ⟨-, -, habsurd⟩⟩ := h
        · exact ⟨0, item, rfl, ⟨[], rfl⟩, hitem⟩
        · obtain ⟨index, entry, hentry, ⟨firsts, hfirsts⟩, hfault⟩ := hrest
          refine ⟨index + 1, entry, hentry, ⟨first :: firsts, ?_⟩, ?_⟩
          · simp [readEntries, hfirst, hfirsts, bind, Except.bind, pure, Except.pure]
          · rwa [Nat.add_right_comm] at hfault
        · exact habsurd.elim
      · intro h
        obtain ⟨index, entry, hentry, ⟨firsts, hfirsts⟩, hfault⟩ := h
        cases index with
        | zero =>
            obtain rfl := Option.some.inj hentry
            exact .inl hfault
        | succ index =>
            simp only [List.take_succ_cons, readEntries, bind_eq_ok_iff] at hfirsts
            obtain ⟨first, hfirst, others, hothers, -⟩ := hfirsts
            refine .inr ⟨first, hfirst, .inl ⟨index, entry, hentry, ⟨others, hothers⟩, ?_⟩⟩
            rwa [Nat.add_right_comm]

/-! ## Steps that never meet an obstacle -/

variable {map : CodeMap} {place : Place} {document object fields : Object} {value : Json}
  {index : Nat} {obstacle : Obstacle}

/-- Whether a value is an object meets no obstacle. -/
@[simp] theorem readObject_ne_obstacle :
    readObject place value ≠ .error (.obstacle obstacle) := by
  cases value <;> simp [readObject]

/-- Finding a list meets no obstacle. -/
@[simp] theorem entries_ne_obstacle {list : EntryList} :
    entries document list ≠ .error (.obstacle obstacle) := by
  unfold entries
  split <;> simp

/-- The name of a kind is a text or malformed. -/
@[simp] theorem readKindName_ne_obstacle :
    readKindName place object ≠ .error (.obstacle obstacle) := by
  unfold readKindName
  split <;> simp

/-- A kind is known or malformed. -/
@[simp] theorem readKind_ne_obstacle {κ : Type} {ofName : String → Except UnknownKind κ} :
    readKind ofName place object ≠ .error (.obstacle obstacle) := by
  simp only [readKind, ne_eq, bind_eq_error_iff, readKindName_ne_obstacle, false_or]
  intro h
  obtain ⟨name, -, h⟩ := h
  split at h <;> simp at h

/-- A detail is a text or malformed. -/
@[simp] theorem readDetail_ne_obstacle :
    readDetail place object ≠ .error (.obstacle obstacle) := by
  unfold readDetail
  split <;> simp

/-- Tags are texts or malformed. -/
@[simp] theorem readTags_ne_obstacle :
    readTags place object ≠ .error (.obstacle obstacle) := by
  simp only [readTags]
  split
  · simp
  · split <;> simp

/-- The name of a passage is a text or malformed. -/
@[simp] theorem readPassageName_ne_obstacle :
    readPassageName place object ≠ .error (.obstacle obstacle) := by
  unfold readPassageName
  split <;> simp

/-- A title is a text or malformed. -/
@[simp] theorem readTitle_ne_obstacle :
    readTitle document ≠ .error (.obstacle obstacle) := by
  unfold readTitle
  split <;> simp

/-- The texts of files are texts or malformed. -/
@[simp] theorem readFileList_ne_obstacle :
    readFileList fields ≠ .error (.obstacle obstacle) := by
  induction fields with
  | nil => simp [readFileList]
  | cons field rest ih =>
      obtain ⟨name, value⟩ := field
      cases value <;> simp [readFileList, readFile, bind_eq_error_iff, map_eq_error_iff, ih]

/-- Reading the files meets no obstacle. -/
@[simp] theorem readFiles_ne_obstacle :
    readFiles document ≠ .error (.obstacle obstacle) := by
  unfold readFiles readCodeMap
  split
  · simp
  · split
    · rename_i fault hfault
      intro h
      obtain rfl := Except.error.inj h
      exact readFileList_ne_obstacle hfault
    · simp
  · simp

/-! ## Spots -/

/-- A spot of a document where reading may meet an obstacle: a value that is looked up as a file
name, or that a passage states as its content. -/
inductive Spot where
  | fileName (value : Json)
  | content (value : Json)

namespace Spot

/-- The obstacle that a spot meets. An integer is never the name of a file and has to be written to
say so; a content is written unless it is a text. -/
inductive Meets : Spot → Obstacle → Prop where
  | array {items : List Json} : Meets (.fileName (.array items)) (.container .array)
  | object {fields : Object} : Meets (.fileName (.object fields)) (.container .object)
  | longName {n : Int} :
      Number.mostDigits < Number.decimalLength n.natAbs →
      Meets (.fileName (.integer n)) (.tooManyDigits .written)
  | longContent {value : Json} :
      value.HoldsLongInteger → Meets (.content value) (.tooManyDigits .written)

/-- A content meets an obstacle if it holds an integer that is too long. -/
theorem meets_content_iff :
    Meets (.content value) obstacle ↔ obstacle = .tooManyDigits .written ∧ value.HoldsLongInteger :=
  ⟨fun | .longContent h => ⟨rfl, h⟩, fun ⟨h, hlong⟩ => h ▸ .longContent hlong⟩

/-- A container is no file name. -/
theorem meets_array_iff {items : List Json} :
    Meets (.fileName (.array items)) obstacle ↔ obstacle = .container .array :=
  ⟨fun | .array => rfl, fun h => h ▸ .array⟩

/-- A container is no file name. -/
theorem meets_object_iff :
    Meets (.fileName (.object fields)) obstacle ↔ obstacle = .container .object :=
  ⟨fun | .object => rfl, fun h => h ▸ .object⟩

/-- Any other value meets an obstacle as a file name if it is an integer that is too long. -/
theorem meets_fileName_iff (harray : ∀ items, value ≠ .array items)
    (hobject : ∀ fields, value ≠ .object fields) :
    Meets (.fileName value) obstacle ↔
      obstacle = .tooManyDigits .written ∧ value.HoldsLongInteger := by
  constructor
  · rintro (_ | _ | hlong)
    · exact absurd rfl (harray _)
    · exact absurd rfl (hobject _)
    · exact ⟨rfl, .integer hlong⟩
  · rintro ⟨rfl, hlong | ⟨-, -⟩ | ⟨-, -⟩⟩
    · exact .longName hlong
    · exact absurd rfl (harray _)
    · exact absurd rfl (hobject _)

end Spot

/-! ## Contexts -/

/-- A file name that is not known is reported, unless it cannot be written. -/
theorem unknownFile_eq_obstacle_iff (place : Place) :
    unknownFile place value = .obstacle obstacle ↔
      obstacle = .tooManyDigits .written ∧ value.HoldsLongInteger := by
  rw [unknownFile]
  cases h : value.shown with
  | ok shown =>
      have hshort : ¬ value.HoldsLongInteger := by
        intro hlong
        have herror := (Json.shown_eq_error_iff value .written).2 ⟨rfl, hlong⟩
        rw [h] at herror
        cases herror
      simp [hshort]
  | error e =>
      obtain ⟨rfl, hlong⟩ := (Json.shown_eq_error_iff value e).1 h
      simp [hlong, eq_comm]

/-- The text of a context is found or reported, unless its file name meets an obstacle. -/
theorem readText_eq_obstacle_iff (map : CodeMap) (place : Place) :
    readText map place object = .error (.obstacle obstacle) ↔
      ∃ file, Fields.get? "file" object = some file ∧ Spot.Meets (.fileName file) obstacle := by
  unfold readText present?
  cases Fields.get? "file" object with
  | none =>
      simp only [reduceCtorEq, false_and, exists_false, iff_false]
      split <;> simp
  | some value =>
      simp only [Option.some.injEq, exists_eq_left']
      cases value with
      | array items => simp [Spot.meets_array_iff, eq_comm]
      | object fields => simp [Spot.meets_object_iff, eq_comm]
      | null =>
          have hnone : ¬ Spot.Meets (.fileName .null) obstacle := by simp [Spot.meets_fileName_iff]
          simp only [hnone, iff_false]
          split <;> simp
      | text name =>
          have hnone : ¬ Spot.Meets (.fileName (.text name)) obstacle := by
            simp [Spot.meets_fileName_iff]
          simp only [hnone, iff_false]
          split <;> simp [unknownFile_eq_obstacle_iff]
      | bool b => simp [unknownFile_eq_obstacle_iff, Spot.meets_fileName_iff]
      | integer n => simp [unknownFile_eq_obstacle_iff, Spot.meets_fileName_iff]
      | real x => simp [unknownFile_eq_obstacle_iff, Spot.meets_fileName_iff]

/-- A context is read or reported, unless its file name meets an obstacle. -/
theorem readContext_eq_obstacle_iff (map : CodeMap) (place : Place) :
    readContext map place object = .error (.obstacle obstacle) ↔
      ∃ file, Fields.get? "file" object = some file ∧ Spot.Meets (.fileName file) obstacle := by
  rw [← readText_eq_obstacle_iff map place]
  simp only [readContext, bind_eq_error_iff, or_iff_left_iff_imp]
  intro h
  obtain ⟨⟨fileName, text⟩, -, h⟩ := h
  -- With a text at hand only the range can be at fault, and that has a place.
  exfalso
  dsimp only at h
  split at h
  · split at h <;> simp at h
  · simp at h

/-- A context in a field of an entry names a file. -/
def NamesFile (object : Object) (name : String) (file : Json) : Prop :=
  ∃ context, Fields.get? name object = some (.object context) ∧
    Fields.get? "file" context = some file

/-- The context in a field meets the obstacle of the file that it names. -/
theorem readContext?_eq_obstacle_iff (map : CodeMap) (place : Place) {name : String} :
    readContext? map place object name = .error (.obstacle obstacle) ↔
      ∃ file, NamesFile object name file ∧ Spot.Meets (.fileName file) obstacle := by
  unfold readContext? present? NamesFile
  cases Fields.get? name object with
  | none => simp
  | some value =>
      cases value with
      | object fields =>
          simp [readObject, bind_eq_error_iff, map_eq_error_iff, readContext_eq_obstacle_iff]
      | _ => simp [readObject, bind_eq_error_iff]

/-! ## Entries -/

/-- The spots that reading a warning comes to: the file of its context after kind and detail, and
that of its referent after the context. -/
inductive InWarning (map : CodeMap) (index : Nat) : Json → Spot → Prop where
  | context {fields file kind detail} :
      readKind WarningKind.ofName (.entry .warnings index []) fields = .ok kind →
      readDetail (.entry .warnings index []) fields = .ok detail →
      NamesFile fields "context" file →
      InWarning map index (.object fields) (.fileName file)
  | referent {fields file kind detail first} :
      readKind WarningKind.ofName (.entry .warnings index []) fields = .ok kind →
      readDetail (.entry .warnings index []) fields = .ok detail →
      readContext? map (.entry .warnings index []) fields "context" = .ok first →
      NamesFile fields "referent" file →
      InWarning map index (.object fields) (.fileName file)

/-- The spot that reading an error comes to: the file of its context, after kind and detail. -/
inductive InError (index : Nat) : Json → Spot → Prop where
  | context {fields file kind detail} :
      readKind ErrorKind.ofName (.entry .errors index []) fields = .ok kind →
      readDetail (.entry .errors index []) fields = .ok detail →
      NamesFile fields "context" file →
      InError index (.object fields) (.fileName file)

/-- The spots that reading a passage comes to: after name and tags its own file, if it has a start,
and after its context the content that it states. -/
inductive InPassage (map : CodeMap) (index : Nat) : Json → Spot → Prop where
  | itself {fields name tags file} :
      readPassageName (.entry .passages index []) fields = .ok name →
      readTags (.entry .passages index []) fields = .ok tags →
      (Fields.get? "start" fields).isSome →
      Fields.get? "file" fields = some file →
      InPassage map index (.object fields) (.fileName file)
  | content {fields name tags context value} :
      readPassageName (.entry .passages index []) fields = .ok name →
      readTags (.entry .passages index []) fields = .ok tags →
      readPassageContext map (.entry .passages index []) fields = .ok context →
      present? fields "content" = some value →
      InPassage map index (.object fields) (.content value)

/-- A warning is read or reported, unless a spot of it meets an obstacle. -/
theorem readWarning_eq_obstacle_iff :
    readWarning map index value = .error (.obstacle obstacle) ↔
      ∃ spot, InWarning map index value spot ∧ spot.Meets obstacle := by
  constructor
  · intro h
    simp only [readWarning, bind_eq_error_iff, readObject_ne_obstacle, readKind_ne_obstacle,
      readDetail_ne_obstacle, readContext?_eq_obstacle_iff, pure_ne_error, false_or, and_false,
      exists_const, or_false] at h
    obtain ⟨fields, hfields, kind, hkind, detail, hdetail, h⟩ := h
    cases value <;> cases hfields
    obtain ⟨file, hfile, hmeets⟩ | ⟨first, hfirst, file, hfile, hmeets⟩ := h
    · exact ⟨_, .context hkind hdetail hfile, hmeets⟩
    · exact ⟨_, .referent hkind hdetail hfirst hfile, hmeets⟩
  · intro h
    obtain ⟨spot, hin, hmeets⟩ := h
    cases hin with
    | context hkind hdetail hfile =>
        have hfails := (readContext?_eq_obstacle_iff map (.entry .warnings index [])).2
          ⟨_, hfile, hmeets⟩
        simp [readWarning, readObject, hkind, hdetail, hfails, bind, Except.bind]
    | referent hkind hdetail hfirst hfile =>
        have hfails := (readContext?_eq_obstacle_iff map (.entry .warnings index [])).2
          ⟨_, hfile, hmeets⟩
        simp [readWarning, readObject, hkind, hdetail, hfirst, hfails, bind, Except.bind]

/-- An error is read or reported, unless a spot of it meets an obstacle. -/
theorem readError_eq_obstacle_iff :
    readError map index value = .error (.obstacle obstacle) ↔
      ∃ spot, InError index value spot ∧ spot.Meets obstacle := by
  constructor
  · intro h
    simp only [readError, bind_eq_error_iff, readObject_ne_obstacle, readKind_ne_obstacle,
      readDetail_ne_obstacle, readContext?_eq_obstacle_iff, pure_ne_error, false_or, and_false,
      exists_const, or_false] at h
    obtain ⟨fields, hfields, kind, hkind, detail, hdetail, file, hfile, hmeets⟩ := h
    cases value <;> cases hfields
    exact ⟨_, .context hkind hdetail hfile, hmeets⟩
  · intro h
    obtain ⟨spot, ⟨hkind, hdetail, hfile⟩, hmeets⟩ := h
    have hfails := (readContext?_eq_obstacle_iff map (.entry .errors index [])).2
      ⟨_, hfile, hmeets⟩
    simp [readError, readObject, hkind, hdetail, hfails, bind, Except.bind]

/-- The context of a passage meets the obstacle of its file, if there is a start. -/
theorem readPassageContext_eq_obstacle_iff (map : CodeMap) (place : Place) :
    readPassageContext map place object = .error (.obstacle obstacle) ↔
      (Fields.get? "start" object).isSome ∧
        ∃ file, Fields.get? "file" object = some file ∧
          Spot.Meets (.fileName file) obstacle := by
  unfold readPassageContext
  cases Fields.get? "start" object with
  | none => simp
  | some start =>
      rw [← readContext_eq_obstacle_iff map place]
      cases readContext map place object <;> simp [Except.map]

/-- The content of a passage fails only if it is stated and cannot be written. -/
theorem readContent_eq_error_iff {context : Option SourceContext} {fault : Fault} :
    readContent object context = .error fault ↔
      ∃ value, present? object "content" = some value ∧
        ∃ e, value.asText = .error e ∧ fault = .obstacle (.tooManyDigits e) := by
  unfold readContent
  cases present? object "content" with
  | none => simp
  | some value => cases h : value.asText <;> simp [h, eq_comm]

/-- The content of a passage meets the obstacle of what is stated. -/
theorem readContent_eq_obstacle_iff {context : Option SourceContext} :
    readContent object context = .error (.obstacle obstacle) ↔
      ∃ value, present? object "content" = some value ∧
        Spot.Meets (.content value) obstacle := by
  simp only [readContent_eq_error_iff, Spot.meets_content_iff, Json.asText_eq_error_iff,
    Fault.obstacle.injEq]
  grind

/-- A passage is read or reported, unless a spot of it meets an obstacle. -/
theorem readPassage_eq_obstacle_iff :
    readPassage map index value = .error (.obstacle obstacle) ↔
      ∃ spot, InPassage map index value spot ∧ spot.Meets obstacle := by
  constructor
  · intro h
    simp only [readPassage, bind_eq_error_iff, readObject_ne_obstacle,
      readPassageName_ne_obstacle, readTags_ne_obstacle, readPassageContext_eq_obstacle_iff,
      readContent_eq_obstacle_iff, pure_ne_error, false_or, and_false, exists_const,
      or_false] at h
    obtain ⟨fields, hfields, name, hname, tags, htags, h⟩ := h
    cases value <;> cases hfields
    obtain ⟨hstart, file, hfile, hmeets⟩ | ⟨context, hcontext, stated, hstated, hmeets⟩ := h
    · exact ⟨_, .itself hname htags hstart hfile, hmeets⟩
    · exact ⟨_, .content hname htags hcontext hstated, hmeets⟩
  · intro h
    obtain ⟨spot, hin, hmeets⟩ := h
    cases hin with
    | itself hname htags hstart hfile =>
        have hfails := (readPassageContext_eq_obstacle_iff map (.entry .passages index [])).2
          ⟨hstart, _, hfile, hmeets⟩
        simp [readPassage, readObject, hname, htags, hfails, bind, Except.bind]
    | @content fields name tags context stated hname htags hcontext hstated =>
        have hfails : readContent fields context = .error (.obstacle obstacle) :=
          readContent_eq_obstacle_iff.2 ⟨_, hstated, hmeets⟩
        simp [readPassage, readObject, hname, htags, hcontext, hfails, bind, Except.bind]

/-- A list meets an obstacle exactly at a spot of an entry that is reached. -/
theorem readEntries_eq_obstacle_iff {α : Type} {read : Nat → Json → Except Fault α}
    {inEntry : Nat → Json → Spot → Prop} {items : List Json}
    (hread : ∀ index entry, read index entry = .error (.obstacle obstacle) ↔
      ∃ spot, inEntry index entry spot ∧ spot.Meets obstacle) :
    readEntries read 0 items = .error (.obstacle obstacle) ↔
      ∃ spot, (∃ index entry, EntryReached read items index entry ∧
        inEntry index entry spot) ∧ spot.Meets obstacle := by
  rw [readEntries_eq_error_iff]
  simp only [Nat.zero_add, hread]
  constructor
  · intro h
    obtain ⟨index, entry, hhere, hbefore, spot, hin, hmeets⟩ := h
    exact ⟨spot, ⟨index, entry, ⟨hhere, hbefore⟩, hin⟩, hmeets⟩
  · intro h
    obtain ⟨spot, ⟨index, entry, ⟨hhere, hbefore⟩, hin⟩, hmeets⟩ := h
    exact ⟨index, entry, hhere, hbefore, spot, hin, hmeets⟩

/-! ## Lists of a document -/

/-- What an entry of a list states. -/
def EntryList.Value : EntryList → Type
  | warnings => Warning
  | errors => ParseError
  | passages => Passage

/-- Read an entry of a list. -/
def EntryList.readEntry (map : CodeMap) :
    (list : EntryList) → Nat → Json → Except Fault list.Value
  | warnings => readWarning map
  | errors => readError map
  | passages => readPassage map

/-- Reading a document comes to a list: what is read before it has no fault, and there are no
errors if the passages are read. -/
inductive ComesTo (document : Object) : EntryList → CodeMap → Prop where
  | warnings {codeMap : CodeMap} :
      readFiles document = .ok codeMap →
      ComesTo document .warnings codeMap
  | errors {codeMap : CodeMap} {items warnings} :
      readFiles document = .ok codeMap →
      entries document .warnings = .ok items →
      readEntries (readWarning codeMap) 0 items = .ok warnings →
      ComesTo document .errors codeMap
  | passages {findings : Findings} :
      readFindings document = .ok findings →
      findings.errors = [] →
      ComesTo document .passages findings.codeMap

section Lists

variable {list : EntryList} {items : List Json} {fault : Fault}

/-- A fault of a list that reading comes to is the answer. -/
theorem readDocument_eq_error (hcomes : ComesTo document list map)
    (hitems : entries document list = .ok items)
    (hfault : readEntries (list.readEntry map) 0 items = .error fault) :
    readDocument (.object document) = .error fault := by
  simp only [readDocument, bind_eq_error_iff]
  cases hcomes with
  | warnings hmap =>
      left
      simp only [readFindings, bind_eq_error_iff]
      exact .inr ⟨map, hmap, .inr ⟨items, hitems, .inl hfault⟩⟩
  | errors hmap hwarningItems hwarnings =>
      left
      simp only [readFindings, bind_eq_error_iff]
      exact .inr ⟨map, hmap, .inr ⟨_, hwarningItems, .inr ⟨_, hwarnings, .inr
        ⟨items, hitems, .inl hfault⟩⟩⟩⟩
  | passages hfindings hnone =>
      refine .inr ⟨_, hfindings, ?_⟩
      simp only [readResult, hnone, List.isEmpty_nil, if_true, readStory, bind_eq_error_iff]
      exact .inl (.inr ⟨items, hitems, .inl hfault⟩)

/-- A fault that neither the files nor the title has is that of a list that reading comes to. -/
theorem readDocument_eq_error_iff (hfiles : readFiles document ≠ .error fault)
    (hentries : ∀ list, entries document list ≠ .error fault)
    (htitle : readTitle document ≠ .error fault) :
    readDocument (.object document) = .error fault ↔
      ∃ list map items, ComesTo document list map ∧ entries document list = .ok items ∧
        readEntries (list.readEntry map) 0 items = .error fault := by
  constructor
  · intro h
    simp only [readDocument, bind_eq_error_iff] at h
    -- The fault is among warnings and errors, or only after these, in a passage.
    obtain h | ⟨findings, hfindings, h⟩ := h
    · simp only [readFindings, bind_eq_error_iff, hfiles, hentries, pure_ne_error, false_or,
        and_false, exists_const, or_false] at h
      obtain ⟨map, hmap, items, hitems, h | ⟨warnings, hwarnings, errorItems, herrors, h⟩⟩ := h
      · exact ⟨.warnings, map, items, .warnings hmap, hitems, h⟩
      · exact ⟨.errors, map, errorItems, .errors hmap hitems hwarnings, herrors, h⟩
    · unfold readResult at h
      split at h
      · rename_i hempty
        simp only [readStory, bind_eq_error_iff, hentries, htitle, pure_ne_error, false_or,
          and_false, exists_false, or_false] at h
        obtain ⟨items, hitems, h⟩ := h
        exact ⟨.passages, _, items, .passages hfindings (List.isEmpty_iff.1 hempty), hitems, h⟩
      · cases h
  · intro h
    obtain ⟨list, map, items, hcomes, hitems, h⟩ := h
    exact readDocument_eq_error hcomes hitems h

end Lists

/-! ## Documents -/

/-- The spots that reading a document comes to. Warnings are read after the files, errors
after the warnings, and passages last and only without errors. -/
inductive Reached : Json → Spot → Prop where
  | inWarning {document map items index entry spot} :
      readFiles document = .ok map →
      entries document .warnings = .ok items →
      EntryReached (readWarning map) items index entry →
      InWarning map index entry spot →
      Reached (.object document) spot
  | inError {document map warningItems warnings items index entry spot} :
      readFiles document = .ok map →
      entries document .warnings = .ok warningItems →
      readEntries (readWarning map) 0 warningItems = .ok warnings →
      entries document .errors = .ok items →
      EntryReached (readError map) items index entry →
      InError index entry spot →
      Reached (.object document) spot
  | inPassage {document findings items index entry spot} :
      readFindings document = .ok findings →
      findings.errors = [] →
      entries document .passages = .ok items →
      EntryReached (readPassage findings.codeMap) items index entry →
      InPassage findings.codeMap index entry spot →
      Reached (.object document) spot

/-- Reading a document ends at an obstacle exactly if a spot that it comes to meets it. -/
theorem readDocument_eq_obstacle_iff :
    readDocument value = .error (.obstacle obstacle) ↔
      ∃ spot, Reached value spot ∧ spot.Meets obstacle := by
  constructor
  · intro h
    cases value with
    | object document =>
        obtain ⟨list, map, items, hcomes, hitems, h⟩ := (readDocument_eq_error_iff
          readFiles_ne_obstacle (fun _ => entries_ne_obstacle) readTitle_ne_obstacle).1 h
        cases hcomes with
        | warnings hmap =>
            obtain ⟨spot, ⟨index, entry, hentry, hin⟩, hmeets⟩ :=
              (readEntries_eq_obstacle_iff fun _ _ => readWarning_eq_obstacle_iff).1 h
            exact ⟨spot, .inWarning hmap hitems hentry hin, hmeets⟩
        | errors hmap hwarningItems hwarnings =>
            obtain ⟨spot, ⟨index, entry, hentry, hin⟩, hmeets⟩ :=
              (readEntries_eq_obstacle_iff fun _ _ => readError_eq_obstacle_iff).1 h
            exact ⟨spot, .inError hmap hwarningItems hwarnings hitems hentry hin, hmeets⟩
        | passages hfindings hnone =>
            obtain ⟨spot, ⟨index, entry, hentry, hin⟩, hmeets⟩ :=
              (readEntries_eq_obstacle_iff fun _ _ => readPassage_eq_obstacle_iff).1 h
            exact ⟨spot, .inPassage hfindings hnone hitems hentry hin, hmeets⟩
    | _ => simp [readDocument] at h
  · intro h
    obtain ⟨spot, hreached, hmeets⟩ := h
    cases hreached with
    | inWarning hmap hitems hentry hin =>
        exact readDocument_eq_error (.warnings hmap) hitems
          ((readEntries_eq_obstacle_iff fun _ _ => readWarning_eq_obstacle_iff).2
            ⟨spot, ⟨_, _, hentry, hin⟩, hmeets⟩)
    | inError hmap hwarningItems hwarnings hitems hentry hin =>
        exact readDocument_eq_error (.errors hmap hwarningItems hwarnings) hitems
          ((readEntries_eq_obstacle_iff fun _ _ => readError_eq_obstacle_iff).2
            ⟨spot, ⟨_, _, hentry, hin⟩, hmeets⟩)
    | inPassage hfindings hnone hitems hentry hin =>
        exact readDocument_eq_error (.passages hfindings hnone) hitems
          ((readEntries_eq_obstacle_iff fun _ _ => readPassage_eq_obstacle_iff).2
            ⟨spot, ⟨_, _, hentry, hin⟩, hmeets⟩)

/-- A document fails at an obstacle exactly if one of the spots that are reached meets it. -/
theorem read_eq_obstacle_iff (source : Option String) :
    read source value = .error (.obstacle obstacle) ↔
      ∃ spot, Reached value spot ∧ spot.Meets obstacle := by
  rw [← readDocument_eq_obstacle_iff]
  unfold read
  cases readDocument value with
  | ok output => simp
  | error fault => cases fault <;> simp [Fault.inSource]

/-- A fault with a place is answered with the name of the dump. -/
theorem read_eq_malformed_iff {source : Option String} {e : Malformed} :
    read source value = .error (.malformed e) ↔
      e.source = source ∧ readDocument value = .error (.malformed e.place e.reason) := by
  cases e
  unfold read
  cases readDocument value with
  | ok output => simp
  | error fault => cases fault <;> simp [Fault.inSource, eq_comm]

/-- A document is read, or it is answered with the place and the reason of a fault, unless a spot
that reading comes to meets an obstacle. In that case the obstacle is the answer. -/
theorem read_ok_or_malformed_iff (source : Option String) (document : Json) :
    (((∃ output, read source document = .ok output) ∨
        ∃ place reason, read source document = .error (.malformed ⟨source, place, reason⟩)) ↔
      ∀ spot, Reached document spot → ∀ obstacle, ¬ spot.Meets obstacle) ∧
    ∀ obstacle, read source document = .error (.obstacle obstacle) ↔
      ∃ spot, Reached document spot ∧ spot.Meets obstacle := by
  refine ⟨?_, fun obstacle => read_eq_obstacle_iff source⟩
  constructor
  · intro h spot hreached obstacle hmeets
    have hfails := (read_eq_obstacle_iff source).2 ⟨spot, hreached, hmeets⟩
    obtain ⟨output, h⟩ | ⟨place, reason, h⟩ := h <;> simp [h] at hfails
  · intro hnone
    unfold read
    cases h : readDocument document with
    | ok output => exact .inl ⟨output, rfl⟩
    | error fault =>
        cases fault with
        | malformed place reason => exact .inr ⟨place, reason, rfl⟩
        | obstacle obstacle =>
            obtain ⟨spot, hreached, hmeets⟩ := readDocument_eq_obstacle_iff.1 h
            exact (hnone spot hreached obstacle hmeets).elim

/-- A dead link in the file `[]` keeps its document from being read, and the answer has no place. -/
theorem read_array_as_file :
    ¬ ∀ source document, (∃ output, read source document = .ok output) ∨
      ∃ place reason, read source document = .error (.malformed ⟨source, place, reason⟩) := by
  intro h
  have hread : read none (.object [("warnings", .array [.object
      [("kind", .text "dead-link"), ("context", .object [("file", .array [])])]])]) =
      .error (.obstacle (.container .array)) := by
    rfl
  obtain ⟨output, h⟩ | ⟨place, reason, h⟩ := h none (.object [("warnings", .array [.object
      [("kind", .text "dead-link"), ("context", .object [("file", .array [])])]])]) <;>
    simp [hread] at h

end StoryLint.Dump
