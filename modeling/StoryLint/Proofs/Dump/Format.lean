import StoryLint.Proofs.Dump.Faults
import Mathlib.Data.List.Forall2

/-!
# What documents state

Relations between a document and what it states, one for every part that is read. They say which
fields count and which values may stand there, and nothing about places, faults or the order of
reading. Each has its law: a part is read as a value exactly if it states the value. The law of
the whole is `readDocument_eq_ok_iff`.

A relation on a part looks at its fields by name only, so further fields and their order are free.
-/

namespace StoryLint.Dump

variable {map : CodeMap} {place : Place} {fields document : Object} {value : Json} {name : String}

/-! ## Fields -/

/-- A field is present with a value if it has one and that is not `null`. -/
theorem present?_eq_some_iff :
    present? fields name = some value ↔ Fields.get? name fields = some value ∧ value ≠ .null := by
  unfold present?
  cases h : Fields.get? name fields with
  | none => simp
  | some found => cases found <;> simp +contextual [eq_comm]

/-- A field that may hold a text: it does, or it is absent. -/
inductive StatesText? (fields : Object) (name : String) : Option String → Prop where
  | given {s} : Fields.get? name fields = some (.text s) → StatesText? fields name (some s)
  | absent : present? fields name = none → StatesText? fields name none

/-- A field that may hold an offset: a number or a truth value. If it is missing, the offset is
the given one; it cannot be `null`. -/
inductive StatesOffset (fields : Object) (name : String) (default : Int) : Offset → Prop where
  | number {n} : Fields.get? name fields = some (.integer n) →
      StatesOffset fields name default (.number n)
  | flag {b} : Fields.get? name fields = some (.bool b) →
      StatesOffset fields name default (.flag b)
  | missing : Fields.get? name fields = none →
      StatesOffset fields name default (.number default)

/-- An offset is read exactly as it is stated. -/
theorem offset?_eq_some_iff {default : Int} {offset : Offset} :
    offset? ((Fields.get? name fields).getD (.integer default)) = some offset ↔
      StatesOffset fields name default offset := by
  constructor
  · intro h
    cases hfield : Fields.get? name fields with
    | none =>
        simp only [hfield, Option.getD_none, offset?, Option.some.injEq] at h
        exact h ▸ .missing hfield
    | some value =>
        cases value <;> simp only [hfield, Option.getD_some, offset?, reduceCtorEq,
          Option.some.injEq] at h
        · exact h ▸ .flag hfield
        · exact h ▸ .number hfield
  · intro h
    cases h with
    | number h => simp [h, offset?]
    | flag h => simp [h, offset?]
    | missing h => simp [h, offset?]

/-! ## Contexts -/

/-- The text that a context refers to: that of a file, or text of its own. -/
inductive StatesText (map : CodeMap) (fields : Object) : Option String → String → Prop where
  | file {name text} : Fields.get? "file" fields = some (.text name) →
      map.text? name = some text → StatesText map fields (some name) text
  | inline {text} : present? fields "file" = none →
      Fields.get? "text" fields = some (.text text) → StatesText map fields none text
  | empty : present? fields "file" = none → Fields.get? "text" fields = none →
      StatesText map fields none ""

/-- A context: its text, and where it starts and ends in it. Without a start it begins with the
text, without an end it ends with it. -/
structure StatesContext (map : CodeMap) (fields : Object) (c : SourceContext) : Prop where
  text : StatesText map fields c.fileName c.text
  start : StatesOffset fields "start" 0 c.start
  stop : StatesOffset fields "end" c.text.length c.stop

/-- A field that may hold a context. -/
inductive StatesContext? (map : CodeMap) (fields : Object) (name : String) :
    Option SourceContext → Prop where
  | given {context c} : Fields.get? name fields = some (.object context) →
      StatesContext map context c → StatesContext? map fields name (some c)
  | absent : present? fields name = none → StatesContext? map fields name none

/-- The text of a context is read exactly as it is stated, with the file it is from. -/
theorem readText_eq_ok_iff {fileName : Option String} {text : String} :
    readText map place fields = .ok (fileName, text) ↔ StatesText map fields fileName text := by
  constructor
  · intro h
    cases hfile : present? fields "file" with
    | none =>
        simp only [readText, hfile] at h
        split at h
        · rename_i htext
          cases h
          exact .empty hfile htext
        · rename_i htext
          cases h
          exact .inline hfile htext
        · cases h
    | some value =>
        cases value <;> simp only [readText, hfile, reduceCtorEq] at h
        split at h
        · rename_i htext
          cases h
          exact .file (present?_eq_some_iff.1 hfile).1 htext
        · cases h
  · intro h
    cases h with
    | file hname htext =>
        have hfile := present?_eq_some_iff.2 ⟨hname, Json.noConfusion⟩
        simp [readText, hfile, htext]
    | inline hfile htext => simp [readText, hfile, htext]
    | empty hfile htext => simp [readText, hfile, htext]

/-- The range of a context lies in its text already, so that it is not refused. -/
theorem make_eq_ok_iff {fileName : Option String} {text : String} {start stop : Offset}
    {c : SourceContext} :
    SourceContext.make fileName text start stop = .ok c ↔
      c.fileName = fileName ∧ c.text = text ∧ c.start = start ∧ c.stop = stop := by
  unfold SourceContext.make
  constructor
  · intro h
    split at h
    · cases h
      exact ⟨rfl, rfl, rfl, rfl⟩
    · cases h
  · rintro ⟨rfl, rfl, rfl, rfl⟩
    rw [dif_pos ⟨c.start_nonneg, c.start_le_stop, c.stop_le_length⟩]

/-- A context is read exactly as it is stated. -/
theorem readContext_eq_ok_iff {c : SourceContext} :
    readContext map place fields = .ok c ↔ StatesContext map fields c := by
  simp only [readContext, bind_eq_ok_iff]
  constructor
  · rintro ⟨⟨fileName, text⟩, htext, h⟩
    dsimp only at h
    split at h
    · rename_i start stop hstart hstop
      split at h
      · rename_i context hmake
        cases h
        obtain ⟨rfl, rfl, rfl, rfl⟩ := make_eq_ok_iff.1 hmake
        exact ⟨readText_eq_ok_iff.1 htext, offset?_eq_some_iff.1 hstart,
          offset?_eq_some_iff.1 hstop⟩
      · cases h
    · cases h
  · intro h
    refine ⟨(c.fileName, c.text), readText_eq_ok_iff.2 h.text, ?_⟩
    have hmake : SourceContext.make c.fileName c.text c.start c.stop = .ok c :=
      make_eq_ok_iff.2 ⟨rfl, rfl, rfl, rfl⟩
    simp [offset?_eq_some_iff.2 h.start, offset?_eq_some_iff.2 h.stop, hmake, pure, Except.pure]

/-- A context that may be missing is read exactly as it is stated. -/
theorem readContext?_eq_ok_iff {context : Option SourceContext} :
    readContext? map place fields name = .ok context ↔
      StatesContext? map fields name context := by
  constructor
  · intro h
    cases hfield : present? fields name with
    | none =>
        simp only [readContext?, hfield, Except.ok.injEq] at h
        exact h ▸ .absent hfield
    | some value =>
        simp only [readContext?, hfield, bind_eq_ok_iff] at h
        obtain ⟨object, hobject, c, hc, h⟩ := h
        cases value <;> cases hobject
        cases h
        exact .given (present?_eq_some_iff.1 hfield).1 (readContext_eq_ok_iff.1 hc)
  · intro h
    cases h with
    | given hfield hc =>
        have hpresent := present?_eq_some_iff.2 ⟨hfield, Json.noConfusion⟩
        simp [readContext?, hpresent, readObject, readContext_eq_ok_iff.2 hc, bind, Except.bind,
          pure, Except.pure]
    | absent hfield => simp [readContext?, hfield]

/-! ## Entries -/

/-- A name belongs to the kind of warning that it names. -/
theorem warningKind_ofName_eq_ok_iff {kind : WarningKind} :
    WarningKind.ofName name = .ok kind ↔ name = kind.name := by
  constructor
  · intro h
    unfold WarningKind.ofName at h
    split at h
    · rename_i found hfound
      cases h
      simpa [eq_comm] using List.find?_some hfound
    · cases h
  · rintro rfl
    cases kind <;> rfl

/-- A name belongs to the kind of error that it names. -/
theorem errorKind_ofName_eq_ok_iff {kind : ErrorKind} :
    ErrorKind.ofName name = .ok kind ↔ name = kind.name := by
  constructor
  · intro h
    unfold ErrorKind.ofName at h
    split at h
    · rename_i found hfound
      cases h
      simpa [eq_comm] using List.find?_some hfound
    · cases h
  · rintro rfl
    cases kind <;> rfl

/-- The name of a kind is the text of its field. -/
theorem readKindName_eq_ok_iff :
    readKindName place fields = .ok name ↔ Fields.get? "kind" fields = some (.text name) := by
  unfold readKindName
  split
  · simp_all
  · simp_all

/-- A kind is the one that its field names. -/
theorem readKind_eq_ok_iff {κ : Type} {ofName : String → Except UnknownKind κ} {kind : κ} :
    readKind ofName place fields = .ok kind ↔
      ∃ name, Fields.get? "kind" fields = some (.text name) ∧ ofName name = .ok kind := by
  simp only [readKind, bind_eq_ok_iff, readKindName_eq_ok_iff]
  refine exists_congr fun name => and_congr_right fun _ => ?_
  cases ofName name <;> simp [pure, Except.pure, throw, throwThe, MonadExceptOf.throw]

/-- A detail is read exactly as it is stated. -/
theorem readDetail_eq_ok_iff {detail : Option String} :
    readDetail place fields = .ok detail ↔ StatesText? fields "detail" detail := by
  constructor
  · intro h
    unfold readDetail at h
    split at h
    · rename_i hfield
      cases h
      exact .absent hfield
    · rename_i hfield
      cases h
      exact .given (present?_eq_some_iff.1 hfield).1
    · cases h
  · intro h
    cases h with
    | given hfield =>
        have hpresent := present?_eq_some_iff.2 ⟨hfield, Json.noConfusion⟩
        simp [readDetail, hpresent]
    | absent hfield => simp [readDetail, hfield]

/-- A warning: its kind by name, a detail, and two contexts. -/
inductive StatesWarning (map : CodeMap) : Json → Warning → Prop where
  | entry {fields w} :
      Fields.get? "kind" fields = some (.text w.kind.name) →
      StatesText? fields "detail" w.detail →
      StatesContext? map fields "context" w.context →
      StatesContext? map fields "referent" w.referent →
      StatesWarning map (.object fields) w

/-- An error: its kind by name, a detail, and a context. -/
inductive StatesError (map : CodeMap) : Json → ParseError → Prop where
  | entry {fields e} :
      Fields.get? "kind" fields = some (.text e.kind.name) →
      StatesText? fields "detail" e.detail →
      StatesContext? map fields "context" e.context →
      StatesError map (.object fields) e

/-- A warning is read exactly as it is stated. -/
theorem readWarning_eq_ok_iff {index : Nat} {w : Warning} :
    readWarning map index value = .ok w ↔ StatesWarning map value w := by
  simp only [readWarning, bind_eq_ok_iff, readKind_eq_ok_iff, readDetail_eq_ok_iff,
    readContext?_eq_ok_iff, warningKind_ofName_eq_ok_iff]
  constructor
  · rintro ⟨fields, hfields, kind, ⟨name, hkind, rfl⟩, detail, hdetail, context, hcontext,
      referent, hreferent, h⟩
    cases value <;> cases hfields
    cases h
    exact .entry hkind hdetail hcontext hreferent
  · rintro ⟨hkind, hdetail, hcontext, hreferent⟩
    exact ⟨_, rfl, _, ⟨_, hkind, rfl⟩, _, hdetail, _, hcontext, _, hreferent, rfl⟩

/-- An error is read exactly as it is stated. -/
theorem readError_eq_ok_iff {index : Nat} {e : ParseError} :
    readError map index value = .ok e ↔ StatesError map value e := by
  simp only [readError, bind_eq_ok_iff, readKind_eq_ok_iff, readDetail_eq_ok_iff,
    readContext?_eq_ok_iff, errorKind_ofName_eq_ok_iff]
  constructor
  · rintro ⟨fields, hfields, kind, ⟨name, hkind, rfl⟩, detail, hdetail, context, hcontext, h⟩
    cases value <;> cases hfields
    cases h
    exact .entry hkind hdetail hcontext
  · rintro ⟨hkind, hdetail, hcontext⟩
    exact ⟨_, rfl, _, ⟨_, hkind, rfl⟩, _, hdetail, _, hcontext, rfl⟩

/-! ## Passages -/

/-- The tags of a passage: an array of texts, or any value that is empty. -/
inductive StatesTags (fields : Object) : List String → Prop where
  | given {tags : List String} : Fields.get? "tags" fields = some (.array (tags.map .text)) →
      StatesTags fields tags
  | empty : ((Fields.get? "tags" fields).getD .null).isEmptyish = true → StatesTags fields []

/-- The context of a passage is stated by the passage itself, if it has a start. -/
inductive StatesPassageContext (map : CodeMap) (fields : Object) : Option SourceContext → Prop where
  | given {c} : (Fields.get? "start" fields).isSome → StatesContext map fields c →
      StatesPassageContext map fields (some c)
  | missing : Fields.get? "start" fields = none → StatesPassageContext map fields none

/-- The content of a passage: a value by its text, or else the text of the context. -/
inductive StatesContent (fields : Object) (context : Option SourceContext) : String → Prop where
  | given {stated content} : present? fields "content" = some stated →
      stated.asText = .ok content → StatesContent fields context content
  | absent : present? fields "content" = none →
      StatesContent fields context ((context.map (·.contents)).getD "")

/-- A passage: its name, tags, context and content. -/
inductive StatesPassage (map : CodeMap) : Json → Passage → Prop where
  | entry {fields p} :
      Fields.get? "name" fields = some (.text p.name) →
      StatesTags fields p.tags →
      StatesPassageContext map fields p.context →
      StatesContent fields p.context p.content →
      StatesPassage map (.object fields) p

/-- Items are texts exactly if each of them is one. -/
theorem texts?_eq_some_iff {items : List Json} {tags : List String} :
    texts? items = some tags ↔ items = tags.map .text := by
  induction items generalizing tags with
  | nil => simp [texts?, eq_comm]
  | cons item rest ih =>
      cases item <;> cases tags <;> simp [texts?, ih, and_comm]

/-- Tags are read exactly as they are stated. -/
theorem readTags_eq_ok_iff {tags : List String} :
    readTags place fields = .ok tags ↔ StatesTags fields tags := by
  simp only [readTags]
  constructor
  · intro h
    split at h
    · rename_i hempty
      cases h
      exact .empty hempty
    · cases hfield : Fields.get? "tags" fields with
      | none => simp [hfield] at h
      | some value =>
          cases value <;> simp only [hfield, Option.getD_some, reduceCtorEq] at h
          split at h
          · rename_i tags' htags
            cases h
            exact .given (by rw [hfield, texts?_eq_some_iff.1 htags])
          · cases h
  · intro h
    cases h with
    | given h =>
        cases tags with
        | nil => simp [h, Json.isEmptyish]
        | cons tag rest =>
            have htexts := texts?_eq_some_iff.2 (rfl : (tag :: rest).map Json.text = _)
            simp only [h, Option.getD_some, htexts]
            simp [Json.isEmptyish]
    | empty h => simp [h]

/-- The name of a passage is the text of its field. -/
theorem readPassageName_eq_ok_iff :
    readPassageName place fields = .ok name ↔ Fields.get? "name" fields = some (.text name) := by
  unfold readPassageName
  split
  · simp_all
  · simp_all

/-- The context of a passage is read exactly as it is stated. -/
theorem readPassageContext_eq_ok_iff {context : Option SourceContext} :
    readPassageContext map place fields = .ok context ↔
      StatesPassageContext map fields context := by
  constructor
  · intro h
    unfold readPassageContext at h
    split at h
    · rename_i hstart
      cases h
      exact .missing hstart
    · rename_i start hstart
      cases hc : readContext map place fields with
      | error e => simp [hc, Except.map] at h
      | ok c =>
          simp only [hc, Except.map, Except.ok.injEq] at h
          exact h ▸ .given (by simp [hstart]) (readContext_eq_ok_iff.1 hc)
  · intro h
    cases h with
    | given hstart hc =>
        obtain ⟨start, hstart⟩ := Option.isSome_iff_exists.1 hstart
        simp [readPassageContext, hstart, readContext_eq_ok_iff.2 hc, Except.map]
    | missing hstart => simp [readPassageContext, hstart]

/-- The content that is read of a passage is the one that it states. -/
theorem readContent_eq_ok_iff {context : Option SourceContext} {content : String} :
    readContent fields context = .ok content ↔ StatesContent fields context content := by
  unfold readContent
  constructor
  · intro h
    split at h
    · rename_i hstated
      cases h
      exact .absent hstated
    · rename_i stated hstated
      split at h
      · rename_i text htext
        cases h
        exact .given hstated htext
      · cases h
  · intro h
    cases h with
    | given hstated htext => simp [hstated, htext]
    | absent hstated => simp [hstated]

/-- A passage is read as what it states. -/
theorem readPassage_eq_ok_iff {index : Nat} {p : Passage} :
    readPassage map index value = .ok p ↔ StatesPassage map value p := by
  simp only [readPassage, bind_eq_ok_iff, readPassageName_eq_ok_iff, readTags_eq_ok_iff,
    readPassageContext_eq_ok_iff, readContent_eq_ok_iff]
  constructor
  · rintro ⟨fields, hfields, name, hname, tags, htags, context, hcontext, content, hcontent, h⟩
    cases value <;> cases hfields
    cases h
    exact .entry hname htags hcontext hcontent
  · rintro ⟨hname, htags, hcontext, hcontent⟩
    exact ⟨_, rfl, _, hname, _, htags, _, hcontext, _, hcontent, rfl⟩

/-! ## Lists -/

/-- A list of the document: an array of entries, each of which states the value at its place. -/
inductive StatesList {α : Type} (document : Object) (list : EntryList) (states : Json → α → Prop) :
    List α → Prop where
  | given {items values} : Fields.get? list.name document = some (.array items) →
      List.Forall₂ states items values → StatesList document list states values
  | absent : present? document list.name = none → StatesList document list states []

/-- Every value of a list is stated by an entry. -/
theorem StatesList.exists_entry {α : Type} {list : EntryList} {states : Json → α → Prop}
    {values : List α} {v : α} (h : StatesList document list states values) (hv : v ∈ values) :
    ∃ items entry, Fields.get? list.name document = some (.array items) ∧ entry ∈ items ∧
      states entry v := by
  cases h with
  | given hfield hvalues =>
      obtain ⟨index, hindex, rfl⟩ := List.getElem_of_mem hv
      have hlength := hvalues.length_eq
      exact ⟨_, _, hfield, List.getElem_mem (hlength ▸ hindex), hvalues.get _ hindex⟩
  | absent => cases hv

/-- What holds of everything that an entry can state holds of the values of a list. -/
theorem StatesList.forall_mem {α : Type} {list : EntryList} {states : Json → α → Prop}
    {values : List α} {P : α → Prop} (h : StatesList document list states values)
    (hP : ∀ entry v, states entry v → P v) : ∀ v ∈ values, P v := by
  intro v hv
  obtain ⟨_, entry, -, -, hstates⟩ := h.exists_entry hv
  exact hP entry v hstates

/-- If single entries are read as they are stated, so is a list of them, entry by entry. -/
theorem readEntries_eq_ok_iff {α : Type} {read : Nat → Json → Except Fault α}
    {states : Json → α → Prop} {items : List Json} {values : List α} {start : Nat}
    (hread : ∀ index entry value, read index entry = .ok value ↔ states entry value) :
    readEntries read start items = .ok values ↔ List.Forall₂ states items values := by
  induction items generalizing start values with
  | nil => simp [readEntries, pure, Except.pure, eq_comm]
  | cons item rest ih =>
      simp only [readEntries, bind_eq_ok_iff, hread, ih, List.forall₂_cons_left_iff]
      constructor
      · rintro ⟨first, hfirst, others, hothers, h⟩
        cases h
        exact ⟨first, others, hfirst, hothers, rfl⟩
      · rintro ⟨first, others, hfirst, hothers, rfl⟩
        exact ⟨first, hfirst, others, hothers, rfl⟩

/-- A list is read exactly as it is stated if its entries are. -/
theorem entries_eq_ok_iff {α : Type} {read : Nat → Json → Except Fault α}
    {states : Json → α → Prop} {list : EntryList} {values : List α}
    (hread : ∀ index entry value, read index entry = .ok value ↔ states entry value) :
    (∃ items, entries document list = .ok items ∧ readEntries read 0 items = .ok values) ↔
      StatesList document list states values := by
  simp only [readEntries_eq_ok_iff hread]
  constructor
  · rintro ⟨items, hitems, hvalues⟩
    unfold entries at hitems
    split at hitems
    · rename_i hfield
      cases hitems
      cases hvalues
      exact .absent hfield
    · rename_i hfield
      cases hitems
      exact .given (present?_eq_some_iff.1 hfield).1 hvalues
    · cases hitems
  · intro h
    cases h with
    | given hfield hvalues =>
        have hpresent := present?_eq_some_iff.2 ⟨hfield, Json.noConfusion⟩
        exact ⟨_, by simp [entries, hpresent], hvalues⟩
    | absent hfield => exact ⟨[], by simp [entries, hfield], .nil⟩

/-! ## Documents -/

/-- The files of a document: an object with their texts by name, in order. -/
inductive StatesFiles (document : Object) (map : CodeMap) : Prop where
  | given {texts} : Fields.get? "files" document = some (.object texts) →
      Fields.distinct texts = map.files.map (fun file => (file.name, .text file.text)) →
      StatesFiles document map
  | missing : Fields.get? "files" document = none → map.files = [] → StatesFiles document map

/-- A document states its files and warnings and, depending on whether it has errors, these or a
story. -/
inductive States : Json → StoryOutput → Prop where
  | story {document story warnings passages} :
      StatesFiles document story.codeMap →
      StatesList document .warnings (StatesWarning story.codeMap) warnings →
      StatesList document .errors (StatesError story.codeMap) [] →
      StatesList document .passages (StatesPassage story.codeMap) passages →
      story.passages = Passage.distinct passages →
      StatesText? document "title" story.title →
      States (.object document) { result := .story story, warnings }
  | errors {document map warnings errors} :
      StatesFiles document map →
      StatesList document .warnings (StatesWarning map) warnings →
      StatesList document .errors (StatesError map) errors →
      errors ≠ [] →
      States (.object document) { result := .errors errors map, warnings }

/-- A file is read from a field with its name and its text. -/
theorem readFile_eq_ok_iff {file : SourceFile} :
    readFile name value = .ok file ↔ (name, value) = (file.name, .text file.text) := by
  cases file
  cases value <;> simp [readFile]

/-- Files are read from fields with their names and texts. -/
theorem readFileList_eq_ok_iff {files : List SourceFile} :
    readFileList fields = .ok files ↔
      fields = files.map (fun file => (file.name, .text file.text)) := by
  induction fields generalizing files with
  | nil => cases files <;> simp [readFileList, pure, Except.pure]
  | cons field rest ih =>
      simp only [readFileList, bind_eq_ok_iff, ih, readFile_eq_ok_iff]
      constructor
      · rintro ⟨file, hfile, others, hothers, h⟩
        cases h
        simp [← hfile, ← hothers]
      · intro h
        cases files with
        | nil => simp at h
        | cons file others =>
            obtain ⟨hfile, hothers⟩ := List.cons.inj h
            exact ⟨file, hfile, others, hothers, rfl⟩

/-- A code map is read from the fields with the names and texts of its files. -/
theorem readCodeMap_eq_ok_iff :
    readCodeMap fields = .ok map ↔
      Fields.distinct fields = map.files.map (fun file => (file.name, .text file.text)) := by
  rw [← readFileList_eq_ok_iff, readCodeMap]
  split
  · rename_i e he
    simp [he]
  · rename_i files hfiles
    cases map
    simp [hfiles]

/-- The files of a document are read exactly as they are stated. -/
theorem readFiles_eq_ok_iff : readFiles document = .ok map ↔ StatesFiles document map := by
  constructor
  · intro h
    unfold readFiles at h
    split at h
    · rename_i hfield
      cases h
      exact .missing hfield rfl
    · rename_i hfield
      exact .given hfield (readCodeMap_eq_ok_iff.1 h)
    · cases h
  · intro h
    cases h with
    | given hfield hfiles => simp [readFiles, hfield, readCodeMap_eq_ok_iff.2 hfiles]
    | missing hfield hfiles =>
        cases map
        subst hfiles
        simp [readFiles, hfield]

/-- The title is read exactly as it is stated. -/
theorem readTitle_eq_ok_iff {title : Option String} :
    readTitle document = .ok title ↔ StatesText? document "title" title := by
  constructor
  · intro h
    unfold readTitle at h
    split at h
    · rename_i hfield
      cases h
      exact .absent hfield
    · rename_i hfield
      cases h
      exact .given (present?_eq_some_iff.1 hfield).1
    · cases h
  · intro h
    cases h with
    | given hfield =>
        have hpresent := present?_eq_some_iff.2 ⟨hfield, Json.noConfusion⟩
        simp [readTitle, hpresent]
    | absent hfield => simp [readTitle, hfield]

/-- The law of the lists: they are read entry by entry. -/
theorem warnings_eq_ok_iff {warnings : List Warning} :
    (∃ items, entries document .warnings = .ok items ∧
      readEntries (readWarning map) 0 items = .ok warnings) ↔
      StatesList document .warnings (StatesWarning map) warnings :=
  entries_eq_ok_iff fun _ _ _ => readWarning_eq_ok_iff

/-- The errors are read exactly as they are stated. -/
theorem errors_eq_ok_iff {errors : List ParseError} :
    (∃ items, entries document .errors = .ok items ∧
      readEntries (readError map) 0 items = .ok errors) ↔
      StatesList document .errors (StatesError map) errors :=
  entries_eq_ok_iff fun _ _ _ => readError_eq_ok_iff

/-- The passages are read exactly as they are stated. -/
theorem passages_eq_ok_iff {passages : List Passage} :
    (∃ items, entries document .passages = .ok items ∧
      readEntries (readPassage map) 0 items = .ok passages) ↔
      StatesList document .passages (StatesPassage map) passages :=
  entries_eq_ok_iff fun _ _ _ => readPassage_eq_ok_iff

/-- Files, warnings and errors are read exactly as they are stated. -/
theorem readFindings_eq_ok_iff {findings : Findings} :
    readFindings document = .ok findings ↔
      StatesFiles document findings.codeMap ∧
      StatesList document .warnings (StatesWarning findings.codeMap) findings.warnings ∧
      StatesList document .errors (StatesError findings.codeMap) findings.errors := by
  simp only [readFindings, bind_eq_ok_iff, readFiles_eq_ok_iff]
  constructor
  · rintro ⟨map, hmap, items, hitems, warnings, hwarnings, items', hitems', errors, herrors, h⟩
    cases h
    exact ⟨hmap, warnings_eq_ok_iff.1 ⟨_, hitems, hwarnings⟩,
      errors_eq_ok_iff.1 ⟨_, hitems', herrors⟩⟩
  · rintro ⟨hmap, hwarnings, herrors⟩
    obtain ⟨items, hitems, hwarnings⟩ :=
      warnings_eq_ok_iff.2 hwarnings
    obtain ⟨items', hitems', herrors⟩ :=
      errors_eq_ok_iff.2 herrors
    exact ⟨_, hmap, _, hitems, _, hwarnings, _, hitems', _, herrors, rfl⟩

/-- A story has the files it is given, its passages with one of each name, and its title. -/
theorem readStory_eq_ok_iff {story : Story} :
    readStory document map = .ok story ↔
      story.codeMap = map ∧
      (∃ passages, StatesList document .passages (StatesPassage map) passages ∧
        story.passages = Passage.distinct passages) ∧
      StatesText? document "title" story.title := by
  simp only [readStory, bind_eq_ok_iff, readTitle_eq_ok_iff]
  constructor
  · rintro ⟨items, hitems, passages, hpassages, title, htitle, h⟩
    cases h
    exact ⟨rfl, ⟨_, passages_eq_ok_iff.1
      ⟨_, hitems, hpassages⟩, rfl⟩, htitle⟩
  · rintro ⟨rfl, ⟨passages, hpassages, hdistinct⟩, htitle⟩
    obtain ⟨items, hitems, hpassages⟩ :=
      passages_eq_ok_iff.2 hpassages
    exact ⟨_, hitems, _, hpassages, _, htitle, by rw [← hdistinct]; rfl⟩

/-- Reading a document gives exactly what the document states. -/
theorem readDocument_eq_ok_iff {output : StoryOutput} :
    readDocument value = .ok output ↔ States value output := by
  constructor
  · intro h
    cases value <;> simp only [readDocument, reduceCtorEq, bind_eq_ok_iff] at h
    obtain ⟨findings, hfindings, h⟩ := h
    obtain ⟨hfiles, hwarnings, herrors⟩ := readFindings_eq_ok_iff.1 hfindings
    unfold readResult at h
    split at h
    · rename_i hnone
      obtain ⟨story, hstory, h⟩ := bind_eq_ok_iff.1 h
      cases h
      obtain ⟨hmap, ⟨passages, hpassages, hdistinct⟩, htitle⟩ := readStory_eq_ok_iff.1 hstory
      rw [List.isEmpty_iff.1 hnone] at herrors
      rw [← hmap] at hfiles hwarnings herrors hpassages
      exact .story hfiles hwarnings herrors hpassages hdistinct htitle
    · rename_i hsome
      cases h
      exact .errors hfiles hwarnings herrors (fun hnil => hsome (List.isEmpty_iff.2 hnil))
  · intro h
    cases h with
    | story hfiles hwarnings herrors hpassages hdistinct htitle =>
        have hfindings : readFindings _ = .ok ⟨_, _, _⟩ := readFindings_eq_ok_iff.2
          ⟨hfiles, hwarnings, herrors⟩
        have hstory := readStory_eq_ok_iff.2 ⟨rfl, ⟨_, hpassages, hdistinct⟩, htitle⟩
        simp [readDocument, hfindings, readResult, hstory, bind, Except.bind, pure, Except.pure]
    | errors hfiles hwarnings herrors hsome =>
        have hfindings : readFindings _ = .ok ⟨_, _, _⟩ := readFindings_eq_ok_iff.2
          ⟨hfiles, hwarnings, herrors⟩
        simp [readDocument, hfindings, readResult, hsome, bind, Except.bind, pure, Except.pure]

/-- A value is read as a result exactly if it states the result. -/
theorem read_eq_ok_iff {source : Option String} {output : StoryOutput} :
    read source value = .ok output ↔ States value output := by
  rw [← readDocument_eq_ok_iff]
  unfold read
  cases readDocument value <;> simp

end StoryLint.Dump
