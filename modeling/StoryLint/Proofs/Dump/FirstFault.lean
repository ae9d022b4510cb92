import StoryLint.Proofs.Dump.Format
import StoryLint.Proofs.Fields
import StoryLint.Proofs.Text.Digits

/-!
# The first bad entry

The place of a fault in an entry is that of the first bad entry in the order of reading: files,
warnings, errors, passages, title. `read_first_bad_entry` is the main result: a document with such
a fault is read if its list is cut in front of the entry and nothing behind the list is left, and
it has the same fault whatever entries follow and whatever is put behind the list.

`ComesTo` says that reading comes to a list. Entries report faults within themselves (`Within`),
all other parts of a document outside of entries, so a fault in an entry means that reading came to
its list and failed there (`exists_comesTo`). Whether reading comes to a list depends on what is
read before it only (`ComesTo.congr`).
-/

namespace StoryLint.Dump

variable {α β : Type} {list : EntryList} {index : Nat} {fields : List String} {place : Place}
  {map : CodeMap} {document longer object : Object} {value : Json} {reason : Reason}
  {fault : Fault}

/-! ## Keys -/

/-- The key of an entry; the keys of places in the entry begin with it. -/
def EntryList.entryKey (list : EntryList) (index : Nat) : String :=
  list.name ++ "[" ++ toString index ++ "]"

/-- A key that points into an entry is the key of a place there. -/
theorem Place.eq_entry_of_key? {rest : String}
    (h : place.key? = some (list.entryKey index ++ rest)) :
    ∃ fields, place = .entry list index fields := by
  cases place with
  | document => cases h
  | files | file | title =>
      have htext := congrArg String.toList (Option.some.inj h)
      cases list <;> simp [EntryList.entryKey, EntryList.name] at htext
  | list l =>
      have htext := congrArg String.toList (Option.some.inj h)
      cases l <;> cases list <;> simp [EntryList.entryKey, EntryList.name] at htext
  | entry l i fields =>
      have htext := congrArg String.toList (Option.some.inj h)
      have hlist : l = list := by
        cases l <;> cases list <;> simp [EntryList.entryKey, EntryList.name] at htext ⊢
      subst hlist
      simp only [EntryList.entryKey, String.toList_append, List.append_assoc,
        List.append_cancel_left_eq] at htext
      exact ⟨fields, by rw [Text.eq_of_toString_append (by decide) htext]⟩

/-! ## Faults within entries -/

/-- A step of reading an entry: the places of its faults are in the entry. -/
def Within (list : EntryList) (index : Nat) (step : Except Fault α) : Prop :=
  ∀ place reason, step = .error (.malformed place reason) →
    ∃ fields, place = .entry list index fields

section Within

variable {step : Except Fault α}

/-- A value is no fault. -/
@[simp] theorem within_ok (a : α) : Within list index (.ok a) := by
  simp [Within]

/-- A step that only returns has no fault. -/
@[simp] theorem within_pure (a : α) : Within list index (pure a) :=
  within_ok a

/-- A fault lies within an entry if its place does. -/
@[simp] theorem within_malformed :
    Within list index (.error (.malformed place reason) : Except Fault α) ↔
      ∃ fields, place = .entry list index fields := by
  simp [Within]

/-- An obstacle has no place. -/
@[simp] theorem within_obstacle (obstacle : Obstacle) :
    Within list index (.error (.obstacle obstacle) : Except Fault α) := by
  simp [Within]

/-- A field of an entry is within the entry. -/
@[simp] theorem Place.field_entry (name : String) :
    (Place.entry list index fields).field name = .entry list index (fields ++ [name]) := rfl

/-- Two steps within an entry, one after the other, stay within it. -/
theorem within_bind {next : α → Except Fault β} (h : Within list index step)
    (hnext : ∀ a, Within list index (next a)) : Within list index (step >>= next) := by
  intro place reason hfault
  obtain hstep | ⟨a, -, hafter⟩ := bind_eq_error_iff.1 hfault
  · exact h place reason hstep
  · exact hnext a place reason hafter

/-- A function of the value moves no fault. -/
theorem within_map (f : α → β) (h : Within list index step) :
    Within list index (step.map f) := by
  cases step with
  | ok a => exact within_ok (f a)
  | error fault =>
      intro place reason hfault
      cases hfault
      exact h place reason rfl

end Within

variable {κ : Type} {name : String}

/-- Reading an object at a place of an entry stays within the entry. -/
theorem within_readObject : Within list index (readObject (.entry list index fields) value) := by
  cases value <;> simp [readObject]

/-- Reading the kind of an entry stays within it. -/
theorem within_readKind {ofName : String → Except UnknownKind κ} :
    Within list index (readKind ofName (.entry list index fields) object) := by
  refine within_bind ?_ fun name => ?_
  · unfold readKindName
    split <;> simp
  · split <;> simp [throw, throwThe, MonadExceptOf.throw]

/-- Reading the detail of an entry stays within it. -/
theorem within_readDetail :
    Within list index (readDetail (.entry list index fields) object) := by
  unfold readDetail
  split <;> simp

/-- An unknown file name is a fault in the field that states it, or an obstacle. -/
theorem within_unknownFile :
    Within list index
      (.error (unknownFile (.entry list index fields) value) : Except Fault α) := by
  unfold unknownFile
  split <;> simp

/-- A fault in the text of a context has its place in the context. -/
theorem within_readText :
    Within list index (readText map (.entry list index fields) object) := by
  unfold readText
  split
  · split <;> simp
  · simp
  · simp
  · split
    · simp
    · exact within_unknownFile
  · exact within_unknownFile

/-- Reading a context at a place of an entry stays within the entry. -/
theorem within_readContext :
    Within list index (readContext map (.entry list index fields) object) := by
  refine within_bind within_readText fun found => ?_
  dsimp only
  split
  · split <;> simp [throw, throwThe, MonadExceptOf.throw]
  · simp [throw, throwThe, MonadExceptOf.throw]

/-- Reading a context of an entry that may be missing stays within the entry. -/
theorem within_readContext? :
    Within list index (readContext? map (.entry list index fields) object name) := by
  unfold readContext?
  split
  · simp
  · exact within_bind within_readObject fun context =>
      within_bind within_readContext fun c => within_pure (some c)

/-- Reading the name of a passage stays within its entry. -/
theorem within_readPassageName :
    Within list index (readPassageName (.entry list index fields) object) := by
  unfold readPassageName
  split <;> simp

/-- Reading the tags of a passage stays within its entry. -/
theorem within_readTags : Within list index (readTags (.entry list index fields) object) := by
  simp only [readTags]
  split
  · simp
  · split <;> simp

/-- Reading the context of a passage stays within its entry. -/
theorem within_readPassageContext :
    Within list index (readPassageContext map (.entry list index fields) object) := by
  unfold readPassageContext
  split
  · simp
  · exact within_map some within_readContext

/-- The content of a passage has no fault with a place. -/
theorem within_readContent {context : Option SourceContext} :
    Within list index (readContent object context) := by
  unfold readContent
  split
  · simp
  · split <;> simp

/-! ## Lists -/

/-- Faults of an entry have places in the entry. -/
theorem within_readEntry (map : CodeMap) (list : EntryList) (index : Nat) (value : Json) :
    Within list index (list.readEntry map index value) := by
  cases list with
  | warnings =>
      exact within_bind within_readObject fun object =>
        within_bind within_readKind fun kind =>
        within_bind within_readDetail fun detail =>
        within_bind within_readContext? fun context =>
        within_bind within_readContext? fun referent => within_pure _
  | errors =>
      exact within_bind within_readObject fun object =>
        within_bind within_readKind fun kind =>
        within_bind within_readDetail fun detail =>
        within_bind within_readContext? fun context => within_pure _
  | passages =>
      exact within_bind within_readObject fun object =>
        within_bind within_readPassageName fun name =>
        within_bind within_readTags fun tags =>
        within_bind within_readPassageContext fun context =>
        within_bind within_readContent fun content => within_pure _

/-! ## Faults outside of entries -/

/-- A fault of the texts of files lies in no entry. -/
@[simp] theorem readFileList_ne_entry :
    readFileList object ≠ .error (.malformed (.entry list index fields) reason) := by
  induction object with
  | nil => simp [readFileList]
  | cons field rest ih =>
      obtain ⟨name, value⟩ := field
      cases value <;> simp [readFileList, readFile, bind_eq_error_iff, map_eq_error_iff, ih]

/-- A fault of reading the files lies in no entry. -/
@[simp] theorem readFiles_ne_entry :
    readFiles document ≠ .error (.malformed (.entry list index fields) reason) := by
  unfold readFiles readCodeMap
  split
  · simp
  · split
    · rename_i fault hfault
      intro h
      obtain rfl := Except.error.inj h
      exact readFileList_ne_entry hfault
    · simp
  · simp

/-- That a field holds no list is a fault outside the entries. -/
@[simp] theorem entries_ne_entry {l : EntryList} :
    entries document l ≠ .error (.malformed (.entry list index fields) reason) := by
  unfold entries
  split <;> simp

/-- A fault of the title lies in no entry. -/
@[simp] theorem readTitle_ne_entry :
    readTitle document ≠ .error (.malformed (.entry list index fields) reason) := by
  unfold readTitle
  split <;> simp

/-- A list with a fault in an entry is the list of the entry, and the entry is reached. -/
theorem exists_entryReached {l : EntryList} {items : List Json}
    (h : readEntries (l.readEntry map) 0 items =
      .error (.malformed (.entry list index fields) reason)) :
    l = list ∧ ∃ entry, EntryReached (l.readEntry map) items index entry ∧
      l.readEntry map index entry = .error (.malformed (.entry list index fields) reason) := by
  obtain ⟨place, entry, hhere, hbefore, hfault⟩ := readEntries_eq_error_iff.1 h
  rw [Nat.zero_add] at hfault
  obtain ⟨_, hplace⟩ := within_readEntry map l place entry _ _ hfault
  cases hplace
  exact ⟨rfl, entry, ⟨hhere, hbefore⟩, hfault⟩

/-- If a fault in an entry is the answer, reading comes to the list and reaches the entry, and
finds the fault there. -/
theorem exists_comesTo
    (h : readDocument (.object document) =
      .error (.malformed (.entry list index fields) reason)) :
    ∃ map items entry, ComesTo document list map ∧ entries document list = .ok items ∧
      EntryReached (list.readEntry map) items index entry ∧
      list.readEntry map index entry = .error (.malformed (.entry list index fields) reason) := by
  obtain ⟨l, map, items, hcomes, hitems, hfault⟩ := (readDocument_eq_error_iff
    readFiles_ne_entry (fun _ => entries_ne_entry) readTitle_ne_entry).1 h
  obtain ⟨rfl, entry, hreached, hentry⟩ := exists_entryReached hfault
  exact ⟨map, items, entry, hcomes, hitems, hreached, hentry⟩

/-! ## Documents that go on otherwise -/

/-- The fields that are read before a list. -/
def EntryList.before : EntryList → List String
  | warnings => ["files"]
  | errors => ["files", "warnings"]
  | passages => ["files", "warnings", "errors"]

/-- The fields that are read behind a list. -/
def EntryList.behind : EntryList → List String
  | warnings => ["errors", "passages", "title"]
  | errors => ["passages", "title"]
  | passages => ["title"]

/-- A document goes on from another one at a list: what is read before the list is the same, and
the list begins with the same entries. -/
structure GoesOn (list : EntryList) (document longer : Object) : Prop where
  before : ∀ name ∈ list.before, Fields.get? name longer = Fields.get? name document
  entries : ∃ items more, Fields.get? list.name document = some (.array items) ∧
    Fields.get? list.name longer = some (.array (items ++ more))

/-- A list depends on its own field only. -/
theorem entries_congr {l : EntryList}
    (h : Fields.get? l.name longer = Fields.get? l.name document) :
    entries longer l = entries document l := by
  simp only [entries, present?, h]

/-- Whether reading comes to a list depends on what is read before it. -/
theorem ComesTo.congr (h : ComesTo document list map)
    (hbefore : ∀ name ∈ list.before, Fields.get? name longer = Fields.get? name document) :
    ComesTo longer list map := by
  have hfiles : "files" ∈ list.before := by cases list <;> decide
  have hreadFiles : readFiles longer = readFiles document := by
    simp only [readFiles, hbefore _ hfiles]
  cases h with
  | warnings hmap => exact .warnings (hreadFiles.trans hmap)
  | errors hmap hitems hwarnings =>
      have hwarningItems := entries_congr (l := .warnings) (hbefore _ (by decide))
      exact .errors (hreadFiles.trans hmap) (hwarningItems.trans hitems) hwarnings
  | passages hfindings hnone =>
      have hwarningItems := entries_congr (l := .warnings) (hbefore _ (by decide))
      have herrorItems := entries_congr (l := .errors) (hbefore _ (by decide))
      have hreadFindings : readFindings longer = readFindings document := by
        simp only [readFindings, hreadFiles, hwarningItems, herrorItems]
      exact .passages (hreadFindings.trans hfindings) hnone

/-- A value with its first items, if it is an array. -/
def takeItems (count : Nat) : Json → Json
  | .array items => .array (items.take count)
  | value => value

/-- A document with a list cut to its first entries, without the fields that are read behind it. -/
def cutAt (document : Object) (list : EntryList) (count : Nat) : Object :=
  (document.filter fun field => field.1 ∉ list.behind).map fun field =>
    (field.1, if field.1 = list.name then takeItems count field.2 else field.2)

/-- The fields of a cut document: those behind the list are gone, the list is shorter, the others
are as they were. -/
theorem get?_cutAt (document : Object) (list : EntryList) (count : Nat) (name : String) :
    Fields.get? name (cutAt document list count) =
      if name ∈ list.behind then none
      else (Fields.get? name document).map fun value =>
        if name = list.name then takeItems count value else value := by
  rw [cutAt, Fields.get?_map_values (fun name value =>
      if name = list.name then takeItems count value else value),
    Fields.get?_filter_names (fun name => decide (name ∉ list.behind))]
  by_cases hname : name ∈ list.behind <;> simp [hname]

/-- A list is not read behind itself. -/
theorem EntryList.name_notMem_behind (list : EntryList) : list.name ∉ list.behind := by
  cases list <;> decide

/-- What is read before a list is neither the list nor read behind it. -/
theorem EntryList.apart_of_before (list : EntryList) :
    ∀ name ∈ list.before, name ∉ list.behind ∧ name ≠ list.name := by
  cases list <;> decide

/-- Cutting keeps the fields that are read before the list. -/
theorem get?_cutAt_of_before {count : Nat} {name : String} (h : name ∈ list.before) :
    Fields.get? name (cutAt document list count) = Fields.get? name document := by
  obtain ⟨hbehind, hname⟩ := list.apart_of_before name h
  simp [get?_cutAt, hbehind, hname]

/-- Cutting takes the fields out that are read behind the list. -/
theorem get?_cutAt_of_behind {count : Nat} {name : String} (h : name ∈ list.behind) :
    Fields.get? name (cutAt document list count) = none := by
  rw [get?_cutAt, if_pos h]

/-- Cutting leaves the first entries of the list. -/
theorem get?_cutAt_name {count : Nat} {items : List Json}
    (h : Fields.get? list.name document = some (.array items)) :
    Fields.get? list.name (cutAt document list count) = some (.array (items.take count)) := by
  simp [get?_cutAt, list.name_notMem_behind, h, takeItems]

/-! ## Documents that are read -/

/-- An array has its items as entries. -/
theorem entries_of_array {items : List Json}
    (h : Fields.get? list.name document = some (.array items)) :
    entries document list = .ok items := by
  simp [entries, present?, h]

/-- A list that is missing is empty. -/
theorem entries_of_missing (h : Fields.get? list.name document = none) :
    entries document list = .ok [] := by
  simp [entries, present?, h]

/-- A list with an entry is an array. -/
theorem get?_of_entries {items : List Json} {entry : Json}
    (h : entries document list = .ok items) (hentry : items[index]? = some entry) :
    Fields.get? list.name document = some (.array items) := by
  unfold entries at h
  split at h
  · cases h
    cases hentry
  · rename_i hfield
    cases h
    exact (present?_eq_some_iff.1 hfield).1
  · cases h

/-- Passages that are read make a story if there is no title to fail. -/
theorem exists_readStory_eq_ok {items : List Json} {passages : List Passage}
    (hitems : entries document .passages = .ok items)
    (hread : readEntries (readPassage map) 0 items = .ok passages)
    (htitle : Fields.get? "title" document = none) :
    ∃ story, readStory document map = .ok story := by
  have hnone : readTitle document = .ok none := by simp [readTitle, present?, htitle]
  exact ⟨_, by simp only [readStory, hitems, hread, hnone, bind, Except.bind]; rfl⟩

/-- Passages that are read make a result if there is no title to fail, with errors or without. -/
theorem exists_readResult_eq_ok {findings : Findings} {items : List Json}
    {passages : List Passage} (hitems : entries document .passages = .ok items)
    (hread : readEntries (readPassage findings.codeMap) 0 items = .ok passages)
    (htitle : Fields.get? "title" document = none) :
    ∃ output, readResult document findings = .ok output := by
  unfold readResult
  split
  · obtain ⟨story, hstory⟩ := exists_readStory_eq_ok hitems hread htitle
    exact ⟨_, by rw [hstory]; rfl⟩
  · exact ⟨_, rfl⟩

/-- A document is read if reading comes to a list, the entries of the list are read, and nothing is
behind the list. -/
theorem exists_readDocument_eq_ok {items : List Json} {values : List list.Value}
    (hcomes : ComesTo document list map) (hitems : entries document list = .ok items)
    (hread : readEntries (list.readEntry map) 0 items = .ok values)
    (hbehind : ∀ name ∈ list.behind, Fields.get? name document = none) :
    ∃ output, readDocument (.object document) = .ok output := by
  have htitle : Fields.get? "title" document = none :=
    hbehind _ (by cases list <;> decide)
  have hmissing : ∀ l : EntryList, l.name ∈ list.behind → entries document l = .ok [] :=
    fun l hl => entries_of_missing (hbehind _ hl)
  have hdocument : ∀ {findings : Findings} {passageItems passages},
      readFindings document = .ok findings →
      entries document .passages = .ok passageItems →
      readEntries (readPassage findings.codeMap) 0 passageItems = .ok passages →
      ∃ output, readDocument (.object document) = .ok output := by
    intro findings passageItems passages hfindings hpassageItems hpassages
    obtain ⟨output, houtput⟩ := exists_readResult_eq_ok hpassageItems hpassages htitle
    exact ⟨output, bind_eq_ok_iff.2 ⟨findings, hfindings, houtput⟩⟩
  cases hcomes with
  | warnings hmap =>
      have hfindings : readFindings document = .ok ⟨map, values, []⟩ := by
        simp only [readFindings, bind_eq_ok_iff]
        exact ⟨map, hmap, items, hitems, values, hread, [], hmissing .errors (by decide), [], rfl,
          rfl⟩
      exact hdocument hfindings (hmissing .passages (by decide)) rfl
  | @errors _ warningItems warnings hmap hwarningItems hwarnings =>
      have hfindings : readFindings document = .ok ⟨map, warnings, values⟩ := by
        simp only [readFindings, bind_eq_ok_iff]
        exact ⟨map, hmap, warningItems, hwarningItems, warnings, hwarnings, items, hitems, values,
          hread, rfl⟩
      exact hdocument hfindings (hmissing .passages (by decide)) rfl
  | passages hfindings hnone => exact hdocument hfindings hitems hread

/-! ## The first bad entry -/

/-- A list fails in the same way if other entries follow the first bad one. -/
theorem readEntries_take_append {read : Nat → Json → Except Fault α} {items : List Json}
    {entry : Json} (hreached : EntryReached read items index entry)
    (hfault : read index entry = .error fault) (more : List Json) :
    readEntries read 0 (items.take (index + 1) ++ more) = .error fault := by
  obtain ⟨hhere, firsts, hfirsts⟩ := hreached
  have hindex := (List.getElem?_eq_some_iff.1 hhere).1
  have hlength : index < (items.take (index + 1)).length := by
    rw [List.length_take]
    omega
  refine readEntries_eq_error_iff.2 ⟨index, entry, ?_, ⟨firsts, ?_⟩, by rwa [Nat.zero_add]⟩
  · rw [List.getElem?_append_left hlength, List.getElem?_take_of_lt (Nat.lt_succ_self index), hhere]
  · rw [List.take_append_of_le_length (Nat.le_of_lt hlength), List.take_take,
      Nat.min_eq_left (Nat.le_succ index), hfirsts]

/-- A fault in an entry of a list is that of the first bad entry. The list is an array, the entry is
there, and the document is read if the list is cut in front of the entry and what is read behind
the list is taken away. Every document that goes on from the list up to the entry has the same
fault at the same place, whatever the entries and the other lists that follow. -/
theorem read_first_bad_entry {source : Option String} {value : Json} {e : Malformed}
    {rest : String} (h : read source value = .error (.malformed e))
    (hkey : e.place.key? = some (list.entryKey index ++ rest)) :
    ∃ document items, value = .object document ∧
      Fields.get? list.name document = some (.array items) ∧ index < items.length ∧
      (∃ output, read source (.object (cutAt document list index)) = .ok output) ∧
      ∀ longer, GoesOn list (cutAt document list (index + 1)) longer →
        read source (.object longer) = .error (.malformed e) := by
  obtain ⟨hsource, hfault⟩ := read_eq_malformed_iff.1 h
  obtain ⟨fields, hplace⟩ := Place.eq_entry_of_key? hkey
  rw [hplace] at hfault
  cases value with
  | object document =>
      obtain ⟨map, items, entry, hcomes, hitems, hreached, hentry⟩ := exists_comesTo hfault
      obtain ⟨hhere, firsts, hfirsts⟩ := id hreached
      have harray := get?_of_entries hitems hhere
      -- What is read before the list is not cut, so the cut documents come to it as this one does.
      have hcut : ∀ count, ComesTo (cutAt document list count) list map :=
        fun count => hcomes.congr fun name => get?_cutAt_of_before
      refine ⟨document, items, rfl, harray, (List.getElem?_eq_some_iff.1 hhere).1, ?_, ?_⟩
      · obtain ⟨output, houtput⟩ := exists_readDocument_eq_ok (hcut index)
          (entries_of_array (get?_cutAt_name harray)) hfirsts fun name => get?_cutAt_of_behind
        exact ⟨output, by rw [read, houtput]⟩
      · intro longer hlonger
        obtain ⟨taken, more, htaken, hmore⟩ := hlonger.entries
        rw [get?_cutAt_name harray] at htaken
        cases htaken
        refine read_eq_malformed_iff.2 ⟨hsource, ?_⟩
        rw [hplace]
        exact readDocument_eq_error ((hcut (index + 1)).congr hlonger.before)
          (entries_of_array hmore) (readEntries_take_append hreached hentry more)
  | _ => simp [readDocument] at hfault

/-- A document with a bad entry in front of another one, and with faults behind the list. -/
def numberTextDocument : Object :=
  [("title", .integer 4), ("passages", .bool true),
   ("errors", .array
     [.object [("kind", .text "empty-name")],
      .object [("kind", .text "empty-name"), ("context", .object [("text", .integer 3)])],
      .integer 7]),
   ("warnings", .array [.object [("kind", .text "dead-link")]])]

/-- The same up to the bad entry, with other faults behind it. -/
def numberTextDocument' : Object :=
  [("errors", .array
     [.object [("kind", .text "empty-name")],
      .object [("kind", .text "empty-name"), ("context", .object [("text", .integer 3)])],
      .object [("kind", .text "no-kind")]]),
   ("warnings", .array [.object [("kind", .text "dead-link")]]),
   ("passages", .array [.null])]

/-- Behind one good warning, a second one with a number as its detail is the first bad entry. -/
theorem read_first_bad_entry_number_text :
    let e : Malformed :=
      { source := none, place := .entry .errors 1 ["context", "text"]
        reason := .textNotText }
    read none (.object numberTextDocument) = .error (.malformed e) ∧
      e.place.key? = some (EntryList.errors.entryKey 1 ++ ".context.text") ∧
      GoesOn .errors (cutAt numberTextDocument .errors 2) numberTextDocument' ∧
      (∃ output, read none (.object (cutAt numberTextDocument .errors 1)) = .ok output) ∧
      read none (.object numberTextDocument') = .error (.malformed e) := by
  intro e
  have hread : read none (.object numberTextDocument) = .error (.malformed e) := by rfl
  have hkey : e.place.key? = some (EntryList.errors.entryKey 1 ++ ".context.text") := by decide
  have hlonger : GoesOn .errors (cutAt numberTextDocument .errors 2) numberTextDocument' := by
    refine ⟨fun name hname => ?_, _, _, rfl, rfl⟩
    rcases List.mem_pair.1 hname with rfl | rfl <;> rfl
  obtain ⟨document, items, hdocument, -, -, hcut, hfails⟩ := read_first_bad_entry hread hkey
  cases hdocument
  exact ⟨hread, hkey, hlonger, hcut, hfails numberTextDocument' hlonger⟩

end StoryLint.Dump
