import StoryLint.Proofs.Dump.Format
import StoryLint.Proofs.Fields
import StoryLint.Proofs.Source.CodeMap

/-!
# Documents that are read back

A statement is what a front end found: files, warnings and errors, a title and passages, all
contexts lying in the files or in text of their own. `Statement.document` writes it in the
documented format with every field in its place; `Statement.WrittenIn` holds of every document
that states it, in whatever order and with whatever left out.

`Statement.read_of_writtenIn` is the main result: reading such a document gives exactly the
statement. In a story, passages of one name count as the last of them, in the place of the first.
-/

namespace StoryLint

/-! ## The passages of a story -/

/-- Of passages with one name the last one, in the order in which the names first appear. -/
def Passage.latest (passages : List Passage) : List Passage :=
  (passages.map (·.name)).eraseDups.filterMap fun name =>
    passages.reverse.find? (·.name = name)

/-- Among passages listed by name, the first of a name is found. -/
theorem get?_map_named {name : String} (passages : List Passage) :
    Fields.get? name (passages.map fun p => (p.name, p)) =
      passages.find? (·.name = name) := by
  induction passages with
  | nil => rfl
  | cons p rest ih =>
      rw [List.map_cons, Fields.get?_cons, ih, List.find?_cons]
      by_cases h : name = p.name
      · simp [h]
      · simp [h, Ne.symm h]

/-- The passages of a story are the latest of each name. -/
theorem Passage.distinct_eq_latest (passages : List Passage) :
    Passage.distinct passages = Passage.latest passages := by
  have hnames : (passages.map fun p => (p.name, p)).map (·.1) = passages.map (·.name) := by
    simp
  have hvalue : ∀ name : String, (Fields.get? name
      (passages.map fun p => (p.name, p)).reverse).map (fun p => (name, p).2) =
      passages.reverse.find? (·.name = name) := by
    intro name
    rw [← List.map_reverse, get?_map_named, Option.map_id']
  rw [Passage.distinct, Fields.distinct_eq, List.map_filterMap, hnames, Passage.latest]
  refine List.filterMap_congr fun name _ => ?_
  rw [← hvalue, Option.map_map]
  rfl

/-- Every name is there once. -/
theorem Passage.names_latest (passages : List Passage) :
    (Passage.latest passages).map (·.name) = (passages.map (·.name)).eraseDups := by
  have hfound : ∀ name ∈ (passages.map (·.name)).eraseDups,
      (passages.reverse.find? (·.name = name)).map (·.name) = some name := by
    intro name hname
    obtain ⟨p, hp, rfl⟩ := List.mem_map.1 (List.mem_eraseDups.1 hname)
    cases hlast : passages.reverse.find? (·.name = p.name) with
    | none => simpa using List.find?_eq_none.1 hlast p (List.mem_reverse.2 hp)
    | some last => simpa using List.find?_some hlast
  rw [Passage.latest, List.map_filterMap, List.filterMap_congr hfound, List.filterMap_some]

namespace Dump

/-! ## Statements -/

/-- What a document says of a passage. Its content may be left to its context. -/
structure PassageStatement where
  name : String
  tags : List String := []
  content : Option String := none
  context : Option SourceContext := none

/-- The passage: without a content of its own it has the text of its context. -/
def PassageStatement.passage (p : PassageStatement) : Passage :=
  { name := p.name
    tags := p.tags
    content := p.content.getD ((p.context.map (·.contents)).getD "")
    context := p.context }

/-- What a document says of a story. Every context that names a file lies in the files. -/
structure Statement where
  codeMap : CodeMap
  warnings : List Warning
  errors : List ParseError
  title : Option String
  passages : List PassageStatement
  warnings_inMap : ∀ w ∈ warnings, (∀ c ∈ w.context, c.InMap codeMap) ∧
    ∀ c ∈ w.referent, c.InMap codeMap
  errors_inMap : ∀ e ∈ errors, ∀ c ∈ e.context, c.InMap codeMap
  passages_inMap : ∀ p ∈ passages, ∀ c ∈ p.context, c.InMap codeMap

namespace Statement

/-- What is to be read: the errors, if there are any, and otherwise a story. -/
def output (s : Statement) : StoryOutput where
  result :=
    if s.errors = [] then
      .story
        { codeMap := s.codeMap
          title := s.title
          passages := Passage.latest (s.passages.map (·.passage)) }
    else .errors s.errors s.codeMap
  warnings := s.warnings

end Statement

/-! ## Writing -/

/-- An optional text; an absent one is `null`. -/
def textValue? : Option String → Json
  | none => .null
  | some s => .text s

/-- An offset as it was given. -/
def offsetValue : Offset → Json
  | .number n => .integer n
  | .flag b => .bool b

/-- The fields of a context: its file, or else its text, and its range. -/
def contextFields (c : SourceContext) : Object :=
  [match c.fileName with
    | some name => ("file", .text name)
    | none => ("text", .text c.text),
   ("start", offsetValue c.start),
   ("end", offsetValue c.stop)]

/-- An optional context; an absent one is `null`. -/
def contextValue? : Option SourceContext → Json
  | none => .null
  | some c => .object (contextFields c)

/-- A warning as an entry. -/
def warningValue (w : Warning) : Json :=
  .object
    [("kind", .text w.kind.name),
     ("detail", textValue? w.detail),
     ("context", contextValue? w.context),
     ("referent", contextValue? w.referent)]

/-- An error as an entry. -/
def errorValue (e : ParseError) : Json :=
  .object
    [("kind", .text e.kind.name),
     ("detail", textValue? e.detail),
     ("context", contextValue? e.context)]

/-- A passage as an entry. The fields of its context stand beside the others. -/
def passageValue (p : PassageStatement) : Json :=
  .object <|
    [("name", .text p.name),
     ("tags", .array (p.tags.map .text)),
     ("content", textValue? p.content)] ++ (p.context.map contextFields).getD []

/-- The files as fields. -/
def filesValue (map : CodeMap) : Json :=
  .object (map.files.map fun file => (file.name, .text file.text))

namespace Statement

/-- The document that writes down a statement. -/
def document (s : Statement) : Object :=
  [("title", textValue? s.title),
   ("files", filesValue s.codeMap),
   ("passages", .array (s.passages.map passageValue)),
   ("errors", .array (s.errors.map errorValue)),
   ("warnings", .array (s.warnings.map warningValue))]

/-- A document states all that a statement says. The passages and the title of a story with
errors may be anything. -/
structure WrittenIn (s : Statement) (document : Object) : Prop where
  files : StatesFiles document s.codeMap
  warnings : StatesList document .warnings (StatesWarning s.codeMap) s.warnings
  errors : StatesList document .errors (StatesError s.codeMap) s.errors
  passages : s.errors = [] →
    StatesList document .passages (StatesPassage s.codeMap) (s.passages.map (·.passage))
  title : s.errors = [] → StatesText? document "title" s.title

end Statement

/-! ## What is written is stated -/

section Written

variable {map : CodeMap} {fields : Object} {name : String} {c : SourceContext}

/-- A text as it is written is stated. -/
theorem states_textValue? {text : Option String}
    (h : Fields.get? name fields = some (textValue? text)) : StatesText? fields name text := by
  cases text with
  | none => exact .absent (by simp [present?, h, textValue?])
  | some s => exact .given h

/-- An offset as it is written is stated. -/
theorem states_offsetValue {offset : Offset} {default : Int}
    (h : Fields.get? name fields = some (offsetValue offset)) :
    StatesOffset fields name default offset := by
  cases offset with
  | number n => exact .number h
  | flag b => exact .flag h

/-- Fields state a context if they agree with those of the context where it is looked up. -/
theorem states_contextFields (hc : c.InMap map)
    (h : ∀ name ∈ ["file", "text", "start", "end"],
      Fields.get? name fields = Fields.get? name (contextFields c)) :
    StatesContext map fields c := by
  have hfile := h "file" (by simp)
  have htext := h "text" (by simp)
  have hstart := h "start" (by simp)
  have hend := h "end" (by simp)
  refine ⟨?_, states_offsetValue ?_, states_offsetValue ?_⟩
  · cases hname : c.fileName with
    | none =>
        have hnone : Fields.get? "file" fields = none := by
          rw [hfile]
          simp [contextFields, hname, Fields.get?]
        refine .inline (by simp [present?, hnone]) ?_
        rw [htext]
        simp [contextFields, hname, Fields.get?_cons]
    | some name =>
        refine .file ?_ (CodeMap.text?_eq_some_iff.2 (hc name hname))
        rw [hfile]
        simp [contextFields, hname, Fields.get?_cons]
  · rw [hstart]
    cases hname : c.fileName <;> simp [contextFields, hname, Fields.get?_cons]
  · rw [hend]
    cases hname : c.fileName <;> simp [contextFields, hname, Fields.get?_cons]

/-- A context of a known file as it is written is stated. -/
theorem states_contextValue? {context : Option SourceContext} (hc : ∀ c ∈ context, c.InMap map)
    (h : Fields.get? name fields = some (contextValue? context)) :
    StatesContext? map fields name context := by
  cases context with
  | none => exact .absent (by simp [present?, h, contextValue?])
  | some c => exact .given h (states_contextFields (hc c rfl) fun _ _ => rfl)

/-- A warning as it is written is stated. -/
theorem states_warningValue {w : Warning} (hcontext : ∀ c ∈ w.context, c.InMap map)
    (hreferent : ∀ c ∈ w.referent, c.InMap map) : StatesWarning map (warningValue w) w :=
  .entry rfl (states_textValue? rfl) (states_contextValue? hcontext rfl)
    (states_contextValue? hreferent rfl)

/-- An error as it is written is stated. -/
theorem states_errorValue {e : ParseError} (hcontext : ∀ c ∈ e.context, c.InMap map) :
    StatesError map (errorValue e) e :=
  .entry rfl (states_textValue? rfl) (states_contextValue? hcontext rfl)

/-- A passage as it is written is stated. -/
theorem states_passageValue {p : PassageStatement} (hc : ∀ c ∈ p.context, c.InMap map) :
    StatesPassage map (passageValue p) p.passage := by
  refine .entry rfl (.given rfl) ?_ ?_
  · cases hcontext : p.context with
    | none =>
        have hpassage : p.passage.context = none := hcontext
        rw [hpassage]
        exact .missing (by simp [Fields.get?])
    | some c =>
        have hpassage : p.passage.context = some c := hcontext
        rw [hpassage]
        refine .given ?_ (states_contextFields (hc c hcontext) ?_)
        · cases hname : c.fileName <;> simp [contextFields, hname, Fields.get?_cons]
        -- The fields of the context stand last, behind names that it does not use.
        · intro name hname
          simp only [List.mem_cons, List.not_mem_nil, or_false] at hname
          obtain rfl | rfl | rfl | rfl := hname <;> simp [Fields.get?_cons]
  · cases hcontent : p.content with
    | none =>
        have hpassage : p.passage.content = (p.passage.context.map (·.contents)).getD "" := by
          simp [PassageStatement.passage, hcontent]
        rw [hpassage]
        exact .absent (by simp [present?, Fields.get?_cons, textValue?])
    | some content =>
        have hpassage : p.passage.content = content := by
          simp [PassageStatement.passage, hcontent]
        rw [hpassage]
        refine .given ?_ (show (Json.text content).asText = .ok content from rfl)
        simp [present?, Fields.get?_cons, textValue?]

/-- A list states its items if each is stated by what is written for it. -/
theorem states_list {α β : Type} (list : EntryList) {states : Json → α → Prop}
    {value : β → Json} {result : β → α} {items : List β}
    (hitems : ∀ item ∈ items, states (value item) (result item))
    (h : Fields.get? list.name fields = some (.array (items.map value))) :
    StatesList fields list states (items.map result) := by
  refine .given h ?_
  rw [List.forall₂_map_left_iff, List.forall₂_map_right_iff]
  exact List.forall₂_same.2 hitems

end Written

namespace Statement

/-- The document of a statement has the statement written in it. -/
theorem writtenIn_document (s : Statement) : s.WrittenIn s.document where
  files := by
    refine .given rfl (Fields.distinct_of_nodup ?_)
    rw [List.map_map]
    exact s.codeMap.names_nodup
  warnings := by
    have hwarnings := fun w hw => states_warningValue (s.warnings_inMap w hw).1
      (s.warnings_inMap w hw).2
    simpa using states_list .warnings hwarnings rfl
  errors := by
    have herrors := fun e he => states_errorValue (s.errors_inMap e he)
    simpa using states_list .errors herrors rfl
  passages := fun _ => by
    have hpassages := fun p hp => states_passageValue (s.passages_inMap p hp)
    exact states_list .passages hpassages rfl
  title := fun _ => states_textValue? rfl

/-- Every document that states something is read as exactly this, and everything can be stated. -/
theorem read_of_writtenIn (s : Statement) (source : Option String) :
    (∀ document, s.WrittenIn document → read source (.object document) = .ok s.output) ∧
      s.WrittenIn s.document := by
  refine ⟨fun document h => read_eq_ok_iff.2 ?_, s.writtenIn_document⟩
  by_cases hnone : s.errors = []
  · have hstory : s.output =
        { result := .story
            { codeMap := s.codeMap
              title := s.title
              passages := Passage.latest (s.passages.map (·.passage)) }
          warnings := s.warnings } := by
      simp [output, hnone]
    rw [hstory]
    exact .story h.files h.warnings (hnone ▸ h.errors) (h.passages hnone)
      (Passage.distinct_eq_latest _).symm (h.title hnone)
  · have herrors : s.output =
        { result := .errors s.errors s.codeMap, warnings := s.warnings } := by
      simp [output, hnone]
    rw [herrors]
    exact .errors h.files h.warnings h.errors hnone

/-- A warning about a whole file, and a story with two passages of one name. -/
def brief : Statement where
  codeMap := { files := [⟨"a", "xyz"⟩], names_nodup := by decide }
  warnings := [{ kind := .deadLink, context := some (.whole (some "a") "xyz") }]
  errors := []
  title := none
  passages :=
    [{ name := "p", context := some (.whole (some "a") "xyz") },
     { name := "q" },
     { name := "p", tags := ["t"], content := some "c" }]
  warnings_inMap := by simp [SourceContext.InMap, SourceContext.whole]
  errors_inMap := by simp
  passages_inMap := by simp [SourceContext.InMap, SourceContext.whole]

/-- A document that leaves out what may be left out. -/
def briefDocument : Object :=
  [("passages", .array
     [.object [("start", .integer 0), ("file", .text "a"), ("name", .text "p")],
      .object [("name", .text "q")],
      .object [("name", .text "p"), ("content", .text "c"), ("tags", .array [.text "t"])]]),
   ("files", .object [("a", .text "xyz")]),
   ("warnings", .array
     [.object [("kind", .text "dead-link"), ("context", .object [("file", .text "a")])]])]

/-- The brief document is read as what it states. -/
theorem read_briefDocument :
    brief.WrittenIn briefDocument ∧
      read none (.object briefDocument) = .ok brief.output := by
  have hwhole : ∀ fields : Object, Fields.get? "file" fields = some (.text "a") →
      StatesOffset fields "start" 0 (.number 0) → StatesOffset fields "end" 3 (.number 3) →
      StatesContext brief.codeMap fields (.whole (some "a") "xyz") :=
    fun fields hfile hstart hend => ⟨.file hfile rfl, hstart, hend⟩
  have hcontent : StatesContent
      [("name", .text "p"), ("content", .text "c"), ("tags", .array [.text "t"])] none "c" :=
    .given rfl rfl
  have h : brief.WrittenIn briefDocument :=
    { files := .given rfl rfl
      warnings := .given rfl <| .cons (.entry rfl (.absent rfl)
        (.given rfl (hwhole _ rfl (.missing rfl) (.missing rfl))) (.absent rfl)) .nil
      errors := .absent rfl
      passages := fun _ => .given rfl <|
        .cons (.entry rfl (.empty rfl)
          (.given rfl (hwhole _ rfl (.number rfl) (.missing rfl))) (.absent rfl)) <|
        .cons (.entry rfl (.empty rfl) (.missing rfl) (.absent rfl)) <|
        .cons (.entry rfl (.given rfl) (.missing rfl) hcontent) .nil
      title := fun _ => .absent rfl }
  exact ⟨h, (read_of_writtenIn brief none).1 briefDocument h⟩

end Statement

end Dump

end StoryLint
