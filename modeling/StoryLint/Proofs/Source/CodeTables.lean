import StoryLint.Proofs.Fields
import StoryLint.Proofs.Source.CodeMap
import StoryLint.Proofs.Source.Line
import StoryLint.Source.CodeTables

/-!
# The tables of a code map agree

Whatever files are added, and however many of them are refused, the tables stay those of a code
map: `run_add_ofMap` says so of one call, `run_addAll_ofMap` of any number of them. The look-ups
in the tables of a code map are those in the code map and never miss an entry (`read_ofMap`).

`addAll_consistent` is the main result: after any calls ids and names lead to each other, the ids
are the numbers up to the number of files in the order in which these were added, no other id or
name is known, and later calls change nothing about a file that is there.
-/

namespace StoryLint

/-- A file is known by its name and its text, which its context has. -/
theorem SourceFile.eq_of_context_eq {first second : SourceFile}
    (h : first.context = second.context) : first = second := by
  obtain ⟨name, text⟩ := first
  obtain ⟨name', text'⟩ := second
  have hname : name = name' := Option.some.inj (congrArg (·.fileName) h)
  have htext : text = text' := congrArg (·.text) h
  rw [hname, htext]

namespace CodeMap

/-- The code map after a file was added or refused. -/
def register (map : CodeMap) (file : SourceFile) : CodeMap :=
  match map.add file with
  | .ok after => after
  | .error _ => map

variable {map : CodeMap} {file : SourceFile}

/-- A file with a known name changes nothing. -/
theorem register_of_mem (h : file.name ∈ map.names) : map.register file = map := by
  rw [register, add, dif_pos h]

/-- A file with a new name goes behind the others. -/
theorem files_register_of_notMem (h : file.name ∉ map.names) :
    (map.register file).files = map.files ++ [file] := by
  rw [register, add, dif_neg h]

end CodeMap

namespace CodeTables

variable {α : Type} {map : CodeMap} {name : String} {file : SourceFile} {tables : CodeTables}

/-! ## The tables of a code map -/

/-- An id below the length is an index. -/
theorem entry_natCast {table : List α} {index : Nat} (h : index < table.length) :
    entry table index = .ok table[index] := by
  have hindex : ¬ (index : Int) < 0 := by omega
  simp [entry, hindex, h]

/-- The tables of a map have its size. -/
@[simp] theorem size_ofMap (map : CodeMap) : (ofMap map).size = map.size := by
  simp [size, ofMap, CodeMap.size]

/-- The tables of a map have its names. -/
@[simp] theorem names_ofMap (map : CodeMap) : (ofMap map).names = map.names := by
  have hfiles : map.files.zipIdx.map Prod.fst = map.files := List.zipIdx_map_fst 0 map.files
  calc (ofMap map).names
    _ = map.files.zipIdx.map (SourceFile.name ∘ Prod.fst) := List.map_map
    _ = map.names := by rw [← List.map_map, hfiles, CodeMap.names]

/-- A name in a table of numbered files has the number of the first file of that name. -/
theorem get?_zipIdx (name : String) (files : List SourceFile) (start : Nat) :
    Fields.get? name ((files.zipIdx start).map fun (file, id) => (file.name, id)) =
      (files.findIdx? (·.name = name)).map (· + start) := by
  induction files generalizing start with
  | nil => rfl
  | cons file rest ih =>
      simp only [List.zipIdx_cons, List.map_cons, Fields.get?_cons, ih, List.findIdx?_cons]
      by_cases h : name = file.name
      · simp [h]
      · simp [h, Ne.symm h, Option.map_map, Function.comp_def, Nat.add_assoc, Nat.add_comm 1]

/-! ## Looking up -/

/-- The tables of a map give a name the id it has in the map. -/
theorem idOf?_ofMap (map : CodeMap) (name : String) :
    (ofMap map).idOf? name = map.idOf? name := by
  simpa [idOf?, ofMap, CodeMap.idOf?] using get?_zipIdx name map.files 0

/-- A valid id has a file, which stands at its place in every table. Other ids have none. -/
theorem read_ofMap (map : CodeMap) (id : Int) :
    (∃ file, map.file? id = some file ∧ (ofMap map).isValid id = true ∧
        entry (ofMap map).contexts id = .ok file.context ∧
        entry (ofMap map).lineStarts id = .ok file.lineStarts) ∨
      map.file? id = none ∧ (ofMap map).isValid id = false := by
  by_cases h : 0 ≤ id ∧ id < map.size
  · obtain ⟨place, rfl⟩ := Int.eq_ofNat_of_zero_le h.1
    have hplace : place < map.files.length := by
      simpa [CodeMap.size] using h.2
    have hfile : map.file? place = some map.files[place] := by
      simp [CodeMap.file?, hplace]
    refine .inl ⟨map.files[place], hfile, by simpa [isValid] using h.2, ?_, ?_⟩
    · simp [entry_natCast, ofMap, hplace]
    · simp [entry_natCast, ofMap, hplace]
  · refine .inr ⟨CodeMap.file?_eq_none_iff.2 (by omega), ?_⟩
    rw [← Bool.not_eq_true]
    simpa [isValid] using h

/-- The tables of a map give an id the name it has in the map. -/
theorem name?_ofMap (map : CodeMap) (id : Int) : (ofMap map).name? id = .ok (map.name? id) := by
  obtain ⟨file, hfile, hvalid, hcontext, -⟩ | ⟨hfile, hvalid⟩ := read_ofMap map id
  · simp [name?, hvalid, hcontext, CodeMap.name?, hfile, SourceFile.context, SourceContext.whole]
  · simp [name?, hvalid, CodeMap.name?, hfile]

/-- The tables of a map give an id the context it has in the map. -/
theorem context?_ofMap (map : CodeMap) (id : Int) :
    (ofMap map).context? id = .ok (map.context? id) := by
  obtain ⟨file, hfile, hvalid, hcontext, -⟩ | ⟨hfile, hvalid⟩ := read_ofMap map id
  · simp [context?, hvalid, hcontext, CodeMap.context?, hfile]
  · simp [context?, hvalid, CodeMap.context?, hfile]

/-- The tables of a map give an id the line starts it has in the map. -/
theorem lineStarts?_ofMap (map : CodeMap) (id : Int) :
    (ofMap map).lineStarts? id = .ok (map.lineStarts? id) := by
  obtain ⟨file, hfile, hvalid, -, hstarts⟩ | ⟨hfile, hvalid⟩ := read_ofMap map id
  · simp [lineStarts?, hvalid, hstarts, CodeMap.lineStarts?, hfile]
  · simp [lineStarts?, hvalid, CodeMap.lineStarts?, hfile]

/-- The tables of a map give an id the text of its context. -/
theorem source?_ofMap (map : CodeMap) (id : Int) :
    (ofMap map).source? id = .ok ((map.context? id).map (·.contents)) := by
  rw [source?, context?_ofMap]
  rfl

/-- The tables of a map put an offset on the line it has in the file. -/
theorem lineIndex?_ofMap (map : CodeMap) (id offset : Int) :
    (ofMap map).lineIndex? id offset = .ok ((map.file? id).bind (·.lineIndex? offset)) := by
  simp only [lineIndex?, lineStarts?_ofMap, CodeMap.lineStarts?, bind, Except.bind]
  cases map.file? id with
  | none => rfl
  | some file =>
      have hfile : file.linePlace offset = linePlace file.lineStarts offset := rfl
      simp only [Option.map_some, Option.bind_some, SourceFile.lineIndex?, hfile]
      -- The place is an index of the table, or its length.
      by_cases hplace : linePlace file.lineStarts offset < file.lineStarts.length
      · simp [hplace, entry_natCast hplace]
        rfl
      · simp [hplace]
        rfl

/-- The tables of a map give a line the range it has in the map. -/
theorem lineRange?_ofMap (map : CodeMap) (id line : Int) :
    (ofMap map).lineRange? id line = .ok (map.lineRange? id line) := by
  obtain ⟨file, hfile, hvalid, hcontext, hstarts⟩ | ⟨hfile, hvalid⟩ := read_ofMap map id
  · simp only [lineRange?, hvalid, if_true, hstarts, CodeMap.lineRange?, hfile, Option.bind_some,
      bind, Except.bind]
    by_cases hline : 1 ≤ line ∧ line ≤ file.lineStarts.length
    · obtain ⟨index, rfl⟩ : ∃ index : Nat, line = (index + 1 : Int) := ⟨(line - 1).toNat, by omega⟩
      have hindex : index < file.lineStarts.length := by omega
      rw [if_pos hline, SourceFile.lineRange?_succ, List.getElem?_eq_getElem hindex,
        Int.add_sub_cancel, entry_natCast hindex]
      -- The line ends where the next one starts, and the last line with the text.
      by_cases hnext : index + 1 < file.lineStarts.length
      · have hentry : entry file.lineStarts (index + 1 : Int) = .ok file.lineStarts[index + 1] :=
          entry_natCast hnext
        have hlast : (index + 1 : Int) < file.lineStarts.length := by omega
        simp only [if_pos hlast, hentry, List.getElem?_eq_getElem hnext]
        rfl
      · have hlast : ¬ (index + 1 : Int) < file.lineStarts.length := by omega
        simp only [if_neg hlast, hcontext, List.getElem?_eq_none (Nat.le_of_not_lt hnext)]
        rfl
    · rw [if_neg hline, SourceFile.lineRange?_eq_none hline]
      rfl
  · rw [lineRange?, if_neg (by simp [hvalid]), CodeMap.lineRange?, hfile]
    rfl

/-! ## Adding -/

/-- A file with a known name is refused; another one gets the next id in all three tables. -/
theorem run_add (file : SourceFile) (tables : CodeTables) :
    (add file).run tables =
      if (tables.idOf? file.name).isSome then (.error ⟨file.name⟩, tables)
      else (.ok tables.size,
        { ids := Fields.set file.name tables.size tables.ids
          contexts := tables.contexts ++ [file.context]
          lineStarts := tables.lineStarts ++ [file.lineStarts] }) := by
  by_cases h : (tables.idOf? file.name).isSome
  · simp [add, h]
    rfl
  · simp [add, h]
    rfl

/-- Adding no files changes nothing. -/
theorem run_addAll_nil (tables : CodeTables) : (addAll []).run tables = ([], tables) := rfl

/-- Files are added one after the other, whatever becomes of the first. -/
theorem run_addAll_cons (file : SourceFile) (rest : List SourceFile) (tables : CodeTables) :
    (addAll (file :: rest)).run tables =
      (((add file).run tables).1 :: ((addAll rest).run ((add file).run tables).2).1,
        ((addAll rest).run ((add file).run tables).2).2) := rfl

/-- A file is added to the tables of a code map, or refused, as to the code map itself. -/
theorem run_add_ofMap (map : CodeMap) (file : SourceFile) :
    (add file).run (ofMap map) =
      if file.name ∈ map.names then (.error ⟨file.name⟩, ofMap map)
      else (.ok map.size, ofMap (map.register file)) := by
  rw [run_add, idOf?_ofMap, size_ofMap]
  by_cases h : file.name ∈ map.names
  · have hid : (map.idOf? file.name).isSome := by
      rw [Option.isSome_iff_ne_none]
      exact fun hnone => CodeMap.idOf?_eq_none_iff.1 hnone h
    rw [if_pos hid, if_pos h]
  · have hid : ¬ (map.idOf? file.name).isSome := by
      simp [CodeMap.idOf?_eq_none_iff, h]
    have hnew : file.name ∉ (ofMap map).ids.map (·.1) := by
      rw [← names, names_ofMap]
      exact h
    rw [if_neg hid, if_neg h, Fields.set_of_notMem hnew]
    simp [ofMap, CodeMap.files_register_of_notMem h, CodeMap.size, List.zipIdx_append]

/-- The files that were added, going by the answers to the calls. -/
def added (calls : List SourceFile) (answers : List (Except DuplicateFile Nat)) :
    List SourceFile :=
  ((calls.zip answers).filter (·.2.isOk)).map (·.1)

/-- Tables of a code map stay the tables of one, which gets the files that are added. Their ids go
on from the number of files. -/
theorem run_addAll_ofMap (calls : List SourceFile) (map : CodeMap) :
    let run := (addAll calls).run (ofMap map)
    let after := calls.foldl CodeMap.register map
    run.2 = ofMap after ∧ after.files = map.files ++ added calls run.1 ∧
      List.range after.size = List.range map.size ++ run.1.filterMap Except.toOption := by
  induction calls generalizing map with
  | nil => simp [run_addAll_nil, added]
  | cons file rest ih =>
      obtain ⟨htables, hfiles, hids⟩ := ih (map.register file)
      simp only [run_addAll_cons, run_add_ofMap, List.foldl_cons]
      by_cases h : file.name ∈ map.names
      · simp only [if_pos h, CodeMap.register_of_mem h] at htables hfiles hids ⊢
        exact ⟨htables, hfiles, hids⟩
      · simp only [if_neg h, htables, hfiles, hids, true_and]
        simp [added, Except.isOk, Except.toBool, Except.toOption, CodeMap.size,
          CodeMap.files_register_of_notMem h, List.range_succ]

/-! ## Consistency -/

/-- Ids and names lead to each other, and no other id or name is known. -/
structure Consistent (tables : CodeTables) : Prop where
  idOf?_of_mem : ∀ name ∈ tables.names, ∃ id : Nat,
    tables.idOf? name = some id ∧ tables.name? id = .ok (some name)
  name?_of_lt : ∀ id : Nat, id < tables.size → ∃ name,
    tables.name? id = .ok (some name) ∧ tables.idOf? name = some id ∧
      tables.names[id]? = some name
  unknown_name : ∀ name ∉ tables.names, tables.idOf? name = none
  unknown_id : ∀ id : Int, id < 0 ∨ tables.size ≤ id →
    tables.name? id = .ok none ∧ tables.context? id = .ok none ∧
      tables.lineStarts? id = .ok none ∧ ∀ line, tables.lineRange? id line = .ok none

/-- The tables of a map are consistent. -/
theorem consistent_ofMap (map : CodeMap) : (ofMap map).Consistent where
  idOf?_of_mem := by
    intro name hname
    rw [names_ofMap] at hname
    obtain ⟨file, hfile, rfl⟩ := List.mem_map.1 hname
    obtain ⟨id, hid, -⟩ := CodeMap.exists_idOf?_eq hfile
    exact ⟨id, by rw [idOf?_ofMap, hid], by rw [name?_ofMap, CodeMap.idOf?_eq_some_iff.1 hid]⟩
  name?_of_lt := by
    intro id hid
    have hlt : id < map.names.length := by
      simpa [CodeMap.names, CodeMap.size] using hid
    have hname : map.name? id = some map.names[id] := by
      rw [CodeMap.name?_natCast, List.getElem?_eq_getElem hlt]
    refine ⟨map.names[id], by rw [name?_ofMap, hname], ?_, ?_⟩
    · rw [idOf?_ofMap, CodeMap.idOf?_eq_some_iff, hname]
    · rw [names_ofMap, List.getElem?_eq_getElem hlt]
  unknown_name := by
    intro name hname
    rw [names_ofMap] at hname
    rw [idOf?_ofMap, CodeMap.idOf?_eq_none_iff]
    exact hname
  unknown_id := by
    intro id hid
    rw [size_ofMap] at hid
    have hfile := CodeMap.file?_eq_none_iff.2 hid
    simp [name?_ofMap, context?_ofMap, lineStarts?_ofMap, lineRange?_ofMap, CodeMap.name?,
      CodeMap.context?, CodeMap.lineStarts?, CodeMap.lineRange?, hfile]

/-- The tables have a file under an id: its name, its text and the starts of its lines. -/
structure Has (tables : CodeTables) (id : Nat) (file : SourceFile) : Prop where
  name? : tables.name? id = .ok (some file.name)
  context? : tables.context? id = .ok (some file.context)
  lineStarts? : tables.lineStarts? id = .ok (some file.lineStarts)
  lineRange? : ∀ line, tables.lineRange? id line = .ok (file.lineRange? line)

/-- The tables of a map have a file under an id exactly if the map has. -/
theorem has_ofMap_iff {id : Nat} : (ofMap map).Has id file ↔ map.files[id]? = some file := by
  have hfile? : map.file? id = map.files[id]? := by
    rw [CodeMap.file?, if_neg (by omega), Int.toNat_natCast]
  constructor
  · intro h
    have hcontext := h.context?
    rw [context?_ofMap, Except.ok.injEq, CodeMap.context?, hfile?, Option.map_eq_some_iff]
      at hcontext
    obtain ⟨found, hfound, hcontext⟩ := hcontext
    rw [hfound, SourceFile.eq_of_context_eq hcontext]
  · intro h
    rw [← hfile?] at h
    constructor
    · simp [name?_ofMap, CodeMap.name?, h]
    · simp [context?_ofMap, CodeMap.context?, h]
    · simp [lineStarts?_ofMap, CodeMap.lineStarts?, h]
    · simp [lineRange?_ofMap, CodeMap.lineRange?, h]

/-- The look-ups in the tables are those in a code map. -/
structure AnswersAs (tables : CodeTables) (map : CodeMap) : Prop where
  names : tables.names = map.names
  idOf? : ∀ name, tables.idOf? name = map.idOf? name
  name? : ∀ id, tables.name? id = .ok (map.name? id)
  context? : ∀ id, tables.context? id = .ok (map.context? id)
  lineStarts? : ∀ id, tables.lineStarts? id = .ok (map.lineStarts? id)
  lineRange? : ∀ id line, tables.lineRange? id line = .ok (map.lineRange? id line)

/-- The tables of a map answer as the map does. -/
theorem answersAs_ofMap (map : CodeMap) : (ofMap map).AnswersAs map where
  names := names_ofMap map
  idOf? := idOf?_ofMap map
  name? := name?_ofMap map
  context? := context?_ofMap map
  lineStarts? := lineStarts?_ofMap map
  lineRange? := lineRange?_ofMap map

/-- After any calls that add files, some of them refused, ids and names agree. The ids are the
numbers before the number of files, in the order of the files that were added. A further file is
refused exactly if its name is there, and then nothing changes; any other one is added under the
next id. No further calls change what is known of a file. The code map that refuses and takes the
same files has the same look-ups. -/
theorem addAll_consistent (calls : List SourceFile) :
    let run := (addAll calls).run {}
    let tables := run.2
    let files := added calls run.1
    (run.1.filterMap Except.toOption = List.range tables.size ∧
        tables.names = files.map SourceFile.name ∧
        ∀ (id : Nat) file, files[id]? = some file → tables.Has id file) ∧
      tables.Consistent ∧
      (∀ file, file.name ∈ tables.names →
        (add file).run tables = (.error ⟨file.name⟩, tables)) ∧
      (∀ file, file.name ∉ tables.names →
        ∃ after, (add file).run tables = (.ok tables.size, after) ∧ after.Has tables.size file) ∧
      (∀ more (id : Nat) file, tables.Has id file → ((addAll more).run tables).2.Has id file) ∧
      tables.AnswersAs (calls.foldl CodeMap.register {}) := by
  intro run tables files
  obtain ⟨htables, hfiles, hids⟩ := run_addAll_ofMap calls {}
  -- No calls leave the empty tables, which are those of the empty code map.
  generalize hmap : calls.foldl CodeMap.register {} = map at htables hfiles hids ⊢
  have htables : tables = ofMap map := htables
  have hfiles : map.files = files := hfiles
  have hids : List.range map.size = run.1.filterMap Except.toOption := hids
  rw [htables]
  refine ⟨⟨?_, ?_, fun id file hfile => ?_⟩, consistent_ofMap map, fun file hfile => ?_,
    fun file hfile => ?_, fun more id file hfile => ?_, answersAs_ofMap map⟩
  · rw [size_ofMap, hids]
  · rw [names_ofMap, CodeMap.names, hfiles]
  · rwa [has_ofMap_iff, hfiles]
  · rw [names_ofMap] at hfile
    rw [run_add_ofMap, if_pos hfile]
  · rw [names_ofMap] at hfile
    refine ⟨ofMap (map.register file), by rw [run_add_ofMap, if_neg hfile, size_ofMap], ?_⟩
    rw [size_ofMap, has_ofMap_iff, CodeMap.files_register_of_notMem hfile]
    simp [CodeMap.size]
  · obtain ⟨hmore, hmoreFiles, -⟩ := run_addAll_ofMap more map
    rw [has_ofMap_iff] at hfile
    obtain ⟨hlt, -⟩ := List.getElem?_eq_some_iff.1 hfile
    rw [hmore, has_ofMap_iff, hmoreFiles, List.getElem?_append_left hlt, hfile]

end CodeTables

end StoryLint
