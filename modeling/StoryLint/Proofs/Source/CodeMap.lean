import StoryLint.Source.StoryFiles
import Mathlib.Data.List.Nodup

/-!
# Looking up files

No two files of a code map have one name, so a name determines a file, its text and its id. The
text of a context can therefore be found again from its file name, if the context lies in the
code map. Ids and names are found from each other (`CodeMap.idOf?_eq_some_iff`).
-/

namespace StoryLint

/-- A context lies in the files of a code map: if it names a file, the map has that file, with
the context's text. -/
def SourceContext.InMap (map : CodeMap) (c : SourceContext) : Prop :=
  ∀ name, c.fileName = some name → ⟨name, c.text⟩ ∈ map.files

namespace CodeMap

variable {map : CodeMap} {name text : String} {file : SourceFile}

/-- Files of one name are one file. -/
theorem eq_of_name_eq {other : SourceFile} (hfile : file ∈ map.files)
    (hother : other ∈ map.files) (h : file.name = other.name) : file = other :=
  List.inj_on_of_nodup_map map.names_nodup hfile hother h

/-- The file that is found under a name is the only one of that name. -/
theorem find?_eq_some_iff :
    map.files.find? (·.name = name) = some file ↔ file ∈ map.files ∧ file.name = name := by
  constructor
  · intro h
    exact ⟨List.mem_of_find?_eq_some h, by simpa using List.find?_some h⟩
  · rintro ⟨hfile, rfl⟩
    cases hfound : map.files.find? (·.name = file.name) with
    | none => simpa using List.find?_eq_none.1 hfound file hfile
    | some found =>
        have hname : found.name = file.name := by simpa using List.find?_some hfound
        rw [eq_of_name_eq (List.mem_of_find?_eq_some hfound) hfile hname]

/-- The text of a name is that of the file with that name. -/
theorem text?_eq_some_iff : map.text? name = some text ↔ ⟨name, text⟩ ∈ map.files := by
  simp only [text?, Option.map_eq_some_iff, find?_eq_some_iff]
  constructor
  · rintro ⟨file, ⟨hfile, rfl⟩, rfl⟩
    exact hfile
  · intro h
    exact ⟨_, ⟨h, rfl⟩, rfl⟩

/-- A file with an id is a file of the map. -/
theorem mem_of_file? {id : Int} (h : map.file? id = some file) : file ∈ map.files := by
  unfold file? at h
  split at h
  · cases h
  · exact List.mem_of_getElem? h

/-- Every file has an id, which leads back to it. -/
theorem exists_idOf?_eq (hfile : file ∈ map.files) :
    ∃ id : Nat, map.idOf? file.name = some id ∧ map.file? id = some file := by
  cases hid : map.idOf? file.name with
  | none =>
      rw [idOf?, List.findIdx?_eq_none_iff] at hid
      simpa using hid file hfile
  | some id =>
      refine ⟨id, rfl, ?_⟩
      rw [idOf?, List.findIdx?_eq_some_iff_getElem] at hid
      obtain ⟨hlt, hname, -⟩ := hid
      have heq : map.files[id] = file :=
        eq_of_name_eq (List.getElem_mem hlt) hfile (by simpa using hname)
      simp [file?, hlt, heq]

/-- No other number is an id than those before the number of files. -/
theorem file?_eq_none_iff {id : Int} : map.file? id = none ↔ id < 0 ∨ map.size ≤ id := by
  rw [file?, size]
  split
  · exact iff_of_true rfl (.inl ‹_›)
  · rw [List.getElem?_eq_none_iff]
    omega

/-- The name of an id is the one at that index. -/
theorem name?_natCast (map : CodeMap) (id : Nat) : map.name? id = map.names[id]? := by
  have hid : ¬ (id : Int) < 0 := by omega
  simp [name?, file?, names, hid]

/-- A name without an id is the name of no file. -/
theorem idOf?_eq_none_iff : map.idOf? name = none ↔ name ∉ map.names := by
  simp [idOf?, names, List.findIdx?_eq_none_iff]

/-- A name has an id exactly if the id has the name. -/
theorem idOf?_eq_some_iff {id : Nat} : map.idOf? name = some id ↔ map.name? id = some name := by
  have hname : ∀ found, map.idOf? name = some found → map.names[found]? = some name := by
    intro found hfound
    rw [idOf?, List.findIdx?_eq_some_iff_getElem] at hfound
    obtain ⟨hlt, hname, -⟩ := hfound
    simpa [names, hlt] using hname
  rw [name?_natCast]
  constructor
  · exact hname id
  · intro h
    cases hfound : map.idOf? name with
    | none => exact absurd (List.mem_of_getElem? h) (idOf?_eq_none_iff.1 hfound)
    | some found =>
        -- Both ids have the name, and no two files have one name.
        obtain ⟨hlt, -⟩ := List.getElem?_eq_some_iff.1 h
        rw [(List.getElem?_inj hlt map.names_nodup).1 (h.trans (hname found hfound).symm)]

end CodeMap

end StoryLint
