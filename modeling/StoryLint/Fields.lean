/-!
# Named values in order

Fields are named values in the order in which the names first appeared. Setting a name that is
there keeps its place and changes its value. `distinct` makes fields of any list of pairs.
-/

namespace StoryLint.Fields

variable {α : Type}

/-- Set a field: a name that is there keeps its place, a new one comes last. -/
def set (name : String) (value : α) : List (String × α) → List (String × α)
  | [] => [(name, value)]
  | field :: rest =>
      if field.1 = name then (name, value) :: rest else field :: set name value rest

/-- Fields with each name once: at its first place, with its last value. -/
def distinct (pairs : List (String × α)) : List (String × α) :=
  pairs.foldl (fun fields pair => set pair.1 pair.2 fields) []

/-- The value of a field. -/
def get? (name : String) (fields : List (String × α)) : Option α :=
  fields.lookup name

/-- Setting a field adds its name if it is new, and leaves the names alone otherwise. -/
theorem names_set (name : String) (value : α) (fields : List (String × α)) :
    (set name value fields).map (·.1) =
      if name ∈ fields.map (·.1) then fields.map (·.1) else fields.map (·.1) ++ [name] := by
  induction fields with
  | nil => simp [set]
  | cons field rest ih =>
      by_cases h : field.1 = name
      · simp [set, h]
      · simp only [set, h, if_false, List.map_cons, ih, List.mem_cons, Ne.symm h, false_or]
        split <;> simp

/-- Setting a field repeats no name. -/
theorem nodup_names_set {name : String} {value : α} {fields : List (String × α)}
    (h : (fields.map (·.1)).Nodup) : ((set name value fields).map (·.1)).Nodup := by
  rw [names_set]
  split
  · exact h
  · rename_i hname
    rw [List.nodup_append]
    refine ⟨h, by simp, ?_⟩
    intro a ha b hb hab
    exact hname (by simp only [List.mem_singleton] at hb; rw [← hb, ← hab]; exact ha)

/-- Setting fields one after the other repeats no name. -/
theorem nodup_names_foldl_set {pairs fields : List (String × α)}
    (h : (fields.map (·.1)).Nodup) :
    ((pairs.foldl (fun fields pair => set pair.1 pair.2 fields) fields).map (·.1)).Nodup := by
  induction pairs generalizing fields with
  | nil => exact h
  | cons pair rest ih => exact ih (nodup_names_set h)

/-- The names of distinct fields are distinct. -/
theorem nodup_names_distinct (pairs : List (String × α)) :
    ((distinct pairs).map (·.1)).Nodup :=
  nodup_names_foldl_set (by simp)

end StoryLint.Fields
