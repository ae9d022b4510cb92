import StoryLint.Fields
import StoryLint.Proofs.Order.FirstOccurrence
import Mathlib.Data.List.Nodup

/-!
# Fields as a map in order

Two questions determine fields: which names there are, in their order, and what each one's value
is. `names_distinct` and `get?_distinct` answer both for the fields that a list of pairs makes,
`distinct_eq` puts the answers together.
-/

namespace StoryLint.Fields

variable {α : Type} {name : String} {value : α} {fields pairs : List (String × α)}

/-- The first field of a name is the one that is looked up. -/
theorem get?_cons (field : String × α) (rest : List (String × α)) :
    get? name (field :: rest) = if name = field.1 then some field.2 else get? name rest := by
  rw [get?, List.lookup_cons]
  by_cases h : name = field.1
  · simp [h]
  · simp [get?, beq_eq_false_iff_ne.2 h, h]

/-- Of the fields with certain names, each keeps its value. -/
theorem get?_filter_names (keeps : String → Bool) (fields : List (String × α)) :
    get? name (fields.filter fun field => keeps field.1) =
      if keeps name then get? name fields else none := by
  induction fields with
  | nil => simp [get?]
  | cons field rest ih =>
      by_cases hname : name = field.1
      · subst hname
        by_cases hkeeps : keeps field.1 <;> simp [hkeeps, get?_cons, ih]
      · by_cases hkeeps : keeps field.1 <;> simp [hkeeps, get?_cons, ih, hname]

/-- Values may be changed depending on their names. -/
theorem get?_map_values {β : Type} (change : String → α → β) (fields : List (String × α)) :
    get? name (fields.map fun field => (field.1, change field.1 field.2)) =
      (get? name fields).map (change name) := by
  induction fields with
  | nil => rfl
  | cons field rest ih =>
      rw [List.map_cons, get?_cons, get?_cons, ih]
      split
      · rename_i hname
        rw [hname]
        rfl
      · rfl

/-- A field that is looked up is there. -/
theorem mem_of_get? (h : get? name fields = some value) : (name, value) ∈ fields := by
  induction fields with
  | nil => cases h
  | cons field rest ih =>
      rw [get?_cons] at h
      split at h
      · rename_i hname
        obtain rfl := Option.some.inj h
        subst hname
        exact List.mem_cons_self
      · exact List.mem_cons_of_mem _ (ih h)

/-- Setting a field changes the value of its name only. -/
theorem get?_set (other : String) :
    get? other (set name value fields) =
      if other = name then some value else get? other fields := by
  induction fields with
  | nil => rw [set, get?_cons]
  | cons field rest ih =>
      by_cases h : field.1 = name
      · simp only [set, h, if_true, get?_cons]
        split <;> rfl
      · by_cases ho : other = field.1
        · simp [set, h, get?_cons, ho]
        · simp [set, h, get?_cons, ho, ih]

/-- A new field goes behind the others. -/
theorem set_of_notMem (h : name ∉ fields.map (·.1)) :
    set name value fields = fields ++ [(name, value)] := by
  induction fields with
  | nil => rfl
  | cons field rest ih =>
      simp only [List.map_cons, List.mem_cons, not_or] at h
      rw [set, if_neg (Ne.symm h.1), ih h.2, List.cons_append]

/-- The last of some pairs is set behind the others. -/
theorem distinct_append (pairs : List (String × α)) (pair : String × α) :
    distinct (pairs ++ [pair]) = set pair.1 pair.2 (distinct pairs) := by
  simp [distinct]

/-- The value of a name is the last one that was given. -/
theorem get?_distinct : get? name (distinct pairs) = get? name pairs.reverse := by
  induction pairs using List.reverseRecOn with
  | nil => rfl
  | append_singleton pairs pair ih =>
      rw [distinct_append, get?_set, ih, List.reverse_append, List.reverse_singleton,
        List.singleton_append, get?_cons]

/-- The names are those of the pairs, in the order in which they first appear. -/
theorem names_distinct : (distinct pairs).map (·.1) = (pairs.map (·.1)).eraseDups := by
  induction pairs using List.reverseRecOn with
  | nil => rfl
  | append_singleton pairs pair ih =>
      rw [distinct_append, names_set, ih, List.map_append, List.map_singleton,
        Order.eraseDups_concat]
      simp only [List.mem_eraseDups]

/-- Fields with distinct names are determined by the names and what is found under them. -/
theorem eq_filterMap_get? (h : (fields.map (·.1)).Nodup) :
    fields = (fields.map (·.1)).filterMap fun name => (get? name fields).map (name, ·) := by
  induction fields with
  | nil => rfl
  | cons field rest ih =>
      obtain ⟨hnew, hrest⟩ := List.nodup_cons.1 h
      -- The first field answers for its own name only, and no later field has that name.
      have hskip : ∀ name ∈ rest.map (·.1),
          (get? name (field :: rest)).map (name, ·) = (get? name rest).map (name, ·) := by
        intro name hname
        have hne : name ≠ field.1 := by
          rintro rfl
          exact hnew hname
        rw [get?_cons, if_neg hne]
      rw [List.map_cons, List.filterMap_cons, get?_cons, if_pos rfl,
        List.filterMap_congr hskip, ← ih hrest]
      rfl

/-- Pairs make these fields: each name once, in the order of first appearance, with the value
that was given last. -/
theorem distinct_eq (pairs : List (String × α)) :
    distinct pairs = (pairs.map (·.1)).eraseDups.filterMap fun name =>
      (get? name pairs.reverse).map (name, ·) := by
  rw [eq_filterMap_get? (nodup_names_distinct pairs), names_distinct]
  simp only [get?_distinct]

/-- Pairs with distinct names are fields already. -/
theorem distinct_of_nodup (h : (fields.map (·.1)).Nodup) : distinct fields = fields := by
  induction fields using List.reverseRecOn with
  | nil => rfl
  | append_singleton fields field ih =>
      rw [List.map_append, List.nodup_append] at h
      obtain ⟨hfields, -, hnew⟩ := h
      rw [distinct_append, ih hfields, set_of_notMem fun hmem => hnew _ hmem _ (by simp) rfl]

/-- Setting a field adds no other one. -/
theorem mem_of_mem_set {field : String × α} (h : field ∈ set name value fields) :
    field = (name, value) ∨ field ∈ fields := by
  induction fields with
  | nil => simpa [set] using h
  | cons first rest ih =>
      rw [set] at h
      split at h
      · exact (List.mem_cons.1 h).imp_right (List.mem_cons_of_mem _)
      · obtain rfl | hrest := List.mem_cons.1 h
        · exact .inr List.mem_cons_self
        · exact (ih hrest).imp_right (List.mem_cons_of_mem _)

/-- Making fields of pairs adds nothing. -/
theorem mem_of_mem_distinct {field : String × α} (h : field ∈ distinct pairs) : field ∈ pairs := by
  induction pairs using List.reverseRecOn with
  | nil => exact h
  | append_singleton pairs pair ih =>
      rw [distinct_append] at h
      obtain rfl | hpairs := mem_of_mem_set h
      · simp
      · exact List.mem_append_left _ (ih hpairs)

end StoryLint.Fields
