import StoryLint.Proofs.Source.Line

/-!
# The lines of a text

`IsLine text before body after` takes a text apart around one of its lines, without any table.
Newlines in front of an offset count its line (`lineOf`), so a line is found by the characters
before it. `SourceFile.exists_isLine` is the main statement: every entry of the table of line
starts is the start of such a line, and the range of the line ends behind its newline.
-/

namespace StoryLint

/-- The index of the line of an offset: the number of newlines in front of it. -/
def lineOf (text : List Char) (offset : Nat) : Nat :=
  (text.take offset).count '\n'

/-- A later offset is on no earlier line. -/
theorem lineOf_mono (text : List Char) {offset other : Nat} (h : offset ≤ other) :
    lineOf text offset ≤ lineOf text other :=
  (List.take_sublist_take_left h).count_le _

/-- The characters in a range of a text. -/
def slice (text : List Char) (range : Nat × Nat) : List Char :=
  (text.drop range.1).take (range.2 - range.1)

/-- A text around one of its lines: what is in front of the line, its characters up to its
newline or the end of the text, and what follows from there. -/
structure IsLine (text before body after : List Char) : Prop where
  text_eq : text = before ++ (body ++ after)
  before_eq : before = [] ∨ before.getLast? = some '\n'
  newline_notMem : '\n' ∉ body
  after_eq : after = [] ∨ after.head? = some '\n'

namespace IsLine

variable {text before body after : List Char}

/-- The characters of a line and the end of the line belong to it. -/
theorem lineOf_add (h : IsLine text before body after) {column : Nat}
    (hcolumn : column ≤ body.length) :
    lineOf text (before.length + column) = before.count '\n' := by
  have hbody : (body.take column).count '\n' = 0 :=
    List.count_eq_zero.2 fun hmem => h.newline_notMem (List.mem_of_mem_take hmem)
  rw [lineOf, h.text_eq, List.take_length_add_append, List.take_append_of_le_length hcolumn,
    List.count_append, hbody, Nat.add_zero]

/-- What is in front of a line belongs to earlier lines. -/
theorem lineOf_lt (h : IsLine text before body after) {offset : Nat}
    (hoffset : offset < before.length) : lineOf text offset < before.count '\n' := by
  rcases h.before_eq with rfl | hlast
  · exact absurd hoffset (Nat.not_lt_zero _)
  · obtain ⟨front, rfl⟩ : ∃ front, before = front ++ ['\n'] :=
      List.getLast?_eq_some_iff.1 hlast
    rw [List.length_append, List.length_singleton] at hoffset
    have hle : (front.take offset).count '\n' ≤ front.count '\n' :=
      (List.take_sublist _ _).count_le _
    rw [lineOf, h.text_eq, List.append_assoc,
      List.take_append_of_le_length (Nat.le_of_lt_succ hoffset), List.count_append,
      List.count_singleton_self]
    omega

/-- A line as its range shows it, with the newline that ends it. -/
theorem slice_eq (h : IsLine text before body after) :
    slice text (before.length, before.length + body.length + (after.take 1).length) =
      body ++ after.take 1 := by
  have hlength : before.length + body.length + (after.take 1).length - before.length =
      (body ++ after.take 1).length := by
    rw [List.length_append]
    omega
  have htext : body ++ after = (body ++ after.take 1) ++ after.drop 1 := by
    rw [List.append_assoc, List.take_append_drop]
  rw [slice, hlength, h.text_eq, List.drop_left, htext, List.take_left]

/-- A line stays one behind a further character, which must end a line if the text started with
this one. -/
theorem cons (h : IsLine text before body after) {c : Char} (hc : before = [] → c = '\n') :
    IsLine (c :: text) (c :: before) body after where
  text_eq := by rw [h.text_eq, List.cons_append]
  before_eq := by
    right
    rcases h.before_eq with rfl | hlast
    · rw [hc rfl]
      rfl
    · rw [List.getLast?_cons, hlast]
      rfl
  newline_notMem := h.newline_notMem
  after_eq := h.after_eq

end IsLine

namespace SourceFile

variable {file : SourceFile} {text : List Char} {base index start : Nat}

/-- The entries of a table of line starts, the text starting at `base`, are the starts of lines.
The next entry is behind the newline of the line, and there is none for the last line. -/
theorem exists_isLine_from (h : (base :: startsFrom base text)[index]? = some start) :
    ∃ before body after, IsLine text before body after ∧ before.count '\n' = index ∧
      start = base + before.length ∧
      (base :: startsFrom base text)[index + 1]? =
        if after = [] then none else some (start + body.length + 1) := by
  induction text generalizing base index start with
  | nil =>
      obtain rfl : index = 0 := by
        have := (List.getElem?_eq_some_iff.1 h).1
        simpa [startsFrom] using this
      obtain rfl : base = start := by simpa using h
      exact ⟨[], [], [], ⟨rfl, .inl rfl, List.not_mem_nil, .inl rfl⟩, rfl, rfl, rfl⟩
  | cons c rest ih =>
      by_cases hc : c = '\n'
      · subst hc
        simp only [startsFrom, if_true] at h ⊢
        cases index with
        | zero =>
            -- The newline itself is the whole line.
            obtain rfl : base = start := by simpa using h
            exact ⟨[], [], '\n' :: rest, ⟨rfl, .inl rfl, List.not_mem_nil, .inr rfl⟩, rfl, rfl, rfl⟩
        | succ index =>
            rw [List.getElem?_cons_succ] at h
            obtain ⟨before, body, after, hline, hcount, hstart, hnext⟩ := ih h
            refine ⟨'\n' :: before, body, after, hline.cons fun _ => rfl, ?_, ?_, ?_⟩
            · rw [List.count_cons_self, hcount]
            · rw [List.length_cons, hstart]
              omega
            · rw [List.getElem?_cons_succ, hnext]
      · simp only [startsFrom, if_neg hc] at h ⊢
        cases index with
        | zero =>
            -- The first line of the rest gets one character more.
            obtain rfl : base = start := by simpa using h
            have hfirst : ((base + 1) :: startsFrom (base + 1) rest)[0]? = some (base + 1) := rfl
            obtain ⟨before, body, after, hline, hcount, hstart, hnext⟩ := ih hfirst
            obtain rfl : before = [] := List.eq_nil_of_length_eq_zero (by omega)
            refine ⟨[], c :: body, after, ⟨?_, .inl rfl, ?_, hline.after_eq⟩, rfl, rfl, ?_⟩
            · rw [hline.text_eq]
              rfl
            · rw [List.mem_cons, not_or]
              exact ⟨Ne.symm hc, hline.newline_notMem⟩
            · rw [List.getElem?_cons_succ] at hnext ⊢
              rw [hnext, List.length_cons, Nat.add_right_comm base, Nat.add_assoc base]
        | succ index =>
            have hlater :
                ((base + 1) :: startsFrom (base + 1) rest)[index + 1]? = some start := h
            obtain ⟨before, body, after, hline, hcount, hstart, hnext⟩ := ih hlater
            have hbefore : before ≠ [] := by
              rintro rfl
              exact absurd hcount (Nat.succ_ne_zero index).symm
            refine ⟨c :: before, body, after, hline.cons fun hnil => absurd hnil hbefore, ?_, ?_,
              hnext⟩
            · rw [List.count_cons_of_ne hc, hcount]
            · rw [List.length_cons, hstart]
              omega

/-- Every line that the table knows is a line of the text, and its range ends behind its newline. -/
theorem exists_isLine {stop : Nat} (h : file.lineRange? (index + 1 : Int) = some (start, stop)) :
    ∃ before body after, IsLine file.text.toList before body after ∧
      before.count '\n' = index ∧ before.length = start ∧
      stop = start + body.length + (after.take 1).length := by
  rw [lineRange?_succ, Option.map_eq_some_iff] at h
  obtain ⟨found, hfound, hrange⟩ := h
  obtain ⟨rfl, rfl⟩ := Prod.mk.inj hrange
  obtain ⟨before, body, after, hline, hcount, hstart, hnext⟩ := exists_isLine_from hfound
  refine ⟨before, body, after, hline, hcount, by omega, ?_⟩
  rw [lineStarts, hnext]
  cases after with
  | nil =>
      have hlength : file.text.length = before.length + body.length := by
        rw [← String.length_toList, hline.text_eq, List.append_nil, List.length_append]
      simp [hlength, hstart]
  | cons c rest => simp

end SourceFile

end StoryLint
