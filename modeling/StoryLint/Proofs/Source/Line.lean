import StoryLint.Source.StoryFiles
import StoryLint.Proofs.Order.Search
import Mathlib.Data.List.Induction
import Mathlib.Data.Set.Operations
import Mathlib.Order.Bounds.Defs

/-!
# Lines and positions

A position is counted along the text in front of an offset, a line is looked up in the table of
line starts. `exists_ofOffset_eq` says that the two agree at every offset of a text: the line index
is the number of newlines before the offset, and the column is the distance from the start of the
line.

The table is in ascending order, so halving it finds the last line that starts up to an offset
(`SourceFile.lineIndex?_eq_some_iff`), whether or not a line starts at the offset itself.

The table of a text is the table of what stands before an offset, followed by starts beyond the
offset (`startsFrom_append`). The line of the offset is therefore the last one in the first table,
and the column is found by induction on the text before the offset, from its end.
-/

namespace StoryLint

/-- The number of characters behind the last newline. -/
def columnsOf (before : List Char) : Nat :=
  (before.reverse.takeWhile (· ≠ '\n')).length

/-- No text, no columns. -/
@[simp] theorem columnsOf_nil : columnsOf [] = 0 := rfl

/-- A character is one more column, and a newline starts to count anew. -/
@[simp] theorem columnsOf_concat (before : List Char) (c : Char) :
    columnsOf (before ++ [c]) = if c = '\n' then 0 else columnsOf before + 1 := by
  unfold columnsOf
  split <;> simp_all

/-- The position of an offset by the lines and the columns in front of it. -/
theorem Position.ofOffset_eq_columnsOf (text : List Char) (offset : Nat) :
    ofOffset text offset =
      { line := (text.take offset).count '\n' + 1, column := columnsOf (text.take offset) + 1 } :=
  rfl

namespace SourceFile

variable {file : SourceFile} {before after : List Char} {base start : Nat}

/-- The line starts of two texts, one behind the other. -/
theorem startsFrom_append :
    startsFrom base (before ++ after) =
      startsFrom base before ++ startsFrom (base + before.length) after := by
  induction before generalizing base with
  | nil => rfl
  | cons c rest ih =>
      simp only [List.cons_append, startsFrom, ih, List.length_cons, Nat.add_assoc,
        Nat.add_comm 1]
      split <;> rfl

/-- A newline is followed by a line start. -/
@[simp] theorem startsFrom_singleton (base : Nat) (c : Char) :
    startsFrom base [c] = if c = '\n' then [base + 1] else [] := by
  simp [startsFrom]

/-- Every newline starts one line. -/
theorem length_startsFrom : (startsFrom base before).length = before.count '\n' := by
  induction before generalizing base with
  | nil => rfl
  | cons c rest ih =>
      simp only [startsFrom, List.count_cons]
      split <;> simp_all

/-- A line start lies behind some character of the text. -/
theorem mem_startsFrom_bounds (h : start ∈ startsFrom base before) :
    base < start ∧ start ≤ base + before.length := by
  induction before generalizing base with
  | nil => simp [startsFrom] at h
  | cons c rest ih =>
      have hrest : start ∈ startsFrom (base + 1) rest →
          base < start ∧ start ≤ base + (rest.length + 1) := by
        intro hmem
        have := ih hmem
        omega
      simp only [startsFrom] at h
      split at h
      · obtain rfl | hmem := List.mem_cons.1 h
        · simp only [List.length_cons]
          omega
        · exact hrest hmem
      · exact hrest h

/-- Lines start one after the other. -/
theorem pairwise_startsFrom : (startsFrom base before).Pairwise (· < ·) := by
  induction before generalizing base with
  | nil => exact List.Pairwise.nil
  | cons c rest ih =>
      simp only [startsFrom]
      split
      · exact List.Pairwise.cons (fun start hstart => (mem_startsFrom_bounds hstart).1) ih
      · exact ih

/-- The line starts of a file ascend. -/
theorem pairwise_lineStarts (file : SourceFile) : file.lineStarts.Pairwise (· < ·) :=
  List.Pairwise.cons (fun _ hstart => (mem_startsFrom_bounds hstart).1) pairwise_startsFrom

/-- No line starts behind the end of the text. -/
theorem le_length_of_mem_lineStarts (h : start ∈ file.lineStarts) :
    start ≤ file.text.length := by
  rcases List.mem_cons.1 h with rfl | hstart
  · exact Nat.zero_le _
  · have := (mem_startsFrom_bounds hstart).2
    rwa [Nat.zero_add, String.length_toList] at this

/-- The lines that start up to an offset are those of the text before it. -/
theorem isCut_lineStarts (file : SourceFile) {offset : Nat} (h : offset ≤ file.text.length) :
    Order.IsCut (fun start : Nat => decide ((start : Int) ≤ offset)) file.lineStarts
      ((file.text.toList.take offset).count '\n' + 1) := by
  have hlength : (file.text.toList.take offset).length = offset := by
    rw [List.length_take, String.length_toList, Nat.min_eq_left h]
  have hstarts : file.lineStarts = (0 :: startsFrom 0 (file.text.toList.take offset)) ++
      startsFrom offset (file.text.toList.drop offset) := by
    rw [lineStarts, ← List.take_append_drop offset file.text.toList, startsFrom_append,
      List.take_append_drop, Nat.zero_add, hlength, List.cons_append]
  have hcount : (0 :: startsFrom 0 (file.text.toList.take offset)).length =
      (file.text.toList.take offset).count '\n' + 1 := by
    rw [List.length_cons, length_startsFrom]
  rw [hstarts, ← hcount]
  refine Order.IsCut.of_append (fun start hstart => ?_) (fun start hstart => ?_)
  · rcases List.mem_cons.1 hstart with rfl | hstart
    · simp
    · have := (mem_startsFrom_bounds hstart).2
      rw [hlength] at this
      exact decide_eq_true (by omega)
  · have := (mem_startsFrom_bounds hstart).1
    exact decide_eq_false (by omega)

/-- The last line of a text starts as many characters before the end as the line has. -/
theorem getLastD_startsFrom_add_columnsOf (base : Nat) (before : List Char) :
    (startsFrom base before).getLastD base + columnsOf before = base + before.length := by
  induction before using List.reverseRecOn with
  | nil => rfl
  | append_singleton before c ih =>
      -- A newline moves the last line to the end of the text, any other character is a column more.
      simp only [startsFrom_append, startsFrom_singleton, columnsOf_concat, List.length_append,
        List.length_singleton]
      split
      · rw [List.getLastD_concat]
        omega
      · rw [List.append_nil]
        omega

/-- In a table that goes on, the last line of the text before is found at its index. -/
theorem getElem?_lineStarts_append (base : Nat) (starts starts' : List Nat) :
    (base :: (starts ++ starts'))[starts.length]? = some (starts.getLastD base) := by
  cases starts using List.reverseRecOn with
  | nil => rfl
  | append_singleton starts start => simp

/-- A line goes from its start to the next one, and the last line to the end. -/
theorem lineRange?_succ (file : SourceFile) (index : Nat) :
    file.lineRange? (index + 1 : Int) = file.lineStarts[index]?.map fun start =>
      (start, file.lineStarts[index + 1]?.getD file.text.length) := by
  have hline : ¬ (index + 1 : Int) < 1 := by omega
  have hindex : ((index + 1 : Int) - 1).toNat = index := by omega
  simp only [lineRange?, if_neg hline, hindex]

/-- The lines of a file are numbered from one. -/
theorem lineRange?_eq_none {line : Int} (h : ¬ (1 ≤ line ∧ line ≤ file.lineStarts.length)) :
    file.lineRange? line = none := by
  unfold lineRange?
  split
  · rfl
  · rw [Option.map_eq_none_iff, List.getElem?_eq_none_iff]
    omega

/-! ## The line that holds an offset -/

/-- What holds of a line start and passes to earlier ones holds of some first lines only. -/
theorem exists_isCut_lineStarts (file : SourceFile) {p : Nat → Bool}
    (hp : ∀ start next, start < next → p next = true → p start = true) :
    ∃ count, Order.IsCut p file.lineStarts count :=
  Order.exists_isCut (file.pairwise_lineStarts.imp (hp _ _))

/-- Halving finds the first line that does not start before an offset. -/
theorem isCut_linePlace (file : SourceFile) (offset : Int) :
    Order.IsCut (fun start : Nat => decide ((start : Int) < offset)) file.lineStarts
      (file.linePlace offset) := by
  obtain ⟨place, hplace⟩ := file.exists_isCut_lineStarts
    (p := fun start : Nat => decide ((start : Int) < offset)) fun start next hlt hnext => by
      rw [decide_eq_true_eq] at hnext ⊢
      omega
  have hfound : file.linePlace offset = place :=
    Order.bisectM_eq (m := Id) hplace (Nat.le_refl _) (Nat.zero_le _) hplace.le_length
  rwa [hfound]

/-- The line that holds an offset is the last of those that start up to the offset. -/
theorem lineIndex?_of_isCut {offset : Int} {count : Nat}
    (h : Order.IsCut (fun start : Nat => decide ((start : Int) ≤ offset)) file.lineStarts count) :
    file.lineIndex? offset = if count = 0 then none else some (count - 1) := by
  have hplace := file.isCut_linePlace offset
  simp only [lineIndex?]
  generalize file.linePlace offset = place at hplace
  have hascending := List.pairwise_iff_getElem.1 file.pairwise_lineStarts
  have hle := hplace.le_length
  have hbefore : ∀ i (hi : i < file.lineStarts.length),
      (file.lineStarts[i] : Int) < offset ↔ i < place := by
    simpa only [decide_eq_true_eq] using hplace.holds_iff
  by_cases hhit : ∃ hlt : place < file.lineStarts.length, (file.lineStarts[place] : Int) = offset
  · -- A line starts at the offset: one line more than those that start before it.
    obtain ⟨hlt, hstart⟩ := hhit
    have hcut : Order.IsCut (fun start : Nat => decide ((start : Int) ≤ offset))
        file.lineStarts (place + 1) := by
      refine ⟨hlt, fun i hi => ?_⟩
      rw [decide_eq_true_eq]
      rcases Nat.lt_trichotomy i place with hi' | rfl | hi'
      · have := (hbefore i hi).2 hi'
        omega
      · omega
      · have := hascending place i hlt hi hi'
        omega
    obtain rfl := h.unique hcut
    simp [hlt, hstart]
  · -- No line starts at the offset: the lines that start up to it are those before it.
    have hne : ∀ i (hi : i < file.lineStarts.length), (file.lineStarts[i] : Int) ≠ offset := by
      intro i hi hstart
      have hge : place ≤ i := Nat.le_of_not_lt fun hlt => by
        have := (hbefore i hi).2 hlt
        omega
      rcases Nat.eq_or_lt_of_le hge with rfl | hlt
      · exact hhit ⟨hi, hstart⟩
      · have := hascending place i (by omega) hi hlt
        have := mt (hbefore place (by omega)).1 (Nat.lt_irrefl place)
        omega
    have hcut : Order.IsCut (fun start : Nat => decide ((start : Int) ≤ offset))
        file.lineStarts place := by
      refine ⟨hle, fun i hi => ?_⟩
      rw [decide_eq_true_eq, ← hbefore i hi]
      have := hne i hi
      omega
    obtain rfl := h.unique hcut
    have hmiss : ¬ (file.lineStarts[count]?.any fun start : Nat => (start : Int) = offset) := by
      rw [Option.any_eq_true]
      rintro ⟨start, hstart, hoffset⟩
      obtain ⟨hlt, rfl⟩ := List.getElem?_eq_some_iff.1 hstart
      exact hne count hlt (of_decide_eq_true hoffset)
    rw [if_neg hmiss]

/-- The lines that start up to an offset are the first ones. -/
theorem exists_isCut_upTo (file : SourceFile) (offset : Int) :
    ∃ count, Order.IsCut (fun start : Nat => decide ((start : Int) ≤ offset)) file.lineStarts
      count :=
  file.exists_isCut_lineStarts fun start next hlt hnext => by
    rw [decide_eq_true_eq] at hnext ⊢
    omega

/-- The line that holds an offset is the last line that starts up to it. -/
theorem lineIndex?_eq_some_iff {offset : Int} {index : Nat} :
    file.lineIndex? offset = some index ↔
      IsGreatest
        {i : Nat | ∃ start : Nat, file.lineStarts[i]? = some start ∧ (start : Int) ≤ offset}
        index := by
  obtain ⟨count, hcut⟩ := file.exists_isCut_upTo offset
  have hle := hcut.le_length
  have hmem : ∀ i, (∃ start : Nat, file.lineStarts[i]? = some start ∧ (start : Int) ≤ offset) ↔
      i < count := by
    intro i
    constructor
    · rintro ⟨start, hstart, hoffset⟩
      obtain ⟨hlt, rfl⟩ := List.getElem?_eq_some_iff.1 hstart
      exact (hcut.holds_iff i hlt).1 (decide_eq_true hoffset)
    · intro hlt
      have hi : i < file.lineStarts.length := by omega
      exact ⟨_, List.getElem?_eq_getElem hi, of_decide_eq_true ((hcut.holds_iff i hi).2 hlt)⟩
  rw [lineIndex?_of_isCut hcut]
  simp only [IsGreatest, upperBounds, Set.mem_ofPred_eq, hmem]
  constructor
  · intro h
    split at h
    · cases h
    · cases h
      exact ⟨by omega, fun i hi => by omega⟩
  · rintro ⟨hlt, hgreatest⟩
    have := hgreatest (a := count - 1) (by omega)
    rw [if_neg (by omega), Option.some.injEq]
    omega

/-- An offset behind the end of the text is held by the line of the end. -/
theorem lineIndex?_min (file : SourceFile) (offset : Int) :
    file.lineIndex? (min offset file.text.length) = file.lineIndex? offset := by
  ext index
  rw [lineIndex?_eq_some_iff, lineIndex?_eq_some_iff]
  have hlines : {i : Nat | ∃ start : Nat, file.lineStarts[i]? = some start ∧
      (start : Int) ≤ min offset file.text.length} =
      {i : Nat | ∃ start : Nat, file.lineStarts[i]? = some start ∧ (start : Int) ≤ offset} :=
    Set.ext fun i => exists_congr fun start => and_congr_right fun hstart => by
      have := le_length_of_mem_lineStarts (List.mem_of_getElem? hstart)
      omega
  rw [hlines]

/-- Only an offset in front of the text has no line: the first line starts at zero. -/
theorem lineIndex?_eq_none_iff {offset : Int} : file.lineIndex? offset = none ↔ offset < 0 := by
  obtain ⟨count, hcut⟩ := file.exists_isCut_upTo offset
  have hfirst : (0 : Int) ≤ offset ↔ 0 < count := by
    have hzero := hcut.holds_iff 0 (by simp [lineStarts])
    rwa [decide_eq_true_eq] at hzero
  rw [lineIndex?_of_isCut hcut]
  split
  · exact iff_of_true rfl (by omega)
  · exact iff_of_false (Option.some_ne_none _) (by omega)

/-- Every other offset has one. -/
theorem exists_lineIndex?_eq {offset : Int} (h : 0 ≤ offset) :
    ∃ index, file.lineIndex? offset = some index :=
  Option.ne_none_iff_exists'.1 (mt lineIndex?_eq_none_iff.1 (Int.not_lt.2 h))

/-- The line that holds an offset starts up to the offset. -/
theorem exists_lineRange?_of_lineIndex? {offset : Int} {index : Nat}
    (h : file.lineIndex? offset = some index) :
    ∃ start stop : Nat, file.lineRange? (index + 1 : Int) = some (start, stop) ∧
      (start : Int) ≤ offset := by
  obtain ⟨start, hstart, hle⟩ := (lineIndex?_eq_some_iff.1 h).1
  exact ⟨start, _, by rw [lineRange?_succ, hstart]; rfl, hle⟩

/-- A later offset is not held by an earlier line. -/
theorem lineIndex?_mono {offset other : Int} {index place : Nat}
    (h : file.lineIndex? offset = some index) (hother : file.lineIndex? other = some place)
    (hle : offset ≤ other) : index ≤ place := by
  obtain ⟨start, hstart, hoffset⟩ := (lineIndex?_eq_some_iff.1 h).1
  exact (lineIndex?_eq_some_iff.1 hother).2 ⟨start, hstart, Int.le_trans hoffset hle⟩

/-- The line that holds an offset is a line of the file. -/
theorem lt_of_lineIndex?_eq_some {offset : Int} {index : Nat}
    (h : file.lineIndex? offset = some index) : index < file.lineStarts.length := by
  obtain ⟨start, hstart, -⟩ := (lineIndex?_eq_some_iff.1 h).1
  exact (List.getElem?_eq_some_iff.1 hstart).1

/-- Every line with a start has a range. -/
theorem isSome_lineRange?_succ {index : Nat} (h : index < file.lineStarts.length) :
    (file.lineRange? (index + 1 : Int)).isSome := by
  rw [lineRange?_succ, List.getElem?_eq_getElem h]
  rfl

variable {offset : Nat}

/-- The index of the line that holds an offset is the number of newlines before the offset. -/
theorem lineIndex?_eq (h : offset ≤ file.text.length) :
    file.lineIndex? offset = some ((file.text.toList.take offset).count '\n') := by
  rw [lineIndex?_of_isCut (file.isCut_lineStarts h), if_neg (Nat.succ_ne_zero _),
    Nat.add_sub_cancel]

/-- The line that holds an offset starts as many characters before it as stand behind the last
newline. -/
theorem exists_lineStarts_eq (h : offset ≤ file.text.length) :
    ∃ start, start + columnsOf (file.text.toList.take offset) = offset ∧
      file.lineStarts[(file.text.toList.take offset).count '\n']? = some start := by
  have hlength : (file.text.toList.take offset).length = offset := by
    rw [List.length_take, String.length_toList, Nat.min_eq_left h]
  have hcolumns := getLastD_startsFrom_add_columnsOf 0 (file.text.toList.take offset)
  have hstart := getElem?_lineStarts_append 0 (startsFrom 0 (file.text.toList.take offset))
    (startsFrom (0 + (file.text.toList.take offset).length) (file.text.toList.drop offset))
  rw [← startsFrom_append, List.take_append_drop, length_startsFrom] at hstart
  exact ⟨_, by rw [hcolumns, hlength, Nat.zero_add], hstart⟩

/-- The position of an offset, counted along the text, is the one that the line table gives. -/
theorem exists_ofOffset_eq (h : offset ≤ file.text.length) :
    ∃ index start stop, file.lineIndex? offset = some index ∧
      file.lineRange? (index + 1 : Int) = some (start, stop) ∧ start ≤ offset ∧
      Position.ofOffset file.text.toList offset =
        { line := index + 1, column := (offset - start : Nat) + 1 } := by
  obtain ⟨start, hcolumns, hstart⟩ := exists_lineStarts_eq h
  refine ⟨_, start, _, lineIndex?_eq h, by rw [lineRange?_succ, hstart]; rfl, by omega, ?_⟩
  rw [Position.ofOffset_eq_columnsOf]
  have hdistance : columnsOf (file.text.toList.take offset) = offset - start := by omega
  rw [hdistance]

end SourceFile

end StoryLint
