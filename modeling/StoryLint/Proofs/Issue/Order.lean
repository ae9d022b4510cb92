import StoryLint.Issue.Order
import StoryLint.Proofs.Order.Sorting

/-!
# The order of a report

`sort_eq_blocks` says what the order of a report is: issues without a context in reverse, then
issues in text without a file in reverse, then the issues in files by their positions, equal
positions in the order of the list.

`less_eq` reads the comparison off the block that an issue belongs to. The comparison holds both
ways within the first two blocks, but it is coherent, so sorting arranges the issues by it
(`arranged_sort`) and they have one arrangement only.
-/

namespace StoryLint

/-! ## Positions -/

namespace Position

/-- Positions are compared by line, and by column on one line. -/
theorem lt_iff {a b : Position} :
    a < b ↔ a.line < b.line ∨ a.line = b.line ∧ a.column < b.column :=
  Iff.rfl

/-- Two positions on one line and in one column are the same. -/
theorem ext {a b : Position} (hline : a.line = b.line) (hcolumn : a.column = b.column) :
    a = b := by
  cases a
  cases b
  simp_all

/-- A position is at most another exactly if the other does not come before it. -/
theorem le_iff_not_lt {a b : Position} : a ≤ b ↔ ¬ b < a := by
  constructor
  · rintro (h | rfl) <;> rw [lt_iff] at * <;> omega
  · intro h
    by_cases hab : a < b
    · exact .inl hab
    · rw [lt_iff] at h hab
      have hline : a.line = b.line := by omega
      have hcolumn : a.column = b.column := by omega
      exact .inr (Position.ext hline hcolumn)

/-- Coming before is transitive. -/
theorem lt_trans {a b c : Position} (hab : a < b) (hbc : b < c) : a < c := by
  rw [lt_iff] at *
  omega

/-- Not coming before is transitive. -/
theorem not_lt_trans {a b c : Position} (hab : ¬ a < b) (hbc : ¬ b < c) : ¬ a < c := by
  rw [lt_iff] at *
  omega

end Position

namespace Issue

open StoryLint.Order

/-! ## Blocks -/

/-- The blocks of a report: issues of the story as a whole, issues in text without a file, and
issues in files. -/
inductive Block where
  | unplaced
  | fileless
  | inFile
deriving DecidableEq, Repr

/-- The block that an issue belongs to. -/
def block (issue : Issue) : Block :=
  match issue.context with
  | none => .unplaced
  | some c =>
      match c.fileName with
      | none => .fileless
      | some _ => .inFile

/-- The position at which an issue starts; the start of the text if it has no context. -/
def start (issue : Issue) : Position :=
  (issue.context.map (·.startPosition)).getD {}

/-- Whether an issue starts at an earlier position than another one or at the same. -/
def startsNoLater (a b : Issue) : Bool :=
  a.start ≤ b.start

/-- The issues in the order of a report, block by block. The stable `List.mergeSort` orders the
issues in files. -/
def blocks (issues : List Issue) : List Issue :=
  (issues.filter (·.block = .unplaced)).reverse ++
    (issues.filter (·.block = .fileless)).reverse ++
      (issues.filter (·.block = .inFile)).mergeSort startsNoLater

/-! ## The comparison -/

/-- Blocks decide; within a block of issues without a place in a file every issue is less than
every issue. -/
theorem less_eq (a b : Issue) :
    a.less b =
      match a.block, b.block with
      | .unplaced, _ => true
      | _, .unplaced => false
      | .fileless, _ => true
      | _, .fileless => false
      | .inFile, .inFile => decide (a.start < b.start) := by
  unfold less compare block start
  rcases a.context with _ | c
  · rfl
  · rcases b.context with _ | d
    · cases hc : c.fileName <;> simp [compareContexts, hc]
    · cases hc : c.fileName <;> cases hd : d.fileName <;> simp only [compareContexts, hc, hd]
      case some.some =>
        show decide ((if c.startPosition < d.startPosition then Ordering.lt
          else if d.startPosition < c.startPosition then .gt else .eq) = .lt) =
            decide (c.startPosition < d.startPosition)
        by_cases hlt : c.startPosition < d.startPosition
        · rw [if_pos hlt, decide_eq_true hlt, decide_eq_true rfl]
        · rw [if_neg hlt, decide_eq_false hlt]
          split <;> rfl
      all_goals rfl

/-- The comparison of issues is coherent. -/
theorem coherent_less : Coherent less where
  trans := by
    intro a b c hab hbc
    rw [less_eq] at *
    cases ha : a.block <;> cases hb : b.block <;> cases hc : c.block <;> simp_all
    exact Position.lt_trans hab hbc
  not_trans := by
    intro a b c hab hbc
    rw [less_eq] at *
    cases ha : a.block <;> cases hb : b.block <;> cases hc : c.block <;> simp_all
    exact Position.not_lt_trans hab hbc

/-- For issues in files the comparison is the strict order of their positions. -/
theorem less_eq_not_startsNoLater {a b : Issue} (ha : a.block = .inFile) (hb : b.block = .inFile) :
    a.less b = !startsNoLater b a := by
  rw [less_eq, ha, hb, startsNoLater, ← decide_not]
  exact decide_eq_decide.2 (by rw [Position.le_iff_not_lt, not_not])

/-- Starting no later is transitive. -/
theorem startsNoLater_trans (a b c : Issue) (hab : startsNoLater a b) (hbc : startsNoLater b c) :
    startsNoLater a c := by
  simp only [startsNoLater, decide_eq_true_eq, Position.le_iff_not_lt] at *
  exact Position.not_lt_trans hbc hab

/-- Of two issues one starts no later. -/
theorem startsNoLater_total (a b : Issue) : (startsNoLater a b || startsNoLater b a) = true := by
  simp only [startsNoLater, Bool.or_eq_true, decide_eq_true_eq, Position.le_iff_not_lt,
    Position.lt_iff]
  omega

/-! ## Sorting -/

/-- An issue that is added to those in files stands behind the ones that start no later. -/
theorem mergeSort_append_singleton {issues : List Issue} {y : Issue}
    (hissues : ∀ x ∈ issues, x.block = .inFile) (hy : y.block = .inFile) :
    ∃ before after, (issues ++ [y]).mergeSort startsNoLater = before ++ y :: after ∧
      issues.mergeSort startsNoLater = before ++ after ∧
      (∀ x ∈ before, y.less x = false) ∧ ∀ x ∈ after, y.less x = true := by
  obtain ⟨before, after, heq, hitems, hbefore, hafter⟩ :=
    (arranged_mergeSort startsNoLater_trans startsNoLater_total (issues ++ [y])).exists_of_snoc
  have hsorted : issues.mergeSort startsNoLater = before ++ after :=
    (arranged_mergeSort startsNoLater_trans startsNoLater_total issues).unique hitems
  have hinFile : ∀ x ∈ before ++ after, x.block = .inFile := by
    rw [← hsorted]
    exact fun x hx => hissues x (List.mem_mergeSort.1 hx)
  refine ⟨before, after, heq, hsorted, fun x hx => ?_, fun x hx => ?_⟩
  · rw [less_eq_not_startsNoLater hy (hinFile x (by simp [hx]))]
    exact hbefore x hx
  · rw [less_eq_not_startsNoLater hy (hinFile x (by simp [hx]))]
    exact hafter x hx

/-- Putting the issues into blocks arranges them by the comparison. -/
theorem arranged_blocks (issues : List Issue) : Arranged less issues (blocks issues) := by
  -- An issue that comes last goes in front of those that it is less than. Its block says which
  -- they are: all of them, those of the later blocks, or a part of the sorted issues in files.
  induction issues using List.reverseRecOn with
  | nil => simpa [blocks] using Arranged.nil
  | append_singleton issues y ih =>
      cases hy : y.block with
      | unplaced =>
          have heq : blocks (issues ++ [y]) = y :: blocks issues := by
            simp [blocks, List.filter_append, hy]
          rw [heq]
          exact ih.cons fun x _ => by simp [less_eq, hy]
      | fileless =>
          have heq : blocks (issues ++ [y]) =
              (issues.filter (·.block = .unplaced)).reverse ++
                y :: ((issues.filter (·.block = .fileless)).reverse ++
                  (issues.filter (·.block = .inFile)).mergeSort startsNoLater) := by
            simp [blocks, List.filter_append, hy]
          rw [heq]
          refine .snoc (by simpa [blocks] using ih) (fun x hx => ?_) (fun x hx => ?_)
          · simp only [List.mem_reverse, List.mem_filter, decide_eq_true_eq] at hx
            simp [less_eq, hy, hx.2]
          · have hx' : x.block = .fileless ∨ x.block = .inFile := by
              simp only [List.mem_append, List.mem_reverse, List.mem_filter, List.mem_mergeSort,
                decide_eq_true_eq] at hx
              exact hx.imp (·.2) (·.2)
            rcases hx' with hx' | hx' <;> simp [less_eq, hy, hx']
      | inFile =>
          have hinFile : ∀ x ∈ issues.filter (·.block = .inFile), x.block = .inFile := by simp
          obtain ⟨before, after, hadded, hsorted, hbefore, hafter⟩ :=
            mergeSort_append_singleton hinFile hy
          have heq : blocks (issues ++ [y]) =
              ((issues.filter (·.block = .unplaced)).reverse ++
                (issues.filter (·.block = .fileless)).reverse ++ before) ++ y :: after := by
            simp [blocks, List.filter_append, hy, hadded]
          rw [heq]
          refine .snoc (by simpa [blocks, hsorted] using ih) (fun x hx => ?_) hafter
          simp only [List.mem_append, List.mem_reverse, List.mem_filter, decide_eq_true_eq] at hx
          rcases hx with (⟨_, hx⟩ | ⟨_, hx⟩) | hx
          · simp [less_eq, hy, hx]
          · simp [less_eq, hy, hx]
          · exact hbefore x hx

/-- Dropping and changing issues one by one, without moving them, commutes with sorting. -/
theorem sort_filterMap {f : Issue → Option Issue}
    (hf : ∀ {issue issue' : Issue}, f issue = some issue' → issue'.context = issue.context)
    (issues : List Issue) : sort (issues.filterMap f) = (sort issues).filterMap f := by
  have hless : ∀ {a b a' b' : Issue}, f a = some a' → f b = some b' → a'.less b' = a.less b := by
    intro a b a' b' ha hb
    unfold less compare
    rw [hf ha, hf hb]
  have hfirst : Arranged less (issues.filterMap f) (sort (issues.filterMap f)) :=
    arranged_sort coherent_less _
  have hlast : Arranged less (issues.filterMap f) ((sort issues).filterMap f) :=
    (arranged_sort coherent_less issues).filterMap hless
  exact hfirst.unique hlast

/-- Sorting loses no issue and adds none. -/
theorem mem_sort {issue : Issue} {issues : List Issue} : issue ∈ sort issues ↔ issue ∈ issues :=
  (arranged_sort coherent_less issues).perm.mem_iff

/-- The order of a report: issues without a context in reverse, issues in text without a file in
reverse, and issues in files by their positions, in the order of the list where they start at the
same position. No issue is lost and none is added, although any two issues of one of the first two
blocks are each less than the other. -/
theorem sort_eq_blocks (issues : List Issue) :
    sort issues = blocks issues ∧ (sort issues).Perm issues ∧
      ∀ a b : Issue, a.block = b.block → a.block ≠ .inFile → a.less b = true := by
  have harranged : Arranged less issues (sort issues) := arranged_sort coherent_less issues
  refine ⟨harranged.unique (arranged_blocks issues), harranged.perm, fun a b hab ha => ?_⟩
  rw [less_eq, ← hab]
  cases ha' : a.block <;> simp_all

/-- Two issues without a place keep their order. -/
theorem sort_two_unplaced :
    let a : Issue := .error { kind := .emptyName }
    let b : Issue := .error { kind := .missingSigil }
    sort [a, b] = [b, a] ∧ a.less b = true ∧ b.less a = true :=
  ⟨(sort_eq_blocks _).1.trans (by simp [blocks, block, context]),
    (sort_eq_blocks []).2.2 _ _ rfl (by decide), (sort_eq_blocks []).2.2 _ _ rfl (by decide)⟩

end Issue

end StoryLint
