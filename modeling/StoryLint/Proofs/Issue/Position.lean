import StoryLint.Proofs.Issue.Order
import StoryLint.Proofs.Source.Line

/-!
# Positions in one text

Along a text positions grow with the offsets, so that they tell the offsets apart
(`Position.ofOffset_lt_iff`). Between two offsets of one text there may be a newline, which makes
the line of the later one greater, or there is none, and then all characters between them are
columns of one line.

`Issue.compare_in_text` is the main result: issues of one text are compared by the offsets at which
they start.
-/

namespace StoryLint

/-- Characters of one line add as many columns. -/
theorem columnsOf_append {before rest : List Char} (h : '\n' ∉ rest) :
    columnsOf (before ++ rest) = columnsOf before + rest.length := by
  induction rest using List.reverseRecOn with
  | nil => simp
  | append_singleton rest c ih =>
      simp only [List.mem_append, List.mem_singleton, not_or] at h
      rw [← List.append_assoc, columnsOf_concat, if_neg (Ne.symm h.2), ih h.1, List.length_append,
        List.length_singleton, Nat.add_assoc]

namespace Position

variable {text : List Char} {a b : Nat}

/-- A later offset of a text has a greater position. -/
theorem ofOffset_lt_ofOffset (hab : a < b) (hb : b ≤ text.length) :
    ofOffset text a < ofOffset text b := by
  obtain ⟨between, hbetween⟩ : ∃ between, text.take b = text.take a ++ between :=
    ⟨_, (List.prefix_iff_eq_append.1 (List.take_prefix_take_left (Nat.le_of_lt hab))).symm⟩
  have hlength : 0 < between.length := by
    have := congrArg List.length hbetween
    rw [List.length_append, List.length_take, List.length_take] at this
    omega
  rw [lt_iff, ofOffset_eq_columnsOf, ofOffset_eq_columnsOf, hbetween, List.count_append]
  -- A newline between the offsets, itself at the first one or behind, makes the line greater.
  by_cases hnewline : '\n' ∈ between
  · left
    have hlines : 0 < between.count '\n' := List.count_pos_iff.2 hnewline
    show (((text.take a).count '\n' : Nat) : Int) + 1 <
      ((text.take a).count '\n' + between.count '\n' : Nat) + 1
    omega
  · right
    rw [List.count_eq_zero.2 hnewline, columnsOf_append hnewline]
    refine ⟨rfl, ?_⟩
    show (columnsOf (text.take a) : Int) + 1 <
      (columnsOf (text.take a) + between.length : Nat) + 1
    omega

/-- No position comes before itself. -/
theorem lt_irrefl (p : Position) : ¬ p < p := by
  rw [lt_iff]
  omega

/-- Positions have the order of the offsets. -/
theorem ofOffset_lt_iff (ha : a ≤ text.length) (hb : b ≤ text.length) :
    ofOffset text a < ofOffset text b ↔ a < b := by
  refine ⟨fun hlt => ?_, fun hab => ofOffset_lt_ofOffset hab hb⟩
  rcases Nat.lt_trichotomy a b with hab | rfl | hba
  · exact hab
  · exact absurd hlt (lt_irrefl _)
  · exact absurd (lt_trans hlt (ofOffset_lt_ofOffset hba ha)) (lt_irrefl _)

/-- No two offsets of a text have one position. -/
theorem ofOffset_inj (ha : a ≤ text.length) (hb : b ≤ text.length) :
    ofOffset text a = ofOffset text b ↔ a = b := by
  refine ⟨fun heq => ?_, fun hab => by rw [hab]⟩
  have hab := mt (ofOffset_lt_iff ha hb).2 (heq ▸ lt_irrefl _)
  have hba := mt (ofOffset_lt_iff hb ha).2 (heq ▸ lt_irrefl _)
  omega

end Position

namespace Issue

/-- Contexts of files with one text are compared by the offsets at which they start. -/
theorem compareContexts_in_text {left right : SourceContext} (hleft : left.fileName.isSome)
    (hright : right.fileName.isSome) (htext : left.text = right.text) :
    compareContexts (some left) (some right) =
      Ord.compare left.start.value right.start.value := by
  obtain ⟨leftName, hleft⟩ := Option.isSome_iff_exists.1 hleft
  obtain ⟨rightName, hright⟩ := Option.isSome_iff_exists.1 hright
  have hleftEnd : left.first ≤ right.text.toList.length := by
    rw [String.length_toList, ← htext]
    exact Nat.le_trans left.first_le_last left.last_le_length
  have hrightEnd : right.first ≤ right.text.toList.length := by
    rw [String.length_toList]
    exact Nat.le_trans right.first_le_last right.last_le_length
  simp only [compareContexts, hleft, hright, SourceContext.startPosition, htext,
    Position.ofOffset_lt_iff hleftEnd hrightEnd, Position.ofOffset_lt_iff hrightEnd hleftEnd,
    Int.compare_eq_ite_lt, ← SourceContext.first_eq, Int.ofNat_lt]

/-- In every text positions grow strictly with the offsets, up to the end of the text, so that a
position determines its offset. Two issues whose contexts name files and have one text compare as
the offsets at which they start. -/
theorem compare_in_text :
    (∀ (text : String) (a b : Nat), a < b → b ≤ text.length →
      Position.ofOffset text.toList a < Position.ofOffset text.toList b) ∧
    (∀ (text : String) (a b : Nat), a ≤ text.length → b ≤ text.length →
      Position.ofOffset text.toList a = Position.ofOffset text.toList b → a = b) ∧
    ∀ (left right : Issue) (l r : SourceContext), left.context = some l → right.context = some r →
      l.fileName.isSome → r.fileName.isSome → l.text = r.text →
        left.compare right = Ord.compare l.start.value r.start.value := by
  refine ⟨fun text a b hab hb => ?_, fun text a b ha hb heq => ?_,
    fun left right l r hleft hright hl hr htext => ?_⟩
  · exact Position.ofOffset_lt_ofOffset hab (by rwa [String.length_toList])
  · exact (Position.ofOffset_inj (by rwa [String.length_toList])
      (by rwa [String.length_toList])).1 heq
  · rw [compare, hleft, hright, compareContexts_in_text hl hr htext]

/-- A range of one character in a file with an empty line. -/
def emptyLineContext (start : Nat) (hstart : start < 4) : SourceContext :=
  { fileName := some "a", text := "x\n\ny", start := .number start, stop := .number (start + 1)
    start_nonneg := Int.natCast_nonneg start
    start_le_stop := by
      simp only [Offset.value]
      omega
    stop_le_length := by
      have hlength : "x\n\ny".length = 4 := by decide
      simp only [Offset.value, hlength]
      omega }

/-- On the newline that ends a line, and on that of the empty line behind it. -/
theorem compare_in_text_empty_line :
    let issue (start : Nat) (hstart : start < 4) : Issue :=
      .error { kind := .emptyName, context := some (emptyLineContext start hstart) }
    Position.ofOffset "x\n\ny".toList 1 < Position.ofOffset "x\n\ny".toList 2 ∧
      (∀ a ≤ 4, Position.ofOffset "x\n\ny".toList a = Position.ofOffset "x\n\ny".toList 2 → a = 2) ∧
      (issue 1 (by decide)).compare (issue 2 (by decide)) = .lt ∧
      (issue 2 (by decide)).compare (issue 2 (by decide)) = .eq ∧
      (issue 3 (by decide)).compare (issue 2 (by decide)) = .gt := by
  intro issue
  obtain ⟨hlt, hinj, hcompare⟩ := compare_in_text
  have hissues : ∀ (a b : Nat) (ha : a < 4) (hb : b < 4),
      (issue a ha).compare (issue b hb) = Ord.compare (a : Int) b := fun a b ha hb =>
    hcompare _ _ (emptyLineContext a ha) (emptyLineContext b hb) rfl rfl rfl rfl rfl
  exact ⟨hlt "x\n\ny" 1 2 (by decide) (by decide),
    fun a ha heq => hinj "x\n\ny" a 2 (by simpa using! ha) (by decide) heq,
    hissues 1 2 _ _, hissues 2 2 _ _, hissues 3 2 _ _⟩

end Issue

end StoryLint
