import StoryLint.Proofs.Link.Repair

/-!
# What the repair of a link deletes

A link need not be well formed: the repair is offered for every text. `repair_drops_blanks` is the
main result: from any text the repair deletes two blocks of blanks at most, and nothing exactly if
the target is bare. So no character but blanks is touched, also where the blanks are taken off a
text that only reads like the target.

The target of a text stands in the text (`targetOf_inside_isInfix`), so the repair does replace it
at some place, and what trimming leaves of it lies between two blocks of blanks.
-/

namespace StoryLint

namespace Text

variable {old new s t : List Char}

/-- A text with two blocks of blanks deleted. Either block may be empty. -/
inductive DropsBlanks : List Char → List Char → Prop where
  | intro {before front kept back after : List Char}
      (blank_front : ∀ c ∈ front, isBlank c = true)
      (blank_back : ∀ c ∈ back, isBlank c = true) :
      DropsBlanks (before ++ (front ++ kept ++ back) ++ after) (before ++ kept ++ after)

/-- The characters of a text that are no blanks. -/
def nonBlanks (s : List Char) : List Char :=
  s.filter fun c => !isBlank c

/-- What is not blank in two texts, one behind the other. -/
theorem nonBlanks_append (s t : List Char) : nonBlanks (s ++ t) = nonBlanks s ++ nonBlanks t :=
  List.filter_append s t

/-- A text of blanks has nothing else. -/
theorem nonBlanks_eq_nil (h : ∀ c ∈ s, isBlank c = true) : nonBlanks s = [] :=
  List.filter_eq_nil_iff.2 fun c hc => by simp [h c hc]

/-- All other characters are kept, in their order. -/
theorem DropsBlanks.nonBlanks_eq (h : DropsBlanks old new) : nonBlanks new = nonBlanks old := by
  cases h with
  | intro blank_front blank_back =>
      simp only [nonBlanks_append, nonBlanks_eq_nil blank_front, nonBlanks_eq_nil blank_back,
        List.nil_append, List.append_nil]

/-- A part of a text that is trimmed loses its blanks at the ends. -/
theorem dropsBlanks_replaceFirst_trim (h : t <:+: s) :
    DropsBlanks s (replaceFirst t (trim t) s) := by
  obtain ⟨before, after, hs⟩ := h
  obtain ⟨before', after', hs', -, hreplace⟩ := exists_replaceFirst_eq (trim t) hs.symm
  obtain ⟨front, back, ht, hfront, hback⟩ := exists_eq_append_trim t
  have hdrops : DropsBlanks (before' ++ (front ++ trim t ++ back) ++ after')
      (before' ++ trim t ++ after') := .intro hfront hback
  rwa [← ht, ← hs', ← hreplace] at hdrops

/-- Exactly a bare part of a text is left alone. -/
theorem replaceFirst_trim_eq_self_iff (h : t <:+: s) :
    replaceFirst t (trim t) s = s ↔ Bare t := by
  rw [← trim_eq_self_iff]
  constructor
  · intro hself
    obtain ⟨before, after, hs⟩ := h
    obtain ⟨before', after', hs', -, hreplace⟩ := exists_replaceFirst_eq (trim t) hs.symm
    rw [hself, hs', List.append_cancel_right_eq, List.append_cancel_left_eq] at hreplace
    exact hreplace.symm
  · intro hbare
    rw [hbare, replaceFirst_self]

end Text

namespace Link

open Text

/-- The target of a link stands in its contents. -/
theorem targetOf_isInfix (contents : List Char) : targetOf contents <:+: contents := by
  obtain ⟨p, t, q, htarget, rfl⟩ := exists_targetAt contents
  rw [htarget.targetOf_eq]
  exact ⟨p, q, rfl⟩

/-- The target of a text stands in the text, also if there are no brackets around it. -/
theorem targetOf_inside_isInfix (link : List Char) : targetOf (inside link) <:+: link := by
  have htaken : inside link <:+: link.drop 2 := (List.take_prefix _ _).isInfix
  exact ((targetOf_isInfix _).trans htaken).trans (List.drop_suffix _ _).isInfix

/-- From any text, however short and with brackets or not, the repair deletes two blocks of blanks
at most. It deletes none exactly if the target has no blanks at its ends. The replacement that the
advice offers has all other characters of the text, in their order. -/
theorem repair_drops_blanks (link : String) :
    DropsBlanks link.toList (repair link).toList ∧
    (repair link = link ↔ Bare (targetOf (inside link.toList))) ∧
    (repairNote? link = none ↔ link.length < 4) ∧
    ∀ note, repairNote? link = some note → ∃ replacement,
      note = "Try replacing " ++ link ++ " with " ++ replacement ∧
        DropsBlanks link.toList replacement.toList ∧
        nonBlanks replacement.toList = nonBlanks link.toList := by
  have hrepair : (repair link).toList = repairOf link.toList := by
    rw [repair, String.toList_ofList]
  have hdrops : DropsBlanks link.toList (repair link).toList := by
    rw [hrepair]
    exact dropsBlanks_replaceFirst_trim (targetOf_inside_isInfix _)
  refine ⟨hdrops, ?_, ?_, fun note hnote => ?_⟩
  · rw [← String.toList_inj, hrepair]
    exact replaceFirst_trim_eq_self_iff (targetOf_inside_isInfix _)
  · rw [repairNote?, ite_eq_left_iff]
    simp
  · rw [repairNote?, Option.ite_none_left_eq_some] at hnote
    obtain ⟨-, hnote⟩ := hnote
    exact ⟨repair link, (Option.some.inj hnote).symm, hdrops, hdrops.nonBlanks_eq⟩

end Link

end StoryLint
