import StoryLint.Link
import StoryLint.Proofs.Text.Blank
import StoryLint.Proofs.Text.Search

/-!
# What the repair of a link changes

The repair takes the blanks off the first place in the link that reads like the target, which need
not be the target. `TargetAt` says where the target stands, and `OccursEarlier` that its text can
be read before it. `repair_eq_trim_iff` is the main result: the repair trims the target in place
exactly if there is nothing to trim or no such earlier text. A target that comes first between the
brackets has none.

The proof compares the two links that an earlier place and the right place lead to. They agree
only if the text between these places commutes with the blanks behind the target, and it does not
end in a blank (`trim_eq_self_of_shift`).
-/

namespace StoryLint.Link

open Text

/-- The target of the text between the brackets of a link, with the texts before and behind it:
behind the first bar, else before the first arrow to the left, else behind the first arrow to the
right, else all of the text. -/
inductive TargetAt : List Char → List Char → List Char → Prop where
  | behindBar {text target} :
      '|' ∉ text →
      TargetAt (text ++ ['|']) target []
  | beforeArrow {target text} :
      '|' ∉ target ++ ['<', '-'] ++ text →
      ¬ ['<', '-'] <:+: target →
      TargetAt [] target (['<', '-'] ++ text)
  | behindArrow {text target} :
      '|' ∉ text ++ ['-', '>'] ++ target →
      ¬ ['<', '-'] <:+: text ++ ['-', '>'] ++ target →
      ¬ ['-', '>'] <:+: text →
      TargetAt (text ++ ['-', '>']) target []
  | whole {target} :
      '|' ∉ target →
      ¬ ['<', '-'] <:+: target →
      ¬ ['-', '>'] <:+: target →
      TargetAt [] target []

/-- A text between the brackets of a link. -/
def bracketed (contents : List Char) : List Char :=
  ['[', '['] ++ contents ++ [']', ']']

/-- The text of the target `t` can be read in the link before its place. -/
def OccursEarlier (p t q : List Char) : Prop :=
  ∃ before after, bracketed (p ++ t ++ q) = before ++ t ++ after ∧ before.length < p.length + 2

variable {p t q contents : List Char}

/-! ## Places of targets -/

/-- The contents of a link stand between its brackets. -/
theorem inside_bracketed (contents : List Char) : inside (bracketed contents) = contents := by
  simp [inside, bracketed]

/-- Without a bar there is nothing to split at. -/
theorem splitFirst?_bar_eq_none (h : '|' ∉ contents) : splitFirst? ['|'] contents = none := by
  rw [splitFirst?_eq_none_iff, List.singleton_infix_iff]
  exact h

/-- The target is what `targetOf` takes. -/
theorem TargetAt.targetOf_eq (h : TargetAt p t q) : targetOf (p ++ t ++ q) = t := by
  unfold targetOf
  cases h with
  | behindBar htext =>
      rw [← List.singleton_infix_iff] at htext
      rw [List.append_nil, splitFirst?_append (by decide) htext]
  | beforeArrow hbar harrow =>
      rw [List.nil_append, ← List.append_assoc, splitFirst?_bar_eq_none hbar,
        splitFirst?_append (by decide) harrow]
  | behindArrow hbar hleft hright =>
      rw [List.append_nil, splitFirst?_bar_eq_none hbar, splitFirst?_eq_none_iff.2 hleft,
        splitFirst?_append (by decide) hright]
  | whole hbar hleft hright =>
      rw [List.nil_append, List.append_nil, splitFirst?_bar_eq_none hbar,
        splitFirst?_eq_none_iff.2 hleft, splitFirst?_eq_none_iff.2 hright]

/-- Every text between brackets has a target. -/
theorem exists_targetAt (contents : List Char) :
    ∃ p t q, TargetAt p t q ∧ contents = p ++ t ++ q := by
  cases hbar : splitFirst? ['|'] contents with
  | some cut =>
      obtain ⟨text, target⟩ := cut
      refine ⟨text ++ ['|'], target, [], .behindBar ?_, ?_⟩
      · rw [← List.singleton_infix_iff]
        exact not_isInfix_of_splitFirst?_eq_some (by simp) hbar
      · rw [List.append_nil]
        exact eq_of_splitFirst?_eq_some hbar
  | none =>
      rw [splitFirst?_eq_none_iff, List.singleton_infix_iff] at hbar
      cases hleft : splitFirst? ['<', '-'] contents with
      | some cut =>
          obtain ⟨target, text⟩ := cut
          have hcontents := eq_of_splitFirst?_eq_some hleft
          refine ⟨[], target, ['<', '-'] ++ text, .beforeArrow ?_ ?_, by simpa using hcontents⟩
          · rwa [← hcontents]
          · exact not_isInfix_of_splitFirst?_eq_some (by simp) hleft
      | none =>
          rw [splitFirst?_eq_none_iff] at hleft
          cases hright : splitFirst? ['-', '>'] contents with
          | some cut =>
              obtain ⟨text, target⟩ := cut
              have hcontents := eq_of_splitFirst?_eq_some hright
              refine ⟨text ++ ['-', '>'], target, [], .behindArrow ?_ ?_ ?_,
                by simpa using hcontents⟩
              · rwa [← hcontents]
              · rwa [← hcontents]
              · exact not_isInfix_of_splitFirst?_eq_some (by simp) hright
          | none =>
              rw [splitFirst?_eq_none_iff] at hright
              exact ⟨[], contents, [], .whole hbar hleft hright, by simp⟩

/-- No arrow to the left comes about where something follows an arrow to the right. -/
theorem left_isInfix_append_iff {text target : List Char} :
    ['<', '-'] <:+: text ++ ['-', '>'] ++ target ↔
      ['<', '-'] <:+: text ++ ['-', '>'] ∨ ['<', '-'] <:+: target := by
  rw [List.infix_append_iff_ne_nil]
  constructor
  · intro h
    obtain h | h | ⟨first, second, hfirst, hsecond, hmark, hsuffix, -⟩ := h
    · exact .inl h
    · exact .inr h
    · -- The arrow would have to be cut between its characters, and `<` is no `>`.
      exfalso
      obtain ⟨a, first, rfl⟩ := List.exists_cons_of_ne_nil hfirst
      obtain ⟨b, second, rfl⟩ := List.exists_cons_of_ne_nil hsecond
      have hlength := congrArg List.length hmark
      simp only [List.length_append, List.length_cons, List.length_nil] at hlength
      obtain rfl : first = [] := List.eq_nil_of_length_eq_zero (by omega)
      obtain rfl : '<' = a := (List.cons.inj hmark).1
      rw [show text ++ ['-', '>'] = text ++ ['-'] ++ ['>'] by simp,
        List.singleton_suffix_append_singleton_iff] at hsuffix
      exact absurd hsuffix (by decide)
  · intro h
    obtain h | h := h
    · exact .inl h
    · exact .inr (.inl h)

/-- A part of the target is the target in its place. -/
theorem TargetAt.of_infix {m : List Char} (h : TargetAt p t q) (hm : m <:+: t) :
    TargetAt p m q := by
  cases h with
  | behindBar htext => exact .behindBar htext
  | beforeArrow hbar harrow =>
      refine .beforeArrow ?_ (fun h => harrow (h.trans hm))
      simp only [List.mem_append, not_or] at hbar ⊢
      exact ⟨⟨fun h => hbar.1.1 (hm.subset h), hbar.1.2⟩, hbar.2⟩
  | behindArrow hbar hleft hright =>
      refine .behindArrow ?_ ?_ hright
      · simp only [List.mem_append, not_or] at hbar ⊢
        exact ⟨hbar.1, fun h => hbar.2 (hm.subset h)⟩
      · rw [left_isInfix_append_iff, not_or] at hleft ⊢
        exact ⟨hleft.1, fun h => hleft.2 (h.trans hm)⟩
  | whole hbar hleft hright =>
      exact .whole (fun h => hbar (hm.subset h)) (fun h => hleft (h.trans hm))
        fun h => hright (h.trans hm)

/-- What stands before a target in its link does not end in a blank. -/
theorem TargetAt.getLast?_before (h : TargetAt p t q) :
    ∃ c, (['[', '['] ++ p).getLast? = some c ∧ isBlank c = false := by
  cases h with
  | behindBar => exact ⟨'|', by rw [← List.append_assoc, List.getLast?_concat], by decide⟩
  | beforeArrow => exact ⟨'[', rfl, by decide⟩
  | behindArrow =>
      refine ⟨'>', ?_, by decide⟩
      rw [List.getLast?_append, List.getLast?_append]
      rfl
  | whole => exact ⟨'[', rfl, by decide⟩

/-! ## Earlier places -/

/-- If a text and what trimming leaves of it can both be shifted over `w`, there are blanks only
behind the text. -/
theorem exists_eq_trim_append {w rest post : List Char} (hw : w ≠ [])
    (ht : t ++ rest = w ++ t ++ post) (htrim : trim t ++ rest = w ++ trim t ++ post) :
    ∃ back, t = trim t ++ back ∧ ∀ c ∈ back, isBlank c = true := by
  obtain ⟨front, back, hsplit, hfront, hback⟩ := exists_eq_append_trim t
  cases hbare : trim t with
  | nil =>
      refine ⟨t, rfl, ?_⟩
      intro c hc
      rw [hsplit, hbare, List.append_nil, List.mem_append] at hc
      exact hc.elim (hfront c) (hback c)
  | cons d m =>
      cases front with
      | nil =>
          refine ⟨back, ?_, hback⟩
          rw [← hbare]
          exact hsplit
      | cons e front =>
          -- Both texts start like `w`, but only one of them with a blank.
          obtain ⟨a, w, rfl⟩ := List.exists_cons_of_ne_nil hw
          rw [hbare] at htrim
          rw [hsplit] at ht
          have hd : d = a := (List.cons.inj htrim).1
          have he : e = a := (List.cons.inj ht).1
          have hblank := hfront e (List.mem_cons_self ..)
          have hplain := (bare_trim t).head d (by simp [hbare])
          rw [he, ← hd, hplain] at hblank
          cases hblank

/-- If what trimming leaves of a text can be shifted over `w`, the shifted rest starts with a text
that ends like `w` or like what trimming leaves. -/
theorem exists_shifted {w rest post : List Char} {c : Char} (hw : w.getLast? = some c)
    (hc : isBlank c = false) (htrim : trim t ++ rest = w ++ trim t ++ post) :
    ∃ u, w ++ trim t = trim t ++ u ∧ rest = u ++ post ∧
      ∃ d, u.getLast? = some d ∧ isBlank d = false := by
  rw [List.append_eq_append_iff] at htrim
  obtain ⟨u, hu, hrest⟩ | ⟨v, hv, -⟩ := htrim
  · refine ⟨u, hu, hrest, ?_⟩
    have hlength := congrArg List.length hu
    simp only [List.length_append] at hlength
    cases h : u.getLast? with
    | none =>
        rw [List.getLast?_eq_none_iff] at h
        rw [h, List.length_nil] at hlength
        have : w = [] := List.eq_nil_of_length_eq_zero (by omega)
        simp [this] at hw
    | some d =>
        refine ⟨d, rfl, ?_⟩
        have hlast := congrArg List.getLast? hu
        rw [List.getLast?_append, List.getLast?_append, h, hw] at hlast
        cases hbare : (trim t).getLast? with
        | none =>
            rw [hbare] at hlast
            obtain rfl : c = d := Option.some.inj hlast
            exact hc
        | some e =>
            rw [hbare] at hlast
            obtain rfl : e = d := Option.some.inj hlast
            exact (bare_trim t).last e hbare
  · have hlength := congrArg List.length hv
    simp only [List.length_append] at hlength
    have : w = [] := List.eq_nil_of_length_eq_zero (by omega)
    simp [this] at hw

/-- A text that can be shifted over `w` with and without the blanks at its ends has none. -/
theorem trim_eq_self_of_shift {w rest post : List Char} {c : Char} (hw : w.getLast? = some c)
    (hc : isBlank c = false) (ht : t ++ rest = w ++ t ++ post)
    (htrim : trim t ++ rest = w ++ trim t ++ post) : trim t = t := by
  obtain ⟨u, hu, rfl, d, hd, hplain⟩ := exists_shifted hw hc htrim
  obtain ⟨back, hback, hblank⟩ :=
    exists_eq_trim_append (List.ne_nil_of_mem (List.mem_of_getLast? hw)) ht htrim
  have hcommute : back ++ u = u ++ back := by
    rw [hback, ← List.append_assoc, ← List.append_assoc w, hu, List.append_cancel_right_eq,
      List.append_assoc, List.append_assoc] at ht
    exact List.append_cancel_left ht
  cases h : back.getLast? with
  | none =>
      rw [List.getLast?_eq_none_iff] at h
      rw [h, List.append_nil] at hback
      exact hback.symm
  | some e =>
      -- `d` ends one side and the blank `e` the other.
      have hlast := congrArg List.getLast? hcommute
      rw [List.getLast?_append, List.getLast?_append, h, hd] at hlast
      obtain rfl : d = e := Option.some.inj hlast
      have := hblank d (List.mem_of_getLast? h)
      rw [hplain] at this
      cases this

/-- Two places of a text, the first of which starts before the second, have a text between their
starts. -/
theorem exists_between {pre post before after : List Char}
    (h : pre ++ t ++ post = before ++ t ++ after) (hlt : before.length < pre.length) :
    ∃ w, w ≠ [] ∧ pre = before ++ w ∧ t ++ after = w ++ t ++ post := by
  rw [List.append_assoc, List.append_assoc, List.append_eq_append_iff] at h
  obtain ⟨w, hbefore, -⟩ | ⟨w, hpre, hrest⟩ := h
  · rw [hbefore, List.length_append] at hlt
    omega
  · refine ⟨w, ?_, hpre, by rw [hrest, List.append_assoc]⟩
    rintro rfl
    rw [hpre, List.append_nil] at hlt
    exact Nat.lt_irrefl _ hlt

/-- A text that is repeated after `w` and starts like it has only characters of `w`. -/
theorem mem_of_prefix_append {w : List Char} (hw : w ≠ []) (h : t <+: w ++ t) :
    ∀ c ∈ t, c ∈ w := by
  induction hn : t.length using Nat.strong_induction_on generalizing t with
  | h n ih =>
      intro c hc
      by_cases hle : t.length ≤ w.length
      · exact (List.prefix_of_prefix_length_le h (List.prefix_append w t) hle).subset hc
      · -- Take `w` off the front and start again.
        obtain ⟨rest, rfl⟩ := List.prefix_of_prefix_length_le (List.prefix_append w t) h (by omega)
        have hrest : rest <+: w ++ rest := (List.prefix_append_right_inj w).1 h
        have hpos := List.length_pos_iff.2 hw
        rw [List.mem_append] at hc
        refine hc.elim id (ih rest.length ?_ hrest rfl c)
        rw [← hn, List.length_append]
        omega

/-! ## The repair -/

/-- A repair puts the trimmed target in the first place where the target stands. -/
theorem repairOf_bracketed (h : TargetAt p t q) :
    repairOf (bracketed (p ++ t ++ q)) =
      replaceFirst t (trim t) (['[', '['] ++ p ++ t ++ (q ++ [']', ']'])) := by
  simp only [repairOf, inside_bracketed, h.targetOf_eq]
  simp [bracketed]

/-- The target is trimmed in its place unless its blanks are taken off an earlier place. -/
theorem repairOf_eq_iff (h : TargetAt p t q) :
    repairOf (bracketed (p ++ t ++ q)) = bracketed (p ++ trim t ++ q) ↔
      trim t = t ∨ ¬ OccursEarlier p t q := by
  have hbracketed : ∀ m : List Char,
      bracketed (p ++ m ++ q) = ['[', '['] ++ p ++ m ++ (q ++ [']', ']']) := by
    intro m
    simp [bracketed]
  rw [repairOf_bracketed h, hbracketed]
  unfold OccursEarlier
  rw [hbracketed]
  constructor
  · intro hrepair
    by_cases hbare : trim t = t
    · exact .inl hbare
    · right
      intro hearlier
      obtain ⟨before, after, hlink, hlt⟩ := hearlier
      -- The repair changes the first place of the text, which lies before the target.
      obtain ⟨before', after', hlink', hle, hfirst⟩ :=
        exists_replaceFirst_eq (trim t) hlink
      have hlt' : before'.length < (['[', '['] ++ p).length := by
        simp only [List.length_append, List.length_cons, List.length_nil]
        omega
      obtain ⟨w, hw, hpre, hshift⟩ := exists_between hlink' hlt'
      have htrim : trim t ++ after' = w ++ trim t ++ (q ++ [']', ']']) := by
        rw [hfirst, hpre] at hrepair
        simpa using hrepair
      obtain ⟨c, hc, hplain⟩ := h.getLast?_before
      rw [hpre, List.getLast?_append, List.getLast?_eq_some_getLast hw, Option.some_or] at hc
      exact hbare (trim_eq_self_of_shift
        ((List.getLast?_eq_some_getLast hw).trans hc) hplain hshift htrim)
  · intro h
    obtain hbare | hnone := h
    · rw [hbare]
      exact replaceFirst_self
    · apply replaceFirst_append
      intro before after hlink
      by_contra hlt
      refine hnone ⟨before, after, hlink, ?_⟩
      simp only [List.length_append, List.length_cons, List.length_nil] at hlt
      omega

/-- A target that comes first between the brackets is trimmed in its place. Its text can be read
earlier only if it consists of brackets. -/
theorem repairOf_eq_of_first (h : TargetAt [] t q) :
    repairOf (bracketed ([] ++ t ++ q)) = bracketed ([] ++ trim t ++ q) := by
  rw [repairOf_eq_iff h]
  by_cases hearlier : OccursEarlier [] t q
  · left
    obtain ⟨before, after, hlink, hlt⟩ := hearlier
    have hlink' : ['[', '['] ++ t ++ (q ++ [']', ']']) = before ++ t ++ after := by
      rw [← hlink]
      simp [bracketed]
    obtain ⟨w, hw, hpre, hshift⟩ := exists_between hlink' hlt
    have hstarts : t <+: w ++ t ++ (q ++ [']', ']']) := by
      rw [← hshift]
      exact List.prefix_append _ _
    have hprefix : t <+: w ++ t :=
      List.prefix_of_prefix_length_le hstarts (List.prefix_append _ _) (by simp)
    have hbracket : ∀ c ∈ t, c = '[' := by
      intro c hc
      have : c ∈ ['[', '['] := by
        rw [hpre]
        exact List.mem_append_right _ (mem_of_prefix_append hw hprefix c hc)
      simpa using this
    rw [trim_eq_self_iff]
    constructor
    · intro c hc
      rw [hbracket c (List.mem_of_mem_head? hc)]
      decide
    · intro c hc
      rw [hbracket c (List.mem_of_getLast? hc)]
      decide
  · exact .inr hearlier

/-- A link, character by character. -/
theorem toList_link (contents : String) :
    ("[[" ++ contents ++ "]]").toList = bracketed contents.toList := by
  simp [bracketed]

/-- A link of given characters. -/
theorem link_ofList (contents : List Char) :
    "[[" ++ String.ofList contents ++ "]]" = String.ofList (bracketed contents) := by
  rw [← String.toList_inj, toList_link, String.toList_ofList, String.toList_ofList]

/-- A bare target stays as it is. -/
theorem repairOf_of_trim_eq_self (h : TargetAt p t q) (hbare : trim t = t) :
    repairOf (bracketed (p ++ t ++ q)) = bracketed (p ++ t ++ q) := by
  rw [(repairOf_eq_iff h).2 (.inl hbare), hbare]

/-- The repair of a link `[[contents]]` trims the target in its place and changes nothing else
exactly if there is nothing to trim or the text of the target cannot be read before its place, as
it never can if the target comes first. Then the trimmed target is the target of the repaired
link, and a second repair changes nothing. -/
theorem repair_eq_trim_iff (contents : String) :
    (∃ p t q, TargetAt p t q ∧ contents.toList = p ++ t ++ q) ∧
    ∀ p t q, TargetAt p t q → contents.toList = p ++ t ++ q →
      let link := "[[" ++ contents ++ "]]"
      let trimmed := String.ofList (p ++ trim t ++ q)
      target contents = String.ofList t ∧
      (repair link = "[[" ++ trimmed ++ "]]" ↔ trim t = t ∨ ¬ OccursEarlier p t q) ∧
      (p = [] → repair link = "[[" ++ trimmed ++ "]]") ∧
      (repair link = "[[" ++ trimmed ++ "]]" →
        target trimmed = String.ofList (trim t) ∧ repair (repair link) = repair link) := by
  refine ⟨exists_targetAt contents.toList, ?_⟩
  intro p t q h hcontents link trimmed
  have hrepair : repair link = String.ofList (repairOf (bracketed (p ++ t ++ q))) := by
    rw [repair, toList_link, hcontents]
  have htrimmed : TargetAt p (trim t) q := h.of_infix (trim_isInfix t)
  rw [link_ofList, hrepair, String.ofList_inj]
  refine ⟨?_, repairOf_eq_iff h, ?_, ?_⟩
  · rw [target, hcontents, h.targetOf_eq]
  · rintro rfl
    exact repairOf_eq_of_first h
  · intro heq
    rw [heq]
    constructor
    · rw [target, String.toList_ofList, htrimmed.targetOf_eq]
    · rw [repair, String.toList_ofList, repairOf_of_trim_eq_self htrimmed (trim_trim t)]

/-- In the link `[[ a| a]]` the blank is taken off the text in front of the bar. -/
theorem repair_text_like_target :
    ¬ ∀ contents : String, ∀ p t q, TargetAt p t q → contents.toList = p ++ t ++ q →
      repair ("[[" ++ contents ++ "]]") = "[[" ++ String.ofList (p ++ trim t ++ q) ++ "]]" := by
  intro h
  have hcut : TargetAt ([' ', 'a'] ++ ['|']) [' ', 'a'] [] := .behindBar (by decide)
  have := h " a| a" _ _ _ hcut (by decide)
  revert this
  decide

end StoryLint.Link
