import StoryLint.Proofs.Issue.Report
import StoryLint.Proofs.Order.Key
import StoryLint.Story
import Mathlib.Algebra.Order.Ring.Unbundled.Rat

/-!
# Suggestions of similar names

The names that are suggested for a dead link are those of passages whose similarity to its target is
above a threshold. What is said of them holds for every similarity whose values are totally ordered,
so the similarity is a parameter here, of `Similarity.rank` and `Similarity.rankNote?`. What runs,
`didYouMean` and `deadLinkNote?`, is the case of one similarity and one threshold.

`Similarity.Ranks` says which list a ranking is: the names above the threshold, the most similar
first, and even ones in the given order. The note quotes the head of the ranking, and
`Ranks.exists_of_cons` finds it in the given list. `Similarity.suggests_most_similar` is the main
result.
-/

namespace StoryLint

namespace Similarity

/-! ## Rankings -/

/-- `Ranks score least candidates ranked` says that `ranked` has the candidates that score above
`least`, with repetitions, in descending order, and even ones in the given order. -/
structure Ranks {α β : Type} [LinearOrder β] (score : α → β) (least : β)
    (candidates ranked : List α) : Prop where
  perm : ranked.Perm (candidates.filter (least < score ·))
  descending : ranked.Pairwise fun a b => score b ≤ score a
  stable : ∀ s, ranked.filter (score · = s) =
    candidates.filter fun a => least < score a ∧ score a = s

namespace Ranks

variable {α β : Type} [LinearOrder β] {score : α → β} {least : β} {candidates ranked rest : List α}
  {best : α}

/-- The ranking holds the candidates above the bound, and no other ones. -/
theorem mem_iff (h : Ranks score least candidates ranked) {a : α} :
    a ∈ ranked ↔ a ∈ candidates ∧ least < score a := by
  rw [h.perm.mem_iff, List.mem_filter, decide_eq_true_eq]

/-- Nothing is ranked if nothing scores above the threshold. -/
theorem eq_nil_iff (h : Ranks score least candidates ranked) :
    ranked = [] ↔ ∀ a ∈ candidates, score a ≤ least := by
  simp only [List.eq_nil_iff_forall_not_mem, h.mem_iff, not_and, not_lt]

/-- The head of a ranking is the first of the candidates with the greatest score. -/
theorem exists_of_cons (h : Ranks score least candidates (best :: rest)) :
    ∃ before after, candidates = before ++ best :: after ∧ least < score best ∧
      (∀ a ∈ candidates, score a ≤ score best) ∧ ∀ a ∈ before, score a < score best := by
  have hbest : least < score best := (h.mem_iff.1 List.mem_cons_self).2
  have hgreatest : ∀ a ∈ candidates, score a ≤ score best := by
    intro a ha
    rcases le_or_gt (score a) least with hlow | habove
    · exact hlow.trans hbest.le
    rcases List.mem_cons.1 (h.mem_iff.2 ⟨ha, habove⟩) with rfl | ha
    · exact le_rfl
    · exact List.rel_of_pairwise_cons h.descending ha
  -- The ranking and the list agree on the candidates with this score, so both start with `best`.
  have heven := h.stable (score best)
  rw [List.filter_cons_of_pos (by simp)] at heven
  obtain ⟨before, after, hcandidates, hbefore, -, -⟩ := List.filter_eq_cons_iff.1 heven.symm
  refine ⟨before, after, hcandidates, hbest, hgreatest, fun a ha => ?_⟩
  have hle : score a ≤ score best := hgreatest a (by simp [hcandidates, ha])
  refine lt_of_le_of_ne hle fun heq => hbefore a ha ?_
  rw [decide_eq_true_eq, heq]
  exact ⟨hbest, rfl⟩

end Ranks

section Rank

variable {β : Type} [LinearOrder β] (similarity : String → String → β) (least : β) (value : String)
  (candidates : List String)

/-- The candidates that score above the threshold, with their scores, in the given order. -/
def scoredBy : List (β × String) :=
  (candidates.map fun name => (similarity value name, name)).filter fun (s, _) => least < s

/-- The candidates similar to a value, the most similar first. -/
def rank : List String :=
  (Order.descending (·.1) (scoredBy similarity least value candidates)).map (·.2)

/-- The note that quotes a name. -/
def note (name : String) : String :=
  "Found passage with similar name: \"" ++ name ++ "\""

/-- The note on a name, joined from the right. -/
theorem note_eq (name : String) :
    note name = "Found passage with similar name: \"" ++ (name ++ "\"") :=
  String.append_assoc ..

/-- The note that quotes the head of the ranking, if names are known. -/
def rankNote? (target : String) (names : Option (List String)) : Option String :=
  names.bind fun known => (rank similarity least target known).head?.map note

/-- Keeping the scores aside, the candidates themselves are sorted. -/
theorem rank_eq :
    rank similarity least value candidates =
      Order.descending (similarity value) (candidates.filter (least < similarity value ·)) := by
  have hscored : scoredBy similarity least value candidates =
      (candidates.filter (least < similarity value ·)).map fun name =>
        (similarity value name, name) := by
    rw [scoredBy, List.filter_map]
    rfl
  rw [rank, hscored, Order.descending_map, List.map_map]
  exact List.map_id _

/-- Sorting by similarity ranks the candidates. -/
theorem ranks_rank :
    Ranks (similarity value) least candidates (rank similarity least value candidates) := by
  rw [rank_eq]
  refine ⟨Order.perm_descending _ _, Order.pairwise_descending _ _, fun s => ?_⟩
  rw [Order.filter_descending, List.filter_filter]
  exact List.filter_congr fun name _ => by simp [and_comm]

example :
    rank (fun _ name => name.length) 2 "" ["Hall", "In", "Stairs", "Yard"] =
      ["Stairs", "Hall", "Yard"] := by
  cbv

variable {similarity least}

/-- There is no note exactly if no names are known or none is above the bound. -/
theorem rankNote?_eq_none_iff {target : String} {names : Option (List String)} :
    rankNote? similarity least target names = none ↔
      names = none ∨
        ∃ known, names = some known ∧ ∀ name ∈ known, similarity target name ≤ least := by
  cases names with
  | none => simp [rankNote?]
  | some known => simp [rankNote?, (ranks_rank similarity least target known).eq_nil_iff]

/-- A note is on the first of the most similar names. -/
theorem exists_of_rankNote?_eq_some {target text : String} {names : Option (List String)}
    (h : rankNote? similarity least target names = some text) :
    ∃ before name after, names = some (before ++ name :: after) ∧ text = note name ∧
      least < similarity target name ∧
      (∀ other ∈ before ++ name :: after, similarity target other ≤ similarity target name) ∧
      ∀ other ∈ before, similarity target other < similarity target name := by
  simp only [rankNote?, Option.bind_eq_some_iff, Option.map_eq_some_iff] at h
  obtain ⟨known, rfl, name, hhead, rfl⟩ := h
  obtain ⟨rest, hrank⟩ := List.head?_eq_some_iff.1 hhead
  have hranks := ranks_rank similarity least target known
  rw [hrank] at hranks
  obtain ⟨before, after, rfl, habove, hgreatest, hfirst⟩ := hranks.exists_of_cons
  exact ⟨before, name, after, rfl, rfl, habove, hgreatest, hfirst⟩

end Rank

/-! ## The suggestions of the library -/

/-- The names that are suggested are ranked by score. -/
theorem didYouMean_eq_rank : didYouMean = rank score threshold := rfl

/-- The note on a dead link is on the highest score. -/
theorem deadLinkNote?_eq_rankNote? : deadLinkNote? = rankNote? score threshold := rfl

/-- The advice to repair a link quotes no name: the texts differ in their first character. -/
theorem repairNote?_ne_note (link name : String) : Link.repairNote? link ≠ some (note name) := by
  intro h
  rw [Link.repairNote?, Option.ite_none_left_eq_some, Option.some.injEq] at h
  have htexts := congrArg String.toList h.2
  rw [note_eq] at htexts
  simp only [String.append_assoc, String.toList_append, String.reduceToList, List.cons_append,
    List.cons.injEq] at htexts
  exact absurd htexts.1 (by decide)

/-- For every similarity with values in a linear order, the ranking has exactly the candidates above
the threshold, the most similar first and even ones in the given order. It is what sorting the
scored list backwards by merging runs gives. There is no note exactly if no names are known or none
is above the threshold, and a note quotes the first name of those with the greatest similarity.
`didYouMean` and `deadLinkNote?` are the case of the score and its threshold. A report on a story
with errors never quotes a name: its notes are advice for links with blanks around their targets. -/
theorem suggests_most_similar :
    (∀ (β : Type) [LinearOrder β] (similarity : String → String → β) (least : β),
      (∀ value candidates,
        Ranks (similarity value) least candidates (rank similarity least value candidates) ∧
          rank similarity least value candidates =
            ((Order.sort (fun a b => decide (a.1 < b.1))
              (scoredBy similarity least value candidates).reverse).reverse).map (·.2)) ∧
      ∀ target names,
        (rankNote? similarity least target names = none ↔
          names = none ∨
            ∃ known, names = some known ∧ ∀ name ∈ known, similarity target name ≤ least) ∧
        ∀ text, rankNote? similarity least target names = some text →
          ∃ before name after, names = some (before ++ name :: after) ∧ text = note name ∧
            least < similarity target name ∧
            (∀ other ∈ before ++ name :: after,
              similarity target other ≤ similarity target name) ∧
            ∀ other ∈ before, similarity target other < similarity target name) ∧
    (didYouMean = rank score threshold ∧ deadLinkNote? = rankNote? score threshold) ∧
    ∀ (issue : Issue) (list : List ParseError) (map : CodeMap),
      ∀ text ∈ (issue.diagnostic (.ofResult (.errors list map))).notes,
        (∀ name, text ≠ note name) ∧
          ∃ w denied link, issue = .warning w denied ∧ w.kind = .whitespaceInLink ∧
            Link.repairNote? link = some text := by
  refine ⟨fun β _ similarity least => ⟨fun value candidates => ⟨ranks_rank .., ?_⟩,
    fun target names => ⟨rankNote?_eq_none_iff, fun text => exists_of_rankNote?_eq_some⟩⟩,
    ⟨didYouMean_eq_rank, deadLinkNote?_eq_rankNote?⟩, fun issue list map text htext => ?_⟩
  · rw [Order.reverse_sort_reverse, rank]
  · -- Without passage names there is no note for a dead link.
    obtain ⟨w, denied, hissue, ⟨-, target, -, hdead⟩ | ⟨hkind, c, -, hrepair⟩⟩ :=
      Issue.suggestion?_cases (Issue.suggestion?_of_mem_notes htext)
    · cases hdead
    · refine ⟨fun name hname => ?_, w, denied, c.contents, hissue, hkind, hrepair⟩
      rw [hname] at hrepair
      exact repairNote?_ne_note c.contents name hrepair

end Similarity

end StoryLint
