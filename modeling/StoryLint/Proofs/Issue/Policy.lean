import StoryLint.Issue.Classify
import StoryLint.Proofs.Issue.Order

/-!
# What a policy does to a report

A policy hides issues and marks them; it does not reorder them. `sorted_issues_eq_filterMap_review`
compares the report under a policy with the one under the empty policy, although the issues are
sorted only after the hidden ones are gone. The issues that are left are arranged in both reports
by the same comparison (`Order.Arranged.filterMap`), and a list has one arrangement.

`isFailure_iff` says when a run fails, from which it follows that allowing names cannot make a run
fail and denying names cannot make it pass.
-/

namespace StoryLint

namespace Policy

/-- What a policy makes of an issue: an error stays, a warning is dropped if it is allowed and
else is denied or not. -/
def review (policy : Policy) : Issue → Option Issue
  | .error e => some (.error e)
  | .warning w _ =>
      if everything ∈ policy.allowed ∨ w.name ∈ policy.allowed then none
      else some (.warning w (decide (everything ∈ policy.denied ∨ w.name ∈ policy.denied)))

/-- A policy allows a name if it allows all names or lists this one. -/
theorem allows_iff {policy : Policy} {name : String} :
    policy.allows name = true ↔ everything ∈ policy.allowed ∨ name ∈ policy.allowed := by
  simp [allows]

/-- A policy denies a name if it denies all names or lists this one. -/
theorem denies_iff {policy : Policy} {name : String} :
    policy.denies name = true ↔ everything ∈ policy.denied ∨ name ∈ policy.denied := by
  simp [denies]

/-- Allowing more names allows more warnings. -/
theorem allows_mono {policy policy' : Policy} {name : String}
    (h : policy.allowed ⊆ policy'.allowed) (hallows : policy.allows name = true) :
    policy'.allows name = true := by
  rw [allows_iff] at *
  exact hallows.imp (@h _) (@h _)

/-- Denying more names denies more warnings. -/
theorem denies_mono {policy policy' : Policy} {name : String}
    (h : policy.denied ⊆ policy'.denied) (hdenies : policy.denies name = true) :
    policy'.denies name = true := by
  rw [denies_iff] at *
  exact hdenies.imp (@h _) (@h _)

/-- The empty policy keeps every warning and denies none. -/
theorem verdict_empty (w : Warning) : ({} : Policy).verdict? w = some (.warning w false) := by
  simp [verdict?, allows, denies]

/-- The verdict on a warning is the review of the warning, whatever mark it had. -/
theorem verdict_eq_review (policy : Policy) (w : Warning) (denied : Bool) :
    policy.verdict? w = policy.review (.warning w denied) := by
  simp [verdict?, review, allows, denies]

/-- A review leaves an issue in its place. -/
theorem context_of_review {policy : Policy} {issue issue' : Issue}
    (h : policy.review issue = some issue') : issue'.context = issue.context := by
  cases issue with
  | error e => rw [← Option.some.inj h]
  | warning w denied =>
      simp only [review] at h
      split at h
      · cases h
      · rw [← Option.some.inj h]
        rfl

end Policy

namespace Classification

variable {result : StoryResult} {warnings : List Warning} {policy policy' : Policy}

/-- The issues under a policy, before sorting, are those under the empty policy, reviewed. -/
theorem issues_eq_filterMap_review :
    (ofResult result warnings policy).issues =
      (ofResult result warnings {}).issues.filterMap policy.review := by
  have hwarnings : warnings.filterMap policy.verdict? =
      (warnings.filterMap ({} : Policy).verdict?).filterMap policy.review := by
    rw [List.filterMap_filterMap]
    congr 1
    funext w
    rw [Policy.verdict_empty, Option.bind_some, Policy.verdict_eq_review policy w false]
  have herrors : result.errorList.map Issue.error =
      (result.errorList.map Issue.error).filterMap policy.review := by
    rw [List.filterMap_map, ← List.filterMap_eq_map]
    rfl
  simp only [ofResult, List.filterMap_append]
  rw [hwarnings, ← herrors]

/-- A run fails if a warning is denied without being allowed, or if there is no story. -/
theorem isFailure_iff :
    (ofResult result warnings policy).isFailure = true ↔
      (∃ w ∈ warnings, policy.allows w.name = false ∧ policy.denies w.name = true) ∨
        ∃ errors codeMap, result = .errors errors codeMap := by
  have hdenied : (warnings.filterMap policy.verdict?).any (·.severity = .error) = true ↔
      ∃ w ∈ warnings, policy.allows w.name = false ∧ policy.denies w.name = true := by
    rw [List.any_eq_true]
    constructor
    · intro hany
      obtain ⟨issue, hissue, hsevere⟩ := hany
      obtain ⟨w, hw, hverdict⟩ := List.mem_filterMap.1 hissue
      simp only [Policy.verdict?] at hverdict
      split at hverdict
      · cases hverdict
      · rename_i hallows
        obtain rfl := Option.some.inj hverdict
        exact ⟨w, hw, Bool.eq_false_iff.2 hallows, by simpa [Issue.severity] using hsevere⟩
    · intro hexists
      obtain ⟨w, hw, hallows, hdenies⟩ := hexists
      refine ⟨.warning w true, List.mem_filterMap.2 ⟨w, hw, ?_⟩, rfl⟩
      simp [Policy.verdict?, hallows, hdenies]
  simp only [ofResult, Bool.or_eq_true, hdenied]
  cases result <;> simp

/-- A run that fails goes on failing if fewer names are allowed and more names are denied. -/
theorem isFailure_mono (hallowed : policy'.allowed ⊆ policy.allowed)
    (hdenied : policy.denied ⊆ policy'.denied)
    (h : (ofResult result warnings policy).isFailure = true) :
    (ofResult result warnings policy').isFailure = true := by
  rw [isFailure_iff] at *
  refine h.imp_left ?_
  intro hwarning
  obtain ⟨w, hw, hallows, hdenies⟩ := hwarning
  refine ⟨w, hw, ?_, Policy.denies_mono hdenied hdenies⟩
  rw [Bool.eq_false_iff] at *
  exact mt (Policy.allows_mono hallowed) hallows

/-- A policy hides and marks issues and leaves their order alone: the report under a policy is the
report under the empty policy, reviewed issue by issue. A run that fails goes on failing if fewer
names are allowed or more names are denied. -/
theorem sorted_issues_eq_filterMap_review (result : StoryResult) (warnings : List Warning)
    (policy : Policy) :
    (ofResult result warnings policy).sorted.issues =
        (ofResult result warnings {}).sorted.issues.filterMap policy.review ∧
      ∀ policy' : Policy, policy'.allowed ⊆ policy.allowed → policy.denied ⊆ policy'.denied →
        (ofResult result warnings policy).sorted.isFailure = true →
          (ofResult result warnings policy').sorted.isFailure = true := by
  constructor
  · simp only [sorted]
    rw [issues_eq_filterMap_review, Issue.sort_filterMap Policy.context_of_review]
  · intro policy' hallowed hdenied hfails
    exact isFailure_mono hallowed hdenied hfails

/-- A dead link that is allowed leaves the list. -/
theorem sorted_issues_allowed_dead_link :
    let result : StoryResult := .story { codeMap := {} }
    let warnings : List Warning := [{ kind := .deadLink }, { kind := .unclosedLink }]
    let policy : Policy := { allowed := ["dead-link"], denied := ["unclosed-link"] }
    let stricter : Policy := { denied := ["all", "unclosed-link"] }
    (ofResult result warnings policy).sorted.issues =
        (ofResult result warnings {}).sorted.issues.filterMap policy.review ∧
      (ofResult result warnings stricter).sorted.isFailure = true := by
  intro result warnings policy stricter
  obtain ⟨hissues, hfails⟩ := sorted_issues_eq_filterMap_review result warnings policy
  refine ⟨hissues, hfails stricter (by simp [stricter]) (by simp [policy, stricter]) ?_⟩
  simp [result, warnings, policy, sorted, ofResult, Policy.verdict?, Policy.allows, Policy.denies,
    Policy.everything, Warning.name, WarningKind.name, Issue.severity]

end Classification

end StoryLint
