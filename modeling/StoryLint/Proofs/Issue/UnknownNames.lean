import StoryLint.Lint
import StoryLint.Proofs.Issue.Policy
import StoryLint.Proofs.Order.FirstOccurrence

/-!
# Names that mean nothing

A policy may hold names that no kind of warning has. `Config.unknownNames_without_effect` is the
main result: these names are listed once each, in the order in which they first occur, and linting
comes to the same without them.

What a policy does to a warning is asked for the name of its kind and for the name that stands for
every warning. Both are known, so two policies that agree on the known names classify alike
(`Classification.ofResult_congr`).
-/

namespace StoryLint

/-! ## Known names -/

/-- Every kind of warning is listed. -/
theorem WarningKind.mem_all (kind : WarningKind) : kind ∈ all := by
  cases kind <;> decide

namespace Policy

variable {policy policy' : Policy} {name : String}

/-- The names of a policy: first those to ignore, then those to deny. -/
def names (policy : Policy) : List String :=
  policy.allowed ++ policy.denied

/-- A policy without the names that mean nothing. -/
def withoutUnknownNames (policy : Policy) : Policy :=
  { allowed := policy.allowed.filter (· ∉ policy.unknownNames)
    denied := policy.denied.filter (· ∉ policy.unknownNames) }

/-- Two policies hold the same known names. -/
structure AgreesOnKnown (policy policy' : Policy) : Prop where
  allowed : ∀ name, isKnown name = true → (name ∈ policy.allowed ↔ name ∈ policy'.allowed)
  denied : ∀ name, isKnown name = true → (name ∈ policy.denied ↔ name ∈ policy'.denied)

/-- The known names are `all` and those of the kinds of warnings. -/
theorem isKnown_iff :
    isKnown name = true ↔ name = "all" ∨ ∃ kind : WarningKind, kind.name = name := by
  rw [isKnown, Bool.or_eq_true, decide_eq_true_iff, everything]
  simp [WarningKind.mem_all]

/-- The word for all names is known. -/
theorem isKnown_everything : isKnown everything = true :=
  isKnown_iff.2 (.inl rfl)

/-- The name of a warning is known. -/
theorem isKnown_warning (w : Warning) : isKnown w.name = true :=
  isKnown_iff.2 (.inr ⟨w.kind, rfl⟩)

/-- The unknown names of a policy are those it holds that are not known. -/
theorem mem_unknownNames_iff :
    name ∈ policy.unknownNames ↔ name ∈ policy.names ∧ isKnown name = false := by
  rw [unknownNames, List.mem_eraseDups, List.mem_filter, Bool.not_eq_true', names]

/-- The unknown names stand in the order of their first occurrences. -/
theorem pairwise_idxOf_unknownNames (policy : Policy) :
    policy.unknownNames.Pairwise fun a b => policy.names.idxOf a < policy.names.idxOf b := by
  rw [unknownNames, Order.eraseDups_filter]
  exact (Order.pairwise_idxOf_eraseDups policy.names).filter _

/-- Taking the unknown names out takes out no known one. -/
theorem agreesOnKnown_withoutUnknownNames (policy : Policy) :
    policy.withoutUnknownNames.AgreesOnKnown policy := by
  have hknown : ∀ name, isKnown name = true → name ∉ policy.unknownNames := by
    intro name hname hunknown
    rw [(mem_unknownNames_iff.1 hunknown).2] at hname
    cases hname
  constructor
  · intro name hname
    simp [withoutUnknownNames, hknown name hname]
  · intro name hname
    simp [withoutUnknownNames, hknown name hname]

namespace AgreesOnKnown

/-- Policies with the same known names allow the same ones of them. -/
theorem allows_eq (h : policy.AgreesOnKnown policy') (hname : isKnown name = true) :
    policy.allows name = policy'.allows name := by
  rw [Bool.eq_iff_iff, allows_iff, allows_iff, h.allowed _ isKnown_everything,
    h.allowed name hname]

/-- Policies with the same known names deny the same ones of them. -/
theorem denies_eq (h : policy.AgreesOnKnown policy') (hname : isKnown name = true) :
    policy.denies name = policy'.denies name := by
  rw [Bool.eq_iff_iff, denies_iff, denies_iff, h.denied _ isKnown_everything,
    h.denied name hname]

/-- Policies with the same known names have the same verdict on every warning. -/
theorem verdict?_eq (h : policy.AgreesOnKnown policy') (w : Warning) :
    policy.verdict? w = policy'.verdict? w := by
  rw [verdict?, verdict?, h.allows_eq (isKnown_warning w), h.denies_eq (isKnown_warning w)]

end AgreesOnKnown

end Policy

/-- Policies that hold the same known names classify alike. -/
theorem Classification.ofResult_congr {policy policy' : Policy}
    (h : policy.AgreesOnKnown policy') (result : StoryResult) (warnings : List Warning) :
    ofResult result warnings policy = ofResult result warnings policy' := by
  simp only [ofResult, funext h.verdict?_eq]

namespace Config

/-- A configuration without the names that mean nothing. -/
def withoutUnknownNames (config : Config) : Config :=
  { config with policy := config.policy.withoutUnknownNames }

/-- The names of a configuration that are neither `all` nor that of a warning kind are listed once
each, in the order of their first occurrences. Without them every story is classified as before, and
so linting reports the same issues and comes to the same verdict. -/
theorem unknownNames_without_effect (config : Config) :
    (∀ name, name ∈ config.policy.unknownNames ↔
      (name ∈ config.policy.allowed ∨ name ∈ config.policy.denied) ∧
        name ≠ "all" ∧ ∀ kind : WarningKind, kind.name ≠ name) ∧
    config.policy.unknownNames.Nodup ∧
    config.policy.unknownNames.Pairwise (fun a b =>
      (config.policy.allowed ++ config.policy.denied).idxOf a <
        (config.policy.allowed ++ config.policy.denied).idxOf b) ∧
    (∀ result warnings,
      Classification.ofResult result warnings config.withoutUnknownNames.policy =
        Classification.ofResult result warnings config.policy) ∧
    ∀ (σ : Type) (device : Device σ) (output : StoryOutput) (s : σ),
      lintOn device output config.withoutUnknownNames s = lintOn device output config s := by
  have horder := config.policy.pairwise_idxOf_unknownNames
  have hclassify := Classification.ofResult_congr
    config.policy.agreesOnKnown_withoutUnknownNames
  refine ⟨fun name => ?_, horder.imp fun hlt heq => ?_, horder, hclassify,
    fun σ device output s => ?_⟩
  · rw [Policy.mem_unknownNames_iff, Policy.names, List.mem_append, Bool.eq_false_iff, ne_eq,
      Policy.isKnown_iff, not_or, not_exists]
  · rw [heq] at hlt
    exact Nat.lt_irrefl _ hlt
  · rw [lintOn, lintOn, withoutUnknownNames, hclassify]

end Config

end StoryLint
