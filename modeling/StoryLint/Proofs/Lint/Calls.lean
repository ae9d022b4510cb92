import StoryLint.Proofs.Lint.Report
import StoryLint.Proofs.Terminal.Device

/-!
# What linting asks of its device

Linting writes a report to a device in a guard, so that `Device.accounted_guarded` says which
calls it makes. `lintOn_calls` is the main result, for devices that fail at any calls and in any
way: linting flushes once, behind the reset, which stands behind the report. The last call that
failed gives the outcome, and the verdict on the story is the outcome only if no call failed, in
which case the report is complete.
-/

namespace StoryLint

open Device (Call Guarded closing lastFault? lastFault?_eq_none_iff)

variable {σ : Type}

/-- A verdict is no fault of the stream. -/
theorem verdict_ne_stream (result : StoryResult) (c : Classification) (fault : StreamFault) :
    verdict result c ≠ .error (.stream fault) := by
  unfold verdict
  split
  · split <;> simp
  · simp

/-- The outcome is a fault of the device exactly if there was one. -/
theorem StoryOutput.outcome_ne_stream_iff {output : StoryOutput} {policy : Policy}
    {fault? : Option StreamFault} :
    (∀ fault, output.outcome policy fault? ≠ .error (.stream fault)) ↔ fault? = none := by
  cases fault? with
  | none => simpa using! verdict_ne_stream output.result (output.classification policy)
  | some fault => simp [StoryOutput.outcome]

/-- Whatever the device does, linting asks for the texts of the report up to the first fault, then
for the reset where colour is on, then for one flush. The outcome is the fault of the last call
that failed, and the verdict on the story only if all calls of the complete report succeeded. -/
theorem lintOn_calls (device : Device σ) (output : StoryOutput) (config : Config) (s : σ) :
    let colored := config.color.enabledFor (device.terminal s)
    let texts := output.reportTexts config colored
    ∃ outcome after records calls,
      lintOn device output config s = (outcome, after, records) ∧
      lintOn device.logged output config (s, []) = (outcome, (after, calls), records) ∧
      Guarded texts colored calls ∧
      (calls.map Call.request).count .flush = 1 ∧
      outcome =
        (match lastFault? calls with
        | some fault => .error (.stream fault)
        | none => verdict output.result (output.classification config.policy)) ∧
      ((∀ fault, outcome ≠ .error (.stream fault)) →
        calls.map Call.request = texts.map .write ++ (closing colored ++ [.flush]) ∧
          ∀ call ∈ calls, call.fault? = none) := by
  intro colored texts
  obtain ⟨calls, haccount, hguarded⟩ := Device.accounted_guarded device colored texts s
  have hlogged := haccount.logged_eq []
  have hfault := haccount.fault_eq
  cases hreport : device.guarded colored id (device.writeAll texts) s with
  | mk fault after =>
      rw [hreport] at hlogged hfault
      refine ⟨output.outcome config.policy fault, after, output.records config.policy fault, calls,
        lintOn_eq hreport, lintOn_eq hlogged, hguarded, hguarded.count_flush,
        congrArg (output.outcome config.policy) hfault, ?_⟩
      intro hverdict
      have hnone : ∀ call ∈ calls, call.fault? = none := by
        rw [← lastFault?_eq_none_iff, ← hfault]
        exact StoryOutput.outcome_ne_stream_iff.1 hverdict
      exact ⟨hguarded.requests_eq hnone, hnone⟩

end StoryLint
