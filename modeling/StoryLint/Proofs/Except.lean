/-!
# Steps that may fail

What a chain of steps gives, as equivalences: it fails with the error of the first step that fails,
and succeeds if every step does.
-/

namespace StoryLint

variable {ε α β : Type}

/-- Two steps fail if the first fails, or the second after it. -/
theorem bind_eq_error_iff {x : Except ε α} {f : α → Except ε β} {e : ε} :
    (x >>= f) = .error e ↔ x = .error e ∨ ∃ a, x = .ok a ∧ f a = .error e := by
  cases x <;> simp [bind, Except.bind]

/-- Two steps succeed if the first does, and the second after it. -/
theorem bind_eq_ok_iff {x : Except ε α} {f : α → Except ε β} {b : β} :
    (x >>= f) = .ok b ↔ ∃ a, x = .ok a ∧ f a = .ok b := by
  cases x <;> simp [bind, Except.bind]

/-- A function of the value of a step adds no error. -/
theorem map_eq_error_iff {f : α → β} {x : Except ε α} {e : ε} :
    (f <$> x) = .error e ↔ x = .error e := by
  cases x <;> simp [Functor.map, Except.map]

/-- A value is no error. -/
@[simp] theorem pure_ne_error {a : α} {e : ε} : (pure a : Except ε α) ≠ .error e := by
  simp [pure, Except.pure]

/-- An error that is thrown is the answer. -/
@[simp] theorem throw_eq_error_iff {e e' : ε} :
    (throw e : Except ε α) = .error e' ↔ e = e' := by
  simp [throw, throwThe, MonadExceptOf.throw]

end StoryLint
