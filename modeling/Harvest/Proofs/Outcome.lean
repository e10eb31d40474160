/-! Outcomes of steps that may fail: what the outcome of a course of steps tells about each of them. -/

namespace Harvest

variable {ε α β : Type}

/-- A course of two steps succeeds if the first one does, and the second one with its result. -/
theorem ok_of_bind {first : Except ε α} {next : α → Except ε β} {result : β}
    (done : (first >>= next) = .ok result) : ∃ middle, first = .ok middle ∧ next middle = .ok result := by
  -- A failure of the first step is passed on.
  cases first with
  | error cause => cases done
  | ok middle => exact ⟨middle, rfl, done⟩

/-- A course of two steps fails because the first one does, or else the second one. -/
theorem error_of_bind {first : Except ε α} {next : α → Except ε β} {cause : ε}
    (failed : (first >>= next) = .error cause) :
    first = .error cause ∨ ∃ middle, first = .ok middle ∧ next middle = .error cause := by
  -- By the outcome of the first step.
  cases first with
  | error other => exact .inl (congrArg Except.error (Except.error.inj failed))
  | ok middle => exact .inr ⟨middle, rfl, failed⟩

/-- A result that is changed is there before. -/
theorem ok_of_map {change : α → β} {outcome : Except ε α} {result : β}
    (changed : outcome.map change = .ok result) : ∃ before, outcome = .ok before ∧ change before = result := by
  -- A failure stays one, whatever the change.
  cases outcome with
  | error cause => cases changed
  | ok before => exact ⟨before, rfl, Except.ok.inj changed⟩

/-- A change of the result leaves a failure as it is. -/
theorem error_of_map {change : α → β} {outcome : Except ε α} {cause : ε}
    (failed : outcome.map change = .error cause) : outcome = .error cause := by
  -- A result stays one, whatever the change.
  cases outcome with
  | error other => exact congrArg Except.error (Except.error.inj failed)
  | ok before => cases failed

end Harvest
