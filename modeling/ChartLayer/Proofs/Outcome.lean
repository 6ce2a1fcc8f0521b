/-!
# Outcomes of steps that can fail

* `exists_of_bind_ok`: an operation of two steps that succeeds is taken apart into both.
* `length_successes_add_failures`: a list of outcomes is one of successes and one of failures, and
  none gets lost.
-/

namespace ChartLayer

variable {ε α β : Type}

/-- A result of two steps is one of the second, after one of the first. -/
theorem exists_of_bind_ok {first : Except ε α} {second : α → Except ε β} {b : β}
    (h : first >>= second = .ok b) : ∃ a, first = .ok a ∧ second a = .ok b := by
  cases first with
  | error e => cases h
  | ok a => exact ⟨a, rfl, h⟩

theorem exists_ok_of_isOk {outcome : Except ε α} (h : outcome.isOk = true) :
    ∃ a, outcome = .ok a := by
  cases outcome with
  | error e => cases h
  | ok a => exact ⟨a, rfl⟩

theorem exists_ok_of_any {outcome : Except ε α} {p : α → Bool}
    (h : outcome.toOption.any p = true) : ∃ a, outcome = .ok a ∧ p a = true := by
  cases outcome with
  | error e => cases h
  | ok a => exact ⟨a, rfl, h⟩

/-- Why an operation failed, if it did. -/
def failure? : Except ε α → Option ε
  | .ok _ => none
  | .error e => some e

theorem length_successes_add_failures (outcomes : List (Except ε α)) :
    (outcomes.filterMap Except.toOption).length + (outcomes.filterMap failure?).length =
      outcomes.length := by
  induction outcomes with
  | nil => rfl
  | cons outcome rest ih =>
    cases outcome <;>
      simp only [List.filterMap_cons, Except.toOption, failure?, List.length_cons] <;> omega

end ChartLayer
