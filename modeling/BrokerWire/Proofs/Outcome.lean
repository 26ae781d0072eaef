/-!
# Outcomes of steps in order

A step that may fail hands its result to the next one, and the first failure is the outcome of the
whole.
-/
namespace BrokerWire

variable {ε α β γ : Type}

/-- What follows a step that succeeds goes on with its result. -/
@[simp] theorem ok_bind (found : α) (next : α → Except ε β) :
    (.ok found : Except ε α) >>= next = next found := rfl

/-- Nothing follows a step that fails. -/
@[simp] theorem error_bind (fault : ε) (next : α → Except ε β) :
    (.error fault : Except ε α) >>= next = .error fault := rfl

/-- A step and what follows it succeed exactly when the step does, and then what follows. -/
theorem bind_eq_ok_iff {step : Except ε α} {next : α → Except ε β} {result : β} :
    step >>= next = .ok result ↔ ∃ found, step = .ok found ∧ next found = .ok result := by
  cases step with
  | error fault => simp [bind, Except.bind]
  | ok found => simp [bind, Except.bind]

/-- A step and what follows it fail exactly when the step does, or else what follows. -/
theorem bind_eq_error_iff {step : Except ε α} {next : α → Except ε β} {fault : ε} :
    step >>= next = .error fault ↔
      step = .error fault ∨ ∃ found, step = .ok found ∧ next found = .error fault := by
  cases step with
  | error fault => simp [bind, Except.bind]
  | ok found => simp [bind, Except.bind]

/-- What is made of the result of two steps is made of the result of the second. -/
theorem map_bind_eq (make : β → γ) (step : Except ε α) (next : α → Except ε β) :
    (step >>= next).map make = step >>= fun found => (next found).map make := by
  cases step <;> rfl

end BrokerWire
