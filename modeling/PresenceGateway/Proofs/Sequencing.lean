/-!
Computations that may fail, one after the other.

The second computation runs on the result of the first, and the first failure is the failure of
both.
-/
namespace PresenceGateway

variable {ε α β : Type}

theorem bind_eq_ok_iff {first : Except ε α} {second : α → Except ε β} {result : β} :
    (first >>= second) = .ok result ↔
      ∃ middle, first = .ok middle ∧ second middle = .ok result := by
  cases first with
  | error cause => simp [bind, Except.bind]
  | ok middle => simp [bind, Except.bind]

theorem bind_eq_error_iff {first : Except ε α} {second : α → Except ε β} {cause : ε} :
    (first >>= second) = .error cause ↔
      first = .error cause ∨ ∃ middle, first = .ok middle ∧ second middle = .error cause := by
  cases first with
  | error cause => simp [bind, Except.bind]
  | ok middle => simp [bind, Except.bind]

/-- A check that stands before the rest of a computation. -/
theorem guard_eq_ok_iff {refused : Prop} [Decidable refused] {cause : ε} {after : α → Except ε β}
    {rest : Except ε β} {result : β} :
    (if refused then .error cause >>= after else rest) = .ok result ↔
      ¬ refused ∧ rest = .ok result := by
  by_cases failed : refused
  · rw [if_pos failed]
    exact iff_of_false (fun impossible => by cases impossible) fun both => both.1 failed
  · rw [if_neg failed]
    exact (and_iff_right failed).symm

/-- A computation that may fail has a result or a cause. -/
theorem ok_or_error (computation : Except ε α) :
    (∃ result, computation = .ok result) ∨ ∃ cause, computation = .error cause := by
  cases computation with
  | error cause => exact .inr ⟨cause, rfl⟩
  | ok result => exact .inl ⟨result, rfl⟩

end PresenceGateway
