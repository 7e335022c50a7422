/-!
# Attempts

Readers and operations may fail, and what they do is put together from steps that may fail. These
lemmas open such a composition where it is known to have succeeded: each step did, and its value is
what the next one got.

* `TaskDaemon.Attempt.map_eq_ok_iff`, `TaskDaemon.Attempt.bind_eq_ok_iff`: the two ways of going on;
* `TaskDaemon.Attempt.mapError_eq_ok_iff`: another word for an error is no success;
* `TaskDaemon.Attempt.ok_eq_ok_iff`: a success is a value that is there.
-/

namespace TaskDaemon

namespace Attempt

variable {ε ε' α β : Type}

theorem map_eq_ok_iff {x : Except ε α} {f : α → β} {b : β} :
    x.map f = .ok b ↔ ∃ a, x = .ok a ∧ f a = b := by
  cases x <;> simp [Except.map]

theorem bind_eq_ok_iff {x : Except ε α} {f : α → Except ε β} {b : β} :
    x >>= f = .ok b ↔ ∃ a, x = .ok a ∧ f a = .ok b := by
  cases x <;> simp [bind, Except.bind]

theorem mapError_eq_ok_iff {x : Except ε α} {f : ε → ε'} {a : α} :
    x.mapError f = .ok a ↔ x = .ok a := by
  cases x with
  | ok b => exact ⟨fun h => congrArg _ (Except.ok.inj h), fun h => congrArg _ (Except.ok.inj h)⟩
  | error e => exact ⟨nofun, nofun⟩

/-- A success in one form is one in the other. -/
theorem ok_eq_ok_iff {a b : α} : (Except.ok a : Except ε α) = .ok b ↔ some a = some b := by
  rw [Except.ok.injEq, Option.some.injEq]

end Attempt

end TaskDaemon
