/-!
# Computations that succeed

A sequence of computations succeeds exactly when each of them does, and behind a
guard only if that lets it pass.  It fails where the first of them fails.
-/

namespace Except

variable {ε α β : Type}

theorem bind_eq_ok_iff {x : Except ε α} {f : α → Except ε β} {b : β} :
    x >>= f = .ok b ↔ ∃ a, x = .ok a ∧ f a = .ok b := by
  cases x with
  | error e => simp [bind, Except.bind]
  | ok a => simp [bind, Except.bind]

theorem map_eq_ok_iff {x : Except ε α} {f : α → β} {b : β} :
    x.map f = .ok b ↔ ∃ a, x = .ok a ∧ f a = b := by
  cases x with
  | error e => simp [Except.map]
  | ok a => simp [Except.map]

theorem bind_eq_error_iff {x : Except ε α} {f : α → Except ε β} {e : ε} :
    x >>= f = .error e ↔ x = .error e ∨ ∃ a, x = .ok a ∧ f a = .error e := by
  cases x with
  | error e => simp [bind, Except.bind]
  | ok a => simp [bind, Except.bind]

theorem map_eq_error_iff {x : Except ε α} {f : α → β} {e : ε} :
    x.map f = .error e ↔ x = .error e := by
  cases x with
  | error e => simp [Except.map]
  | ok a => simp [Except.map]

/-- A computation behind a guard succeeds if the guard lets it pass and it succeeds. -/
theorem guard_bind_eq_ok_iff {p : Prop} [Decidable p] {e : ε} {rest : PUnit → Except ε α} {a : α} :
    (if p then throw e >>= rest else rest ⟨⟩) = .ok a ↔ ¬p ∧ rest ⟨⟩ = .ok a := by
  by_cases h : p
  · rw [if_pos h]
    exact iff_of_false nofun fun passed => passed.1 h
  · rw [if_neg h]
    exact (and_iff_right h).symm

end Except
