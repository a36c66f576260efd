/-!
# Results of steps

Steps that may fail are done one after another, and the first failure is that of all.
-/

namespace ClusterLifecycle

variable {ε α β : Type} {x : Except ε α} {f : α → Except ε β}

/-- Steps succeed together if each does with what the one before gave. -/
theorem bind_eq_ok_iff {b : β} : (x >>= f) = .ok b ↔ ∃ a, x = .ok a ∧ f a = .ok b := by
  cases x <;> simp [bind, Except.bind]

/-- Steps fail if the first one does, or if it succeeds and the rest fails. -/
theorem bind_eq_error_iff {e : ε} :
    (x >>= f) = .error e ↔ x = .error e ∨ ∃ a, x = .ok a ∧ f a = .error e := by
  cases x <;> simp [bind, Except.bind]

/-- A step that succeeds gives something. -/
theorem exists_eq_ok_of_isOk (h : x.isOk = true) : ∃ a, x = .ok a := by
  cases x with
  | ok a => exact ⟨a, rfl⟩
  | error e => cases h

end ClusterLifecycle
