/-!
# How a composed operation ends

Most operations of the program are put together from others of which each can fail. What is put
together succeeds when all its parts do, and fails as the first part that fails. These lemmas take
such an ending apart.
-/

namespace Backtick

variable {ε ε' α β : Type} {r : Except ε α}

theorem map_eq_ok {f : α → β} {y : β} : r.map f = .ok y ↔ ∃ x, r = .ok x ∧ f x = y := by
  cases r <;> simp [Except.map]

theorem map_eq_error {f : α → β} {e : ε} : r.map f = .error e ↔ r = .error e := by
  cases r <;> simp [Except.map]

@[simp] theorem mapError_eq_ok {f : ε → ε'} {x : α} : r.mapError f = .ok x ↔ r = .ok x := by
  cases r with
  | error e => exact ⟨nofun, nofun⟩
  | ok y => exact ⟨congrArg _ ∘ Except.ok.inj, congrArg _ ∘ Except.ok.inj⟩

theorem toOption_eq_some {x : α} : r.toOption = some x ↔ r = .ok x := by
  cases r <;> simp [Except.toOption]

theorem bind_eq_ok {f : α → Except ε β} {y : β} :
    r >>= f = .ok y ↔ ∃ x, r = .ok x ∧ f x = .ok y := by
  cases r <;> simp [bind, Except.bind]

theorem bind_eq_error {f : α → Except ε β} {e : ε} :
    r >>= f = .error e ↔ r = .error e ∨ ∃ x, r = .ok x ∧ f x = .error e := by
  cases r <;> simp [bind, Except.bind]

end Backtick
