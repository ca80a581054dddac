/-!
# Steps that succeed or fail

A result that is computed in steps is there when each of them gives one. It fails with the fault of
the first that does not.
-/

set_option autoImplicit false

namespace PoolCheck

theorem mapError_eq_ok {ε ε' α : Type} {g : ε → ε'} {x : Except ε α} {r : α} :
    x.mapError g = .ok r ↔ x = .ok r := by
  cases x with
  | error e => exact ⟨fun h => (nomatch h), fun h => (nomatch h)⟩
  | ok a =>
    constructor
    · intro h
      cases h
      rfl
    · intro h
      cases h
      rfl

theorem toOption_eq_some {ε α : Type} {x : Except ε α} {r : α} :
    x.toOption = some r ↔ x = .ok r := by
  cases x <;> simp [Except.toOption]

theorem Except.ok_bind {ε α β : Type} (x : α) (f : α → Except ε β) : .ok x >>= f = f x := rfl

theorem Except.bind_eq_ok {ε α β : Type} {x : Except ε α} {f : α → Except ε β} {r : β} :
    x >>= f = .ok r ↔ ∃ y, x = .ok y ∧ f y = .ok r := by
  cases x with
  | error e => exact ⟨fun h => (nomatch h), fun ⟨_, h, _⟩ => (nomatch h)⟩
  | ok y => exact ⟨fun h => ⟨y, rfl, h⟩, fun ⟨_, h, h'⟩ => by cases h; exact h'⟩

theorem Except.bind_eq_error {ε α β : Type} {x : Except ε α} {f : α → Except ε β} {e : ε} :
    x >>= f = .error e ↔ x = .error e ∨ ∃ y, x = .ok y ∧ f y = .error e := by
  cases x with
  | error e' =>
    constructor
    · intro h
      cases h
      exact .inl rfl
    · rintro (h | ⟨_, h, _⟩)
      · cases h
        rfl
      · cases h
  | ok y =>
    constructor
    · intro h
      exact .inr ⟨y, rfl, h⟩
    · rintro (h | ⟨_, h, h'⟩)
      · cases h
      · cases h
        exact h'

theorem Except.check_bind_eq_ok {ε β : Type} {x : Except ε Unit} {f : Unit → Except ε β} {r : β} :
    x >>= f = .ok r ↔ x = .ok () ∧ f () = .ok r := by
  rw [Except.bind_eq_ok]
  exact ⟨fun ⟨_, h, h'⟩ => ⟨h, h'⟩, fun ⟨h, h'⟩ => ⟨(), h, h'⟩⟩

theorem mapError_eq_error {ε ε' α : Type} {g : ε → ε'} {x : Except ε α} {e : ε'} :
    x.mapError g = .error e ↔ ∃ cause, x = .error cause ∧ g cause = e := by
  cases x with
  | error cause =>
    show Except.error (g cause) = .error e ↔ _
    simp
  | ok a =>
    show Except.ok a = .error e ↔ _
    simp

theorem Except.pure_eq_ok {ε α : Type} {x r : α} : (pure x : Except ε α) = .ok r ↔ x = r :=
  Except.ok.injEq x r ▸ Iff.rfl

end PoolCheck
