import Mathlib

/-!
# Postconditions of fallible computations

`Yields E P` says of a computation that its error satisfies `E` if it fails, and its value `P` if it does
not. The rules follow the way such computations are put together.
-/

namespace WolfPSA.Lib

variable {ε ε' α β : Type} {E : ε → Prop} {P Q : α → Prop} {R : β → Prop}

def Yields (E : ε → Prop) (P : α → Prop) : Except ε α → Prop
  | .error e => E e
  | .ok a => P a

namespace Yields

theorem ok {a : α} (holds : P a) : Yields E P (.ok a) := holds

theorem bind {x : Except ε α} {f : α → Except ε β} (first : Yields E P x)
    (next : ∀ a, P a → Yields E R (f a)) : Yields E R (x >>= f) := by
  cases x with
  | error e => exact first
  | ok a => exact next a first

theorem mono {x : Except ε α} (holds : Yields E P x) (weaker : ∀ a, P a → Q a) : Yields E Q x := by
  cases x with
  | error e => exact holds
  | ok a => exact weaker a holds

/-- A rewritten error. -/
theorem mapError {x : Except ε' α} {g : ε' → ε} {E' : ε' → Prop} (holds : Yields E' P x)
    (errors : ∀ e, E' e → E (g e)) : Yields E P (x.mapError g) := by
  cases x with
  | error e => exact errors e holds
  | ok a => exact holds

/-- The value together with where it comes from. -/
theorem attach {x : Except ε α} (holds : Yields E P x) : Yields E (fun a => P a ∧ x = .ok a) x := by
  cases x with
  | error e => exact holds
  | ok a => exact ⟨holds, rfl⟩

theorem value {x : Except ε α} {a : α} (holds : Yields E P x) (same : x = .ok a) : P a := by
  rw [same] at holds
  exact holds

theorem error {x : Except ε α} {e : ε} (holds : Yields E P x) (same : x = .error e) : E e := by
  rw [same] at holds
  exact holds

/-- A computation that cannot fail has a value. -/
theorem total {x : Except ε α} (holds : Yields E P x) (never : ∀ e, ¬E e) : ∃ a, x = .ok a ∧ P a := by
  cases x with
  | error e => exact absurd holds (never e)
  | ok a => exact ⟨a, rfl, holds⟩

/-- Each way a computation can end meets its condition. -/
theorem of_cases {x : Except ε α} (errors : ∀ e, x = .error e → E e) (values : ∀ a, x = .ok a → P a) :
    Yields E P x := by
  cases x with
  | error e => exact errors e rfl
  | ok a => exact values a rfl

end Yields

end WolfPSA.Lib
