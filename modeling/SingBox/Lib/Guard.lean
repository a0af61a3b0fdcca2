import Mathlib.Init

/-! # Checks that may fail

What a sequence of checks has established once it succeeds: one equivalence for each way
in which a computation with errors is put together.
-/

namespace Lib.Guard

variable {ε ε' α β : Type}

/-- Goes on only if the condition holds. -/
def ensure (condition : Prop) [Decidable condition] (error : ε) : Except ε Unit :=
  if condition then .ok () else .error error

@[simp] theorem ensure_eq_ok {condition : Prop} [Decidable condition] {error : ε} {result : Unit} :
    ensure condition error = .ok result ↔ condition := by
  unfold ensure
  split <;> simp_all

variable {first : Except ε α}

@[simp] theorem bind_eq_ok {next : α → Except ε β} {result : β} :
    (first >>= next) = .ok result ↔ ∃ value, first = .ok value ∧ next value = .ok result := by
  cases first <;> simp [bind, Except.bind]

@[simp] theorem pure_eq_ok {value result : α} : (pure value : Except ε α) = .ok result ↔ value = result := by
  simp [pure, Except.pure]

@[simp] theorem map_eq_ok {change : α → β} {result : β} :
    first.map change = .ok result ↔ ∃ value, first = .ok value ∧ change value = result := by
  cases first <;> simp [Except.map]

@[simp] theorem mapError_eq_ok {change : ε → ε'} {result : α} :
    first.mapError change = .ok result ↔ first = .ok result := by
  cases first with
  | ok value =>
    change Except.ok _ = _ ↔ _
    simp
  | error error =>
    change Except.error _ = _ ↔ _
    simp

end Lib.Guard
