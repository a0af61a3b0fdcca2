import Mathlib.Data.List.Range

/-! # Tallies

How many of the first numbers a family takes to a value with a property, when the family is
changed at one number or is looked at up to the next one.
-/

namespace Lib

variable {α : Type*} (bound : Nat)

/-- The number of indices below the bound with the property. -/
def tally (Property : α → Prop) [DecidablePred Property] (family : Nat → α) : Nat :=
  (List.range bound).countP fun index => Property (family index)

section Tally

variable {Property : α → Prop} [DecidablePred Property] {family : Nat → α}

theorem tally_succ :
    tally (bound + 1) Property family = tally bound Property family + if Property (family bound) then 1 else 0 := by
  simp [tally, List.range_succ]

theorem tally_eq_zero_iff {bound : Nat} : tally bound Property family = 0 ↔ ∀ index < bound, ¬Property (family index) := by
  simp [tally]

theorem tally_update_of_le {bound index : Nat} (beyond : bound ≤ index) (value : α) :
    tally bound Property (Function.update family index value) = tally bound Property family := by
  refine List.countP_congr fun other isBelow => ?_
  rw [Function.update_of_ne (by have := List.mem_range.mp isBelow; omega)]

/-- A change at one index takes its old value out of the tally and puts its new value in. -/
theorem tally_update {bound index : Nat} (below : index < bound) (value : α) :
    tally bound Property (Function.update family index value) + (if Property (family index) then 1 else 0) =
      tally bound Property family + if Property value then 1 else 0 := by
  induction bound with
  | zero => cases below
  | succ bound ih =>
    rw [tally_succ, tally_succ]
    by_cases last : index = bound
    · subst last
      rw [tally_update_of_le le_rfl, Function.update_self]
      omega
    · rw [Function.update_of_ne (Ne.symm last)]
      omega

theorem tally_or {First Second : α → Prop} [DecidablePred First] [DecidablePred Second]
    (disjoint : ∀ value, First value → ¬Second value) :
    tally bound (fun value => First value ∨ Second value) family =
      tally bound First family + tally bound Second family := by
  induction bound with
  | zero => rfl
  | succ bound ih =>
    rw [tally_succ, tally_succ, tally_succ, ih]
    by_cases first : First (family bound) <;> by_cases second : Second (family bound) <;> simp_all <;> omega

end Tally

end Lib
