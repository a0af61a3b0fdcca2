import Mathlib.Data.List.Nodup
import Mathlib.Data.List.Range

/-! # Names that are not taken

A family of names is tried from some number on, until one is not among those taken.
-/

open List

namespace Lib.Fresh

variable {α : Type*} [DecidableEq α]

/-- The first name that is free, among as many as there is fuel and one more. -/
def firstFree (name : Nat → α) (taken : List α) : Nat → Nat → α
  | 0, number => name number
  | fuel + 1, number => if name number ∈ taken then firstFree name taken fuel (number + 1) else name number

variable {name : Nat → α}

theorem taken_of_firstFree {taken : List α} :
    ∀ {fuel number : Nat}, firstFree name taken fuel number ∈ taken → ∀ more ≤ fuel, name (number + more) ∈ taken
  | 0, number, isTaken, more, within => by
    obtain rfl := Nat.le_zero.mp within
    exact isTaken
  | fuel + 1, number, isTaken, more, within => by
    rw [firstFree] at isTaken
    split at isTaken
    next first =>
      cases more with
      | zero => exact first
      | succ more =>
        have later := taken_of_firstFree isTaken more (Nat.le_of_succ_le_succ within)
        rwa [Nat.add_assoc, Nat.add_comm 1] at later
    next free => exact absurd isTaken free

/-- With as much fuel as there are names taken, a free one is found: more names are tried than are taken. -/
theorem firstFree_notMem (injective : Function.Injective name) (taken : List α) (number : Nat) :
    firstFree name taken taken.length number ∉ taken := by
  intro isTaken
  have tried : (range (taken.length + 1)).map (fun more => name (number + more)) ⊆ taken := by
    intro _ isName
    obtain ⟨more, inRange, rfl⟩ := mem_map.mp isName
    exact taken_of_firstFree isTaken more (Nat.le_of_lt_succ (mem_range.mp inRange))
  have distinct : ((range (taken.length + 1)).map fun more => name (number + more)).Nodup :=
    nodup_range.map fun first second same => Nat.add_left_cancel (injective same)
  have fits := distinct.length_le_of_subset tried
  simp only [length_map, length_range] at fits
  omega

end Lib.Fresh
