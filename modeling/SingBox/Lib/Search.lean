import Mathlib.Data.List.Basic

/-! # Binary search over a sorted list

`binarySearchFunc` is the half-open lower-bound search of a standard library:
the comparison says on which side of the target an element lies. It is run on
fuel so that it computes; the length of the list is always enough.
-/

namespace Lib.Search

open List

variable {α : Type}

/-- The loop on the window `[lo, hi)`: the first position whose element does not
compare below the target. -/
def lowerBound (xs : List α) (cmp : α → Ordering) : Nat → Nat → Nat → Nat
  | 0, lo, _ => lo
  | fuel + 1, lo, hi =>
    if lo < hi then
      let mid := (lo + hi) / 2
      match xs[mid]? with
      | some x => if cmp x = .lt then lowerBound xs cmp fuel (mid + 1) hi else lowerBound xs cmp fuel lo mid
      | none => lo
    else lo

/-- The position found and whether its element compares equal to the target. -/
def binarySearchFunc (xs : List α) (cmp : α → Ordering) : Nat × Bool :=
  let index := lowerBound xs cmp xs.length 0 xs.length
  (index, match xs[index]? with | some x => cmp x == .eq | none => false)

/-- `xs` is sorted for the comparison: below the target, then equal, then above. -/
def Sorted (cmp : α → Ordering) (xs : List α) : Prop :=
  xs.Pairwise fun a b => (cmp b = .lt → cmp a = .lt) ∧ (cmp a = .gt → cmp b = .gt)

/-- What the window means: everything left of it is below the target, nothing
from its end on is. -/
structure Window (xs : List α) (cmp : α → Ordering) (lo hi : Nat) : Prop where
  ordered : lo ≤ hi
  bounded : hi ≤ xs.length
  below : ∀ i x, i < lo → xs[i]? = some x → cmp x = .lt
  above : ∀ i x, hi ≤ i → xs[i]? = some x → cmp x ≠ .lt

variable {cmp : α → Ordering} {xs : List α}

theorem Sorted.getElem (sorted : Sorted cmp xs)
    {i j : Nat} {a b : α} (before : i < j) (first : xs[i]? = some a) (second : xs[j]? = some b) :
    (cmp b = .lt → cmp a = .lt) ∧ (cmp a = .gt → cmp b = .gt) := by
  obtain ⟨firstBound, rfl⟩ := List.getElem?_eq_some_iff.mp first
  obtain ⟨secondBound, rfl⟩ := List.getElem?_eq_some_iff.mp second
  exact pairwise_iff_getElem.mp sorted i j firstBound secondBound before

theorem lowerBound_window (sorted : Sorted cmp xs)
    (fuel lo hi : Nat) (enough : hi - lo ≤ fuel) (window : Window xs cmp lo hi) :
    Window xs cmp (lowerBound xs cmp fuel lo hi) (lowerBound xs cmp fuel lo hi) := by
  induction fuel generalizing lo hi with
  | zero =>
    have same : lo = hi := by have := window.ordered; omega
    subst same
    exact window
  | succ fuel ih =>
    simp only [lowerBound]
    split
    next nonempty =>
      have midBound : (lo + hi) / 2 < xs.length := by have := window.bounded; omega
      rw [getElem?_eq_getElem midBound]
      have midAt : xs[(lo + hi) / 2]? = some xs[(lo + hi) / 2] := getElem?_eq_getElem midBound
      simp only
      split
      next isBelow =>
        apply ih _ _ (by omega)
        refine ⟨by omega, window.bounded, ?_, window.above⟩
        intro i x before at_i
        -- the middle element is below the target, so all elements before it are
        rcases Nat.lt_or_eq_of_le (Nat.lt_succ_iff.mp before) with smaller | rfl
        · exact (sorted.getElem smaller at_i midAt).1 isBelow
        · rw [midAt] at at_i; cases at_i; exact isBelow
      next notBelow =>
        apply ih _ _ (by omega)
        refine ⟨by omega, by omega, window.below, ?_⟩
        intro i x after at_i isBelow
        rcases Nat.lt_or_eq_of_le after with larger | rfl
        · exact notBelow ((sorted.getElem larger midAt at_i).1 isBelow)
        · rw [midAt] at at_i; cases at_i; exact notBelow isBelow
    next empty =>
      have same : lo = hi := by have := window.ordered; omega
      subst same
      exact window

/-- On a sorted list the search finds exactly what is there. -/
theorem binarySearchFunc_found (sorted : Sorted cmp xs) :
    (binarySearchFunc xs cmp).2 ↔ ∃ x ∈ xs, cmp x = .eq := by
  have window := lowerBound_window sorted xs.length 0 xs.length (by omega)
    ⟨by omega, by omega, by intro i x h; omega,
      by intro i x after at_i; have := (List.getElem?_eq_some_iff.mp at_i).1; omega⟩
  unfold binarySearchFunc
  generalize lowerBound xs cmp xs.length 0 xs.length = index at window
  constructor
  · intro found
    simp only at found
    split at found
    next x at_index => exact ⟨x, mem_of_getElem? at_index, by simpa using found⟩
    next => simp at found
  · rintro ⟨x, mem, equal⟩
    obtain ⟨i, at_i⟩ := mem_iff_getElem?.mp mem
    have notBefore : index ≤ i := by
      by_contra before
      have := window.below i x (by omega) at_i
      simp [equal] at this
    have inside : index < xs.length := by
      have := (List.getElem?_eq_some_iff.mp at_i).1; omega
    simp only [getElem?_eq_getElem inside]
    have at_index : xs[index]? = some xs[index] := getElem?_eq_getElem inside
    rcases Nat.lt_or_eq_of_le notBefore with before | rfl
    · have notBelow := window.above index _ (Nat.le_refl _) at_index
      have notAbove : cmp xs[index] ≠ .gt := by
        intro isAbove
        have := (sorted.getElem before at_index at_i).2 isAbove
        simp [equal] at this
      cases compared : cmp xs[index] with
      | lt => exact absurd compared notBelow
      | eq => rfl
      | gt => exact absurd compared notAbove
    · rw [at_index] at at_i; cases at_i; simp [equal]

end Lib.Search
