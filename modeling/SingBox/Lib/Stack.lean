import Mathlib.Data.List.Nodup

/-! # Buffers stacked in front of a stream

A reader that has looked ahead puts what it has read back in front of the stream.
Putting several buffers back one after the other, the oldest first, leaves the newest
in front; the stream is as it was only if there was at most one.
-/

open List

namespace Lib.Stack

variable {α : Type} (buffers : List (List α)) (rest : List α)

/-- Each buffer goes in front of what is there, the first one before the others. -/
def stack : List α :=
  buffers.foldl (fun stream buffer => buffer ++ stream) rest

/-- The same, the last one before the others. -/
def stackBackward : List α :=
  buffers.foldr (fun buffer stream => buffer ++ stream) rest

variable (buffers : List (List α))

theorem stack_eq : stack buffers rest = buffers.reverse.flatten ++ rest := by
  induction buffers generalizing rest with
  | nil => rfl
  | cons buffer buffers ih =>
    rw [stack, foldl_cons]
    have further := ih (buffer ++ rest)
    simp

/-- Buffers that are stacked from the last one on give the stream they were read from. -/
theorem stackBackward_eq : stackBackward buffers rest = buffers.flatten ++ rest := by
  induction buffers with
  | nil => rfl
  | cons buffer buffers ih =>
    rw [stackBackward, foldr_cons]
    rw [stackBackward] at ih
    rw [ih, flatten_cons, append_assoc]

variable {buffers : List (List α)}

/-- Two buffers or more of distinct items do not read the same in both orders. -/
theorem reverse_flatten_ne (filled : ∀ buffer ∈ buffers, buffer ≠ [])
    (distinct : buffers.flatten.Nodup) (several : 1 < buffers.length) : buffers.reverse.flatten ≠ buffers.flatten := by
  obtain ⟨first, others, rfl⟩ := exists_cons_of_length_pos (Nat.zero_lt_of_lt several)
  have notAlone : others ≠ [] := by
    rintro rfl
    simp at several
  obtain ⟨middle, last, rfl⟩ := (eq_nil_or_concat' others).resolve_left notAlone
  obtain ⟨front, fronts, isFirst⟩ := exists_cons_of_ne_nil (filled first (by simp))
  obtain ⟨back, backs, isLast⟩ := exists_cons_of_ne_nil (filled last (by simp))
  intro same
  -- the two orders begin with the first items of the first and of the last buffer
  have sameItem : back = front := by
    subst isFirst isLast
    simpa using congrArg List.head? same
  have frontMember : front ∈ first := by simp [isFirst]
  have backMember : front ∈ (middle ++ [last]).flatten := by simp [isLast, sameItem]
  exact disjoint_of_nodup_append distinct frontMember backMember

theorem stack_eq_iff {rest : List α} (filled : ∀ buffer ∈ buffers, buffer ≠ [])
    (distinct : (buffers.flatten ++ rest).Nodup) :
    stack buffers rest = buffers.flatten ++ rest ↔ buffers.length ≤ 1 := by
  rw [stack_eq, append_left_inj]
  constructor
  · intro same
    by_contra several
    exact reverse_flatten_ne filled (List.Nodup.of_append_left distinct) (by omega) same
  · intro atMostOne
    match buffers, atMostOne with
    | [], _ => rfl
    | [buffer], _ => rfl

theorem reverse_eq_iff {items rest : List α} (distinct : (items ++ rest).Nodup) :
    items.reverse ++ rest = items ++ rest ↔ items.length ≤ 1 := by
  have singles : ∀ list : List α, (list.map fun item => [item]).flatten = list := by
    intro list
    induction list with
    | nil => rfl
    | cons item list ih => rw [map_cons, flatten_cons, ih]; rfl
  have stacked := @stack_eq_iff α (items.map fun item => [item]) rest (by simp) (by rwa [singles])
  rwa [stack_eq, ← map_reverse, singles, singles, length_map] at stacked

end Lib.Stack
