import Mathlib.Data.List.Basic

/-! # Choosing with hysteresis

A choice moves to another candidate only if that one is better by more than a given slack.
Whatever the order of the candidates, the choice ends within the slack of all of them, and a
choice that is within the slack of all of them does not move.
-/

open List

namespace Lib.Hysteresis

variable {α : Type} (cost : α → Nat) (slack : Nat) (choice : Option α)

def prefer (candidate : α) : Option α :=
  match choice with
  | none => some candidate
  | some current => if cost current > cost candidate + slack then some candidate else some current

def scan (candidates : List α) : Option α := candidates.foldl (prefer cost slack) choice

/-- The choice is within the slack of the candidates so far. -/
def Within (choice : α) (candidates : List α) : Prop := ∀ candidate ∈ candidates, cost choice ≤ cost candidate + slack

variable {cost slack} {choice : Option α} {candidates : List α}

theorem scan_isSome (some : choice.isSome ∨ candidates ≠ []) : (scan cost slack choice candidates).isSome := by
  induction candidates generalizing choice with
  | nil => simpa [scan] using some
  | cons candidate candidates ih =>
    refine ih (.inl ?_)
    cases choice with
    | none => rfl
    | some current =>
      simp only [prefer]
      split <;> rfl

theorem scan_mem {result : α}
    (isResult : scan cost slack choice candidates = some result) : choice = some result ∨ result ∈ candidates := by
  induction candidates generalizing choice with
  | nil => exact .inl isResult
  | cons candidate candidates ih =>
    rcases ih isResult with isPreferred | isLater
    · cases choice with
      | none =>
        cases isPreferred
        exact .inr mem_cons_self
      | some current =>
        simp only [prefer] at isPreferred
        split at isPreferred
        · cases isPreferred
          exact .inr mem_cons_self
        · exact .inl isPreferred
    · exact .inr (mem_cons_of_mem _ isLater)

/-- The choice only gets better, so that it stays within the slack of those it was within. -/
theorem scan_within {before : List α} {result : α}
    (within : ∀ current, choice = some current → Within cost slack current before) (empty : choice = none → before = [])
    (isResult : scan cost slack choice candidates = some result) : Within cost slack result (before ++ candidates) := by
  induction candidates generalizing choice before with
  | nil =>
    rw [append_nil]
    exact within result isResult
  | cons candidate candidates ih =>
    have extended : Within cost slack result (before ++ [candidate] ++ candidates) := by
      refine ih ?_ ?_ isResult
      · intro current isCurrent other isOther
        cases choice with
        | none =>
          cases isCurrent
          rw [empty rfl] at isOther
          cases mem_singleton.mp isOther
          omega
        | some previous =>
          have previousWithin := within previous rfl
          simp only [prefer] at isCurrent
          rcases mem_append.mp isOther with isBefore | isCandidate
          · have le := previousWithin other isBefore
            split at isCurrent
            · cases isCurrent
              omega
            · cases isCurrent
              exact le
          · cases mem_singleton.mp isCandidate
            split at isCurrent
            · cases isCurrent
              omega
            · cases isCurrent
              omega
      · intro isNone
        cases choice with
        | none => cases isNone
        | some previous =>
          simp only [prefer] at isNone
          split at isNone <;> cases isNone
    rwa [append_assoc, singleton_append] at extended

theorem scan_keeps {current : α} (within : Within cost slack current candidates) :
    scan cost slack (some current) candidates = some current := by
  induction candidates with
  | nil => rfl
  | cons candidate candidates ih =>
    have stays : prefer cost slack (some current) candidate = some current := by
      have le := within candidate mem_cons_self
      rw [prefer, if_neg (by omega)]
    rw [scan, foldl_cons, stays]
    exact ih fun other isOther => within other (mem_cons_of_mem _ isOther)

end Lib.Hysteresis
