import Mathlib.Data.List.Basic

/-! # Walks along a list

An interpreter that takes the items of a list one after the other, and at each of them
either goes on with a new state or halts. Two such interpreters of one list are
compared by a simulation: if each step of the first is matched by a step of the second,
the second comes to wherever the first comes.
-/

namespace Lib.Walk

variable {α σ τ ρ ρ' : Type}

inductive Step (σ ρ : Type) where
  | next (state : σ)
  | halt (result : ρ)

/-- How a walk ends: at an item, counted from the front, or behind the last one. -/
inductive Ending (σ ρ : Type) where
  | halted (position : Nat) (result : ρ)
  | ended (state : σ)

def walkFrom (step : α → σ → Step σ ρ) : Nat → List α → σ → Ending σ ρ
  | _, [], state => .ended state
  | position, item :: items, state =>
    match step item state with
    | .next state => walkFrom step (position + 1) items state
    | .halt result => .halted position result

variable (step : α → σ → Step σ ρ) (items : List α)

def walk (state : σ) : Ending σ ρ := walkFrom step 0 items state

/-- The state in which the walk comes to the item at a position, if it does. The
position behind the last item is one of them. -/
def comesTo (step : α → σ → Step σ ρ) : List α → Nat → σ → Option σ
  | _, 0, state => some state
  | [], _ + 1, _ => none
  | item :: items, position + 1, state =>
    match step item state with
    | .next state => comesTo step items position state
    | .halt _ => none

theorem comesTo_zero (state : σ) : comesTo step items 0 state = some state := by
  cases items <;> rfl

section Endings

variable {step : α → σ → Step σ ρ} {items : List α} {state : σ}

variable {start position : Nat} {result : ρ} {final before : σ} {item : α}

theorem comesTo_of_walkFrom_halted (halts : walkFrom step start items state = .halted position result) :
    ∃ offset item before, position = start + offset ∧ items[offset]? = some item ∧
      comesTo step items offset state = some before ∧ step item before = .halt result := by
  induction items generalizing start state with
  | nil => cases halts
  | cons item items ih =>
    rw [walkFrom] at halts
    cases taken : step item state with
    | halt other =>
      rw [taken] at halts
      cases halts
      exact ⟨0, item, state, rfl, rfl, rfl, taken⟩
    | next after =>
      rw [taken] at halts
      obtain ⟨offset, last, before, isPosition, isItem, comes, halted⟩ := ih halts
      refine ⟨offset + 1, last, before, by omega, by simpa using isItem, ?_, halted⟩
      rw [comesTo, taken]
      exact comes

theorem comesTo_of_halted (halts : walk step items state = .halted position result) :
    ∃ item before, items[position]? = some item ∧ comesTo step items position state = some before ∧
      step item before = .halt result := by
  obtain ⟨offset, item, before, isPosition, isItem, comes, halted⟩ := comesTo_of_walkFrom_halted halts
  obtain rfl : position = offset := by omega
  exact ⟨item, before, isItem, comes, halted⟩

theorem comesTo_of_walkFrom_ended (ends : walkFrom step start items state = .ended final) :
    comesTo step items items.length state = some final := by
  induction items generalizing start state with
  | nil =>
    cases ends
    rfl
  | cons item items ih =>
    rw [walkFrom] at ends
    rw [List.length_cons, comesTo]
    cases taken : step item state with
    | halt other =>
      rw [taken] at ends
      cases ends
    | next after =>
      rw [taken] at ends
      exact ih ends

theorem comesTo_of_ended (ends : walk step items state = .ended final) :
    comesTo step items items.length state = some final :=
  comesTo_of_walkFrom_ended ends

theorem walkFrom_of_comesTo {start offset : Nat} {item : α} {before : σ} {result : ρ}
    (comes : comesTo step items offset state = some before) (isItem : items[offset]? = some item)
    (halts : step item before = .halt result) : walkFrom step start items state = .halted (start + offset) result := by
  induction offset generalizing items state start with
  | zero =>
    rw [comesTo_zero] at comes
    cases comes
    cases items with
    | nil => cases isItem
    | cons head rest =>
      cases isItem
      rw [walkFrom, halts]
      rfl
  | succ offset ih =>
    cases items with
    | nil => cases comes
    | cons head rest =>
      rw [comesTo] at comes
      rw [walkFrom]
      cases taken : step head state with
      | halt other =>
        rw [taken] at comes
        cases comes
      | next after =>
        rw [taken] at comes
        have further := @ih rest after (start + 1) comes (by simpa using isItem)
        dsimp only
        rw [further]
        congr 1
        omega

theorem walk_of_comesTo
    (comes : comesTo step items position state = some before) (isItem : items[position]? = some item)
    (halts : step item before = .halt result) : walk step items state = .halted position result := by
  have halted := @walkFrom_of_comesTo _ _ _ step items state 0 position item before result comes isItem halts
  rwa [Nat.zero_add] at halted

theorem walkFrom_of_comesTo_length (comes : comesTo step items items.length state = some final) :
    walkFrom step start items state = .ended final := by
  induction items generalizing state start with
  | nil =>
    cases comes
    rfl
  | cons item items ih =>
    rw [List.length_cons, comesTo] at comes
    rw [walkFrom]
    cases taken : step item state with
    | halt other =>
      rw [taken] at comes
      cases comes
    | next after =>
      rw [taken] at comes
      exact ih comes

section
variable (comes : comesTo step items position state = some before)
include comes

theorem comesTo_le_of_halt {later : Nat} {after : σ} (isItem : items[position]? = some item)
    (halts : step item before = .halt result) (comesLater : comesTo step items later state = some after) :
    later ≤ position := by
  induction position generalizing items state later with
  | zero =>
    rw [comesTo_zero, Option.some.injEq] at comes
    cases later with
    | zero => exact Nat.le_refl 0
    | succ later =>
      cases items with
      | nil => cases isItem
      | cons head rest =>
        obtain rfl : head = item := by simpa using isItem
        rw [comesTo, comes, halts] at comesLater
        cases comesLater
  | succ position ih =>
    cases later with
    | zero => exact Nat.zero_le _
    | succ later =>
      cases items with
      | nil => cases comes
      | cons head rest =>
        rw [comesTo] at comes comesLater
        cases taken : step head state with
        | halt other =>
          rw [taken] at comes
          cases comes
        | next following =>
          rw [taken] at comes comesLater
          exact Nat.succ_le_succ (ih comes (by simpa using isItem) comesLater)

theorem comesTo_succ {after : σ} (isItem : items[position]? = some item)
    (goesOn : step item before = .next after) : comesTo step items (position + 1) state = some after := by
  induction position generalizing items state with
  | zero =>
    rw [comesTo_zero] at comes
    cases comes
    cases items with
    | nil => cases isItem
    | cons head rest =>
      cases isItem
      rw [comesTo, goesOn]
      exact comesTo_zero step rest after
  | succ position ih =>
    cases items with
    | nil => cases comes
    | cons head rest =>
      rw [comesTo] at comes ⊢
      cases taken : step head state with
      | halt other =>
        rw [taken] at comes
        cases comes
      | next next =>
        rw [taken] at comes
        exact ih comes (by simpa using isItem)

end

end Endings

/-! ## Invariants -/

/-- The steps of the walk on the way to a position all meet the condition. -/
def MeetsUntil (step : α → σ → Step σ ρ) (condition : α → σ → Prop) (items : List α) (position : Nat) (state : σ) :
    Prop :=
  ∀ earlier item before, earlier < position → items[earlier]? = some item →
    comesTo step items earlier state = some before → condition item before

variable {condition : α → σ → Prop} {position : Nat} {start : σ} {step : α → σ → Step σ ρ} {items : List α}

theorem MeetsUntil.tail {item : α}
    {state after : σ} (meets : MeetsUntil step condition (item :: items) (position + 1) state)
    (taken : step item state = .next after) : MeetsUntil step condition items position after := by
  intro earlier other before isEarlier isItem comesEarlier
  refine meets (earlier + 1) other before (by omega) (by simpa using isItem) ?_
  rw [comesTo, taken]
  exact comesEarlier

variable {Invariant : σ → Prop} {state : σ}

/-- What every step that meets the condition preserves holds at every position reached
by such steps. -/
theorem comesTo_invariant
    (preserved : ∀ item before after, condition item before → Invariant before → step item before = .next after →
      Invariant after) (initially : Invariant start) (meets : MeetsUntil step condition items position start)
    (comes : comesTo step items position start = some state) : Invariant state := by
  induction position generalizing items start with
  | zero =>
    rw [comesTo_zero] at comes
    cases comes
    exact initially
  | succ position ih =>
    cases items with
    | nil => cases comes
    | cons item items =>
      rw [comesTo] at comes
      cases taken : step item start with
      | halt result =>
        rw [taken] at comes
        cases comes
      | next after =>
        rw [taken] at comes
        have here := meets 0 item start (by omega) rfl rfl
        exact ih (preserved item start after here initially taken) (meets.tail taken) comes

/-- What every step preserves holds at every position reached. -/
theorem comesTo_always
    (preserved : ∀ item before after, Invariant before → step item before = .next after → Invariant after)
    (initially : Invariant start) (comes : comesTo step items position start = some state) : Invariant state := by
  have meets : MeetsUntil step (fun _ _ => True) items position start := fun _ _ _ _ _ _ => trivial
  exact comesTo_invariant (fun item before after _ => preserved item before after) initially meets comes

theorem comesTo_mono {measure : σ → Nat}
    (grows : ∀ item before after, step item before = .next after → measure before ≤ measure after) {earlier later : Nat}
    {before after : σ} (ordered : earlier ≤ later) (comesEarlier : comesTo step items earlier start = some before)
    (comesLater : comesTo step items later start = some after) : measure before ≤ measure after := by
  induction later generalizing items start earlier before with
  | zero =>
    obtain rfl : earlier = 0 := by omega
    rw [comesEarlier] at comesLater
    cases comesLater
    exact Nat.le_refl _
  | succ later ih =>
    cases items with
    | nil => cases comesLater
    | cons item items =>
      rw [comesTo] at comesLater
      cases taken : step item start with
      | halt result =>
        rw [taken] at comesLater
        cases comesLater
      | next following =>
        rw [taken] at comesLater
        cases earlier with
        | zero =>
          rw [comesTo_zero, Option.some.injEq] at comesEarlier
          rw [← comesEarlier]
          exact Nat.le_trans (grows item start following taken)
            (ih (Nat.zero_le later) (comesTo_zero step items following) comesLater)
        | succ earlier =>
          rw [comesTo, taken] at comesEarlier
          exact ih (by omega) comesEarlier comesLater

/-! ## Simulation -/

/-- Where the first walk comes, meeting the condition, the second comes too. -/
theorem comesTo_simulated {first : α → σ → Step σ ρ} {second : α → τ → Step τ ρ'} {Related : σ → τ → Prop}
    (simulates : ∀ item before before' after, condition item before → Related before before' →
      first item before = .next after → ∃ after', second item before' = .next after' ∧ Related after after')
    {start' : τ} (related : Related start start') (meets : MeetsUntil first condition items position start)
    (comes : comesTo first items position start = some state) :
    ∃ state', comesTo second items position start' = some state' ∧ Related state state' := by
  induction position generalizing items start start' with
  | zero =>
    rw [comesTo_zero] at comes
    cases comes
    exact ⟨start', comesTo_zero _ _ _, related⟩
  | succ position ih =>
    cases items with
    | nil => cases comes
    | cons item items =>
      rw [comesTo] at comes
      cases taken : first item start with
      | halt result =>
        rw [taken] at comes
        cases comes
      | next after =>
        rw [taken] at comes
        have here := meets 0 item start (by omega) rfl rfl
        obtain ⟨after', takenToo, afterRelated⟩ := simulates item start start' after here related taken
        obtain ⟨state', comesToo, stateRelated⟩ := ih afterRelated (meets.tail taken) comes
        refine ⟨state', ?_, stateRelated⟩
        rw [comesTo, takenToo]
        exact comesToo

end Lib.Walk
