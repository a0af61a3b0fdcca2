import Mathlib.Data.Option.Basic
import Mathlib.Logic.Relation
import Mathlib.Logic.Function.Iterate

/-! # State machines

A machine takes a state and a label to the next state, or refuses the label. A run is a
list of labels. `everyState_iff_everyStep` is the rule for properties that hold along a
run exactly as long as every step of it meets a condition.
-/

namespace Lib.Machine

variable {σ ι : Type*} (step : σ → ι → Option σ)

def run : σ → List ι → Option σ
  | state, [] => some state
  | state, label :: labels => (step state label).bind (run · labels)

/-- Every state that the run comes to has the property. -/
def EveryState (Property : σ → Prop) : σ → List ι → Prop
  | state, [] => Property state
  | state, label :: labels => Property state ∧ ∀ next ∈ step state label, EveryState Property next labels

/-- Every step that the run takes meets the condition. -/
def EveryStep (condition : σ → ι → Prop) : σ → List ι → Prop
  | _, [] => True
  | state, label :: labels => ∀ next ∈ step state label, condition state label ∧ EveryStep condition next labels

instance EveryStep.decidable {condition : σ → ι → Prop} [∀ state label, Decidable (condition state label)] :
    ∀ (state : σ) (labels : List ι), Decidable (EveryStep step condition state labels)
  | _, [] => .isTrue trivial
  | state, label :: labels =>
    match taken : step state label with
    | none => .isTrue fun next isNext => by cases taken.symm.trans isNext
    | some next =>
      have : Decidable (EveryStep step condition next labels) := EveryStep.decidable next labels
      decidable_of_iff (condition state label ∧ EveryStep step condition next labels)
        ⟨fun meets other isNext => by cases taken.symm.trans isNext; exact meets, fun meets => meets next taken⟩

/-- One state is reached from another by steps that all meet the condition. -/
def Reaches (condition : σ → ι → Prop) : σ → σ → Prop :=
  Relation.ReflTransGen fun state next => ∃ label, condition state label ∧ step state label = some next

/-- A step that meets the condition keeps the invariant. -/
def Preserves (condition : σ → ι → Prop) (Invariant : σ → Prop) : Prop :=
  ∀ state label next, Invariant state → step state label = some next → condition state label → Invariant next

variable {step} {condition : σ → ι → Prop} {labels : List ι} {start : σ}

theorem Reaches.of_run {final : σ} (runs : run step start labels = some final)
    (meets : EveryStep step condition start labels) :
    Reaches step condition start final := by
  induction labels generalizing start with
  | nil =>
    cases runs
    exact .refl
  | cons label labels ih =>
    obtain ⟨next, taken, runsOn⟩ := Option.bind_eq_some_iff.mp runs
    obtain ⟨meetsHere, meetsLater⟩ := meets next taken
    exact .head ⟨label, meetsHere, taken⟩ (ih runsOn meetsLater)

variable {Invariant : σ → Prop}

theorem Reaches.invariant (keeps : Preserves step condition Invariant) {final : σ}
    (reaches : Reaches step condition start final) (initially : Invariant start) :
    Invariant final := by
  induction reaches with
  | refl => exact initially
  | tail _ moves ih =>
    obtain ⟨label, meets, taken⟩ := moves
    exact keeps _ label _ ih taken meets

variable {Property : σ → Prop}

theorem EveryState.here {state : σ} : ∀ {labels : List ι}, EveryState step Property state labels → Property state
  | [], holds => holds
  | _ :: _, holds => holds.1

theorem EveryState.final {final : σ} (everyState : EveryState step Property start labels)
    (runs : run step start labels = some final) : Property final := by
  induction labels generalizing start with
  | nil =>
    cases runs
    exact everyState
  | cons label labels ih =>
    obtain ⟨next, taken, runsOn⟩ := Option.bind_eq_some_iff.mp runs
    exact ih (everyState.2 next taken) runsOn

theorem everyStep_of_invariant {Property : σ → ι → Prop} (holds : ∀ state label, Invariant state → Property state label)
    (keeps : ∀ state label next, Invariant state → step state label = some next → Invariant next)
    (initially : Invariant start) (labels : List ι) : EveryStep step Property start labels := by
  induction labels generalizing start with
  | nil => trivial
  | cons label labels ih =>
    intro next taken
    exact ⟨holds start label initially, ih (keeps start label next initially taken)⟩

theorem everyState_of_everyStep (holds : ∀ state, Invariant state → Property state)
    (keeps : Preserves step condition Invariant) (initially : Invariant start)
    (everyStep : EveryStep step condition start labels) :
    EveryState step Property start labels := by
  induction labels generalizing start with
  | nil => exact holds start initially
  | cons label labels ih =>
    refine ⟨holds start initially, fun next taken => ?_⟩
    obtain ⟨meets, later⟩ := everyStep next taken
    exact ih (keeps start label next initially taken meets) later

theorem everyState_iff_everyStep (holds : ∀ state, Invariant state → Property state)
    (keeps : Preserves step condition Invariant)
    (breaks : ∀ state label next, Invariant state → step state label = some next → ¬condition state label →
      ¬Property next) (initially : Invariant start) (labels : List ι) :
    EveryState step Property start labels ↔ EveryStep step condition start labels := by
  induction labels generalizing start with
  | nil => exact ⟨fun _ => trivial, fun _ => holds start initially⟩
  | cons label labels ih =>
    constructor
    · intro everyState next taken
      have later : EveryState step Property next labels := everyState.2 next taken
      have meets : condition start label := by
        by_contra fails
        exact breaks start label next initially taken fails later.here
      exact ⟨meets, (ih (keeps start label next initially taken meets)).mp later⟩
    · exact everyState_of_everyStep holds keeps initially

/-- A step that fails the condition need not show at once: it leads to a state from which the
run cannot end well without showing it. -/
theorem everyStep_of_everyState {Property Doomed : σ → Prop} (keeps : Preserves step condition Invariant)
    (breaks : ∀ state label next, Invariant state → step state label = some next → ¬condition state label →
      Property next → Doomed next)
    (spreads : ∀ state label next, Doomed state → step state label = some next → Property next → Doomed next)
    {final : σ} (initially : Invariant start) (runs : run step start labels = some final)
    (ends : ¬Doomed final) (everyState : EveryState step Property start labels) :
    EveryStep step condition start labels := by
  have escapes : ∀ {labels : List ι} {state : σ}, Doomed state → run step state labels = some final →
      ¬EveryState step Property state labels := by
    intro labels
    induction labels with
    | nil =>
      rintro state doomed ⟨⟩ _
      exact ends doomed
    | cons label labels ih =>
      intro state doomed runs everyState
      obtain ⟨next, taken, runsOn⟩ := Option.bind_eq_some_iff.mp runs
      have later := everyState.2 next taken
      exact ih (spreads state label next doomed taken later.here) runsOn later
  induction labels generalizing start with
  | nil => trivial
  | cons label labels ih =>
    intro next taken
    have runsOn : run step next labels = some final := by
      rw [run, taken] at runs
      exact runs
    have later := everyState.2 next taken
    have meets : condition start label := by
      by_contra fails
      exact escapes (breaks start label next initially taken fails later.here) runsOn later
    exact ⟨meets, ih (keeps start label next initially taken meets) runsOn later⟩

/-- A property of the single steps that comes to the condition as long as the invariant holds. -/
theorem everyStep_iff_everyStep {Property condition : σ → ι → Prop}
    (equivalent : ∀ state label, Invariant state → (Property state label ↔ condition state label))
    (keeps : Preserves step condition Invariant) (initially : Invariant start) (labels : List ι) :
    EveryStep step Property start labels ↔ EveryStep step condition start labels := by
  induction labels generalizing start with
  | nil => exact Iff.rfl
  | cons label labels ih =>
    refine forall₂_congr fun next taken => ?_
    rw [equivalent start label initially]
    exact and_congr_right fun meets => ih (keeps start label next initially taken meets)

end Lib.Machine

/-! ## Machines that run by themselves -/

namespace Lib.Machine

variable {σ : Type*} (step : σ → σ)

/-- Every state that the machine comes to meets the condition. -/
def Always (condition : σ → Prop) (state : σ) : Prop := ∀ steps : Nat, condition (step^[steps] state)

/-- The machine comes to a state with the property. -/
def Eventually (Goal : σ → Prop) (state : σ) : Prop := ∃ steps : Nat, Goal (step^[steps] state)

variable {step} {condition Goal : σ → Prop} {state : σ}

section
variable (always : Always step condition state)
include always

theorem Always.here : condition state := always 0

theorem Always.next : Always step condition (step state) :=
  fun steps => always (steps + 1)

theorem Always.later (steps : Nat) : Always step condition (step^[steps] state) :=
  fun more => by
    rw [← Function.iterate_add_apply]
    exact always (more + steps)

end

theorem Always.of_invariant {Invariant : σ → Prop} (holds : ∀ state, Invariant state → condition state)
    (keeps : ∀ state, Invariant state → Invariant (step state)) (initially : Invariant state) :
    Always step condition state := by
  intro steps
  apply holds
  induction steps with
  | zero => exact initially
  | succ steps ih =>
    rw [Function.iterate_succ_apply']
    exact keeps _ ih

/-- A machine that comes to rest is looked at up to there. -/
theorem Always.of_rest {steps : Nat} (rests : step (step^[steps] state) = step^[steps] state)
    (holds : ∀ index ≤ steps, condition (step^[index] state)) : Always step condition state := by
  intro more
  rcases Nat.le_total more steps with early | late
  · exact holds more early
  · obtain ⟨extra, rfl⟩ := Nat.exists_eq_add_of_le' late
    rw [Function.iterate_add_apply, Function.iterate_fixed rests]
    exact holds steps (Nat.le_refl steps)

theorem Eventually.here (holds : Goal state) : Eventually step Goal state := ⟨0, holds⟩

theorem Eventually.next : Eventually step Goal (step state) → Eventually step Goal state
  | ⟨steps, holds⟩ => ⟨steps + 1, holds⟩

/-- The machine is followed to some state, and from there on. -/
theorem Eventually.trans {Middle : σ → Prop} (always : Always step condition state)
    (first : Eventually step Middle state)
    (rest : ∀ later, Always step condition later → Middle later → Eventually step Goal later) :
    Eventually step Goal state := by
  obtain ⟨steps, holds⟩ := first
  obtain ⟨more, reached⟩ := rest _ (always.later steps) holds
  refine ⟨more + steps, ?_⟩
  rwa [Function.iterate_add_apply]

end Lib.Machine
