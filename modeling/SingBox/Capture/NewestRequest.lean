import SingBox.Capture.Coordinator
import SingBox.Lib.Machine
import Mathlib.Data.List.Perm.Basic

/-! # The newest request decides

Until the newest request is applied, a step that leads to its application is left. Once it is
applied, the transition leads to its mode.
-/

namespace SingBox.Capture.Coordinator

open Lib.Machine Option

/-- A coordinator that is initialized and not closed, whose owners succeed, with the mode of the
request that has the highest generation. -/
structure Requested extends Coordinator where
  newest : Option Mode := none

def requestStep (state : Requested) (label : Step) : Option Requested :=
  match label with
  | .callInitialize _ | .callClose | .returns ⟨true, _⟩ => none
  | .callRequestMode byte | .callSwitchMode byte =>
    (state.step label).map ({ · with newest := (validMode byte).or state.newest })
  | _ => (state.step label).map ({ · with newest := state.newest })

/-- Only calls are left. -/
def Quiet (coordinator : Coordinator) : Prop :=
  ∀ label, coordinator.step label ≠ none → match label with
    | .callInitialize _ | .callRequestMode _ | .callSwitchMode _ | .callClose => True
    | _ => False

/-- The mode that a transition leads to. -/
def Phase.target : Phase → Option Mode
  | .deactivating _ target | .preparing _ target | .activating _ target | .settled target => some target
  | _ => none

def heading (coordinator : Coordinator) : Option Mode :=
  match coordinator.running with
  | none => some coordinator.current
  | some phase => Phase.target phase

variable (state : Requested)

/-- A transition starts for the newest request, and that of the last transition was older. -/
def Later (next : Requested) : Prop :=
  state.appliedGen ≤ next.appliedGen ∧ (state.running = none → next.running ≠ none →
    state.appliedGen < next.appliedGen ∧ next.appliedGen = state.generation ∧ next.heading = state.newest)

/-- A call that stems from the newest request asks for its mode. -/
def Stems (mode : Mode) (generation : Nat) : Prop :=
  generation ≤ state.generation ∧ (generation = state.generation → mode = state.pendingMode)

/-- `due` names the steps that lead to the application of the newest request. -/
structure Follows : Prop where
  owners : state.owners = ⟨true, true⟩
  isOpen : state.closed = false
  goesOn : state.loop ≠ .stopped
  registered : state.pendingGen = state.generation
  newest : state.newest = if state.generation = 0 then none else some state.pendingMode
  applied : state.appliedGen ≤ state.generation
  switches : ∀ mode generation, (mode, generation) ∈ state.switches → Stems state mode generation
  loop : ∀ mode generation, state.loop = .applying mode generation → Stems state mode generation
  transitioning : state.loop = .transitioning → state.running ≠ none
  heads : state.heading ≠ none
  decided : state.appliedGen = state.generation → state.generation ≠ 0 → state.heading = some state.pendingMode
  due : state.appliedGen ≠ state.generation → (state.pendingMode, state.generation) ∈ state.switches ∨
    0 < state.signals ∨ state.wake ∨ state.loop = .selecting true ∨
    state.loop = .applying state.pendingMode state.generation

section
variable {coordinator : Coordinator} (owners : coordinator.owners = ⟨true, true⟩) (source target : Mode)
include owners

theorem target_take : Phase.target (coordinator.take source target) = some target := by
  cases target <;> simp [take, owner, owners, Phase.target]

theorem target_transition : Phase.target (coordinator.transition source target) = some target := by
  have := target_take owners source target
  cases source <;> cases target <;> simp_all [transition, owner, Phase.target]

end

variable {state} {next : Requested} {label : Step}

theorem Follows.step (follows : Follows state) (taken : requestStep state label = some next) :
    Follows next ∧ Later state next := by
  have ⟨owners, _, _, _, _, _, _, _, _, heads, decided, _⟩ := follows
  cases label with
  | callInitialize | callClose => cases taken
  | callRequestMode byte | callSwitchMode byte | signal | receive | fire | stop | lockClose | record =>
    simp only [requestStep, Coordinator.step, applyPending, pending] at taken
    obtain ⟨coordinator, taken, rfl⟩ := map_eq_some_iff.mp taken
    repeat' split at taken
    all_goals cases taken
    all_goals constructor <;> constructor <;> grind [heading, Stems, request, Phase.target]
  | returns outcome =>
    obtain ⟨_ | _, leaves⟩ := outcome
    case true => cases taken
    simp only [requestStep, Coordinator.step, bind_eq_bind, map_eq_some_iff, bind_eq_some_iff] at taken
    obtain ⟨coordinator, ⟨phase, running, ⟨who, call⟩, calls, ⟨⟩⟩, rfl⟩ := taken
    -- with owners that succeed, only four phases come up
    simp only [heading, running] at heads decided
    cases phase <;> simp only [Phase.target, ne_eq, not_true_eq_false] at heads decided
    all_goals constructor <;> constructor <;> grind [heading, Stems, called, goOn, target_take, Phase.target]
  | applySwitch index =>
    simp only [requestStep, Coordinator.step, map_eq_some_iff] at taken
    obtain ⟨coordinator, taken, rfl⟩ := taken
    split at taken <;> cases taken
    next mode generation _ isNext =>
    obtain ⟨bound, isEntry⟩ := List.getElem?_eq_some_iff.mp isNext
    -- what waits is the call that goes on and the others
    have others entry := (List.getElem_cons_eraseIdx_perm bound).mem_iff (a := entry)
    unfold apply
    constructor <;> constructor <;> grind [heading, Stems, target_transition]
  | applyLoop =>
    simp only [requestStep, Coordinator.step, map_eq_some_iff] at taken
    obtain ⟨coordinator, taken, rfl⟩ := taken
    split at taken <;> cases taken
    unfold apply
    constructor <;> constructor <;> grind [heading, Stems, target_transition]

theorem Follows.current_of_quiet (follows : Follows state) (quiet : state.Quiet) :
    ∀ mode ∈ state.newest, state.current = mode := by
  have ⟨_, _, _, _, _, _, _, _, _, _, _, _⟩ := follows
  have idle : state.running = none := by
    have returns := quiet (.returns {})
    have records := quiet .record
    cases running : state.running with
    | none => rfl
    | some phase => cases phase <;> simp_all [Coordinator.step, heading, Phase.target, Phase.call]
  have switches : state.switches = [] := by
    have := quiet (.applySwitch 0)
    cases waits : state.switches <;> simp_all [Coordinator.step]
  have signals := quiet .signal
  have receives := quiet .receive
  have fires := quiet .fire
  have applies := quiet .applyLoop
  cases looping : state.loop <;> grind [Coordinator.step, heading]

theorem newest_request_decides (debounce : Bool) (current : Mode) (active : Mode → Bool) (labels : List Step) :
    let start : Requested := { owners := ⟨true, true⟩, debounce, current, active, established := true }
    EveryState requestStep (fun state => state.Quiet → ∀ mode ∈ state.newest, state.current = mode) start labels ∧
      EveryStep requestStep (fun state label => ∀ next ∈ requestStep state label, Later state next) start labels := by
  intro start
  have initially : Follows start := by constructor <;> simp [start, heading]
  have keeps state label next (follows : Follows state) (isNext : requestStep state label = some next) :=
    (follows.step isNext).1
  exact ⟨everyState_of_everyStep (fun _ => Follows.current_of_quiet)
      (fun _ _ _ follows isNext _ => keeps _ _ _ follows isNext) initially
      (everyStep_of_invariant (fun _ _ _ => trivial) keeps initially labels),
    everyStep_of_invariant (fun _ _ follows _ isNext => (follows.step isNext).2) keeps initially labels⟩

end SingBox.Capture.Coordinator
