import SingBox.Capture.NewestRequest

/-! # The coordinator comes to rest

A step that is not a call uses up some of a weight, whatever the owners answer. When the owners
succeed, what it comes to is the mode of the newest request.
-/

namespace SingBox.Capture.Coordinator

open Lib.Machine Option

def Phase.weight : Phase → Nat
  | .clearing _ remaining _ => 6 + remaining.length
  | .deactivating _ _ => 6
  | .preparing _ _ => 5
  | .activating _ _ => 4
  | .cleaning _ _ | .closing _ => 3
  | .restoring _ => 2
  | .settled _ => 1
  | .closingOwners _ remaining => remaining.length

def Loop.weight : Loop → Nat
  | .selecting timer => 1 + 8 * timer.toNat
  | .applying _ _ => 8
  | .transitioning => 1
  | .stopped => 0

variable (coordinator : Coordinator)

/-- What is left to do, each request with room for the longest transition. -/
def weight : Nat :=
  10 * coordinator.signals + 9 * coordinator.wake.toNat + Loop.weight coordinator.loop +
    7 * coordinator.switches.length + 4 * coordinator.closeWaits.toNat + coordinator.running.elim 0 Phase.weight

def ownStep : Step → Option Coordinator
  | .callInitialize _ | .callRequestMode _ | .callSwitchMode _ | .callClose => none
  | label => coordinator.step label

theorem weight_transition (source target : Mode) : Phase.weight (coordinator.transition source target) ≤ 6 := by
  grind [transition, take, restore, Phase.weight]

theorem ownStep_uses (label : Step) (next : Coordinator) (taken : coordinator.ownStep label = some next) :
    next.weight < coordinator.weight := by
  cases label with
  | returns outcome =>
    simp only [ownStep, Coordinator.step, bind_eq_bind, bind_eq_some_iff] at taken
    obtain ⟨phase, running, ⟨who, call⟩, calls, ⟨⟩⟩ := taken
    rcases phase with ⟨_, _ | ⟨_, _ | _⟩, _⟩ | _ | _ | _ | _ | _ | _ | _ | ⟨_, _ | ⟨_, _ | _⟩⟩
    all_goals grind [weight, called, goOn, clear, closeOwners, present, Phase.call, Phase.weight,
      take, restore, weight_transition]
  | applySwitch | lockClose =>
    simp only [ownStep, Coordinator.step] at taken
    repeat' split at taken
    all_goals cases taken
    all_goals grind [weight, apply, closeOwners, present, weight_transition, Phase.weight]
  | _ => grind [ownStep, Coordinator.step, weight, Loop.weight, Phase.weight, applyPending, apply, weight_transition]

/-- Whatever the owners answer, the coordinator comes to rest after the last call. -/
theorem own_steps_bounded (coordinator : Coordinator) (labels : List Step) :
    ∀ final ∈ run ownStep coordinator labels, labels.length + final.weight ≤ coordinator.weight := by
  induction labels generalizing coordinator with
  | nil =>
    rintro _ ⟨⟩
    simp
  | cons label labels ih =>
    intro final runs
    obtain ⟨next, taken, runsOn⟩ := bind_eq_some_iff.mp runs
    have used := ownStep_uses coordinator label next taken
    have later := ih next final runsOn
    simp only [List.length_cons]
    omega

/-- TC is active, and a call of `RequestMode` for TUN has still to signal. -/
def tunRequested : Coordinator :=
  { owners := ⟨true, true⟩, debounce := true, current := .tc, generation := 1, pendingMode := .tun, pendingGen := 1,
    signals := 1, active := fun mode => mode = .tc }

/-- TUN cannot be activated and TC is restored, by as many steps as the weight has room for. -/
def tunFails : List Step :=
  [.signal, .receive, .fire, .applyLoop, .returns {}, .returns {}, .returns { failed := true }, .returns {},
    .returns {}, .record]

theorem own_steps_bounded_tunFails : ∃ final, run ownStep tunRequested tunFails = some final ∧ final.current = .tc ∧
    tunFails.length + final.weight ≤ tunRequested.weight ∧ tunRequested.weight = 11 :=
  ⟨_, rfl, rfl, own_steps_bounded tunRequested tunFails _ rfl, rfl⟩

variable {state : Requested}

theorem ownStep_of_not_quiet (busy : ¬state.Quiet) : ∃ label next, requestStep state label = some next ∧
    state.ownStep label = some next.toCoordinator ∧ next.newest = state.newest := by
  simp only [Quiet, not_forall] at busy
  obtain ⟨label, enabled, own⟩ := busy
  obtain ⟨next, taken⟩ := ne_none_iff_exists'.mp enabled
  by_cases returns : ∃ outcome, label = .returns outcome
  · obtain ⟨outcome, rfl⟩ := returns
    simp only [Coordinator.step, bind_eq_bind, bind_eq_some_iff] at taken
    obtain ⟨phase, running, ⟨who, call⟩, calls, -⟩ := taken
    -- the owner may as well succeed
    refine ⟨.returns {}, { (state.called who call {}).goOn phase false with newest := state.newest }, ?_, ?_, rfl⟩ <;>
      simp [requestStep, ownStep, Coordinator.step, running, calls]
  · refine ⟨label, { next with newest := state.newest }, ?_, ?_, rfl⟩ <;>
      cases label <;> simp_all [requestStep, ownStep]

theorem Follows.rests (follows : Follows state) : ∃ own final, run ownStep state.toCoordinator own = some final ∧
    final.Quiet ∧ ∀ mode ∈ state.newest, final.current = mode := by
  induction left : state.weight using Nat.strongRecOn generalizing state with
  | ind left ih =>
    by_cases quiet : state.Quiet
    · exact ⟨[], state.toCoordinator, rfl, quiet, follows.current_of_quiet quiet⟩
    · obtain ⟨label, next, taken, own, same⟩ := ownStep_of_not_quiet quiet
      have ⟨labels, final, runs, rests⟩ := ih _ (by subst left; exact ownStep_uses _ _ _ own) (follows.step taken).1 rfl
      exact ⟨label :: labels, final, by simp [run, own, runs], same ▸ rests⟩

/-- Wherever requests have led, the coordinator's own steps lead to the mode of the newest one. -/
theorem newest_request_reached (debounce : Bool) (current : Mode) (active : Mode → Bool) (labels : List Step) :
    EveryState requestStep (fun state => ∃ own final, run ownStep state.toCoordinator own = some final ∧ final.Quiet ∧
      ∀ mode ∈ state.newest, final.current = mode)
      { owners := ⟨true, true⟩, debounce, current, active, established := true } labels := by
  have keeps state label next (follows : Follows state) (isNext : requestStep state label = some next) :=
    (follows.step isNext).1
  refine everyState_of_everyStep (fun _ => Follows.rests) (fun _ _ _ follows isNext _ => keeps _ _ _ follows isNext) ?_
    (everyStep_of_invariant (fun _ _ _ => trivial) keeps ?_ labels)
  all_goals constructor <;> simp [heading]

end SingBox.Capture.Coordinator
