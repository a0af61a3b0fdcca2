import Mathlib.Data.List.Basic

/-! # The capture coordinator

`common/capture/coordinator.go` hands the interception of packets from one backend to another.
`transitionAccess` serialises the transitions, so that at most one call is between two calls
of its owners at any time: `running` is the place of that call. Everything else a method does
stands under `stateAccess` and is one step here. The outcome of a call of an owner is given by
the step, together with whether the owner is left active by a call that leaves this open.
-/

namespace SingBox.Capture

/-! ## Owners -/

inductive Mode where
  | none
  | tc
  | tun
deriving DecidableEq, Repr

def validMode : UInt8 → Option Mode
  | 0 => some .none
  | 1 => some .tc
  | 2 => some .tun
  | _ => none

inductive OwnerCall where
  | prepare
  | activate
  | deactivate
  | close
deriving DecidableEq, Repr

structure Outcome where
  failed : Bool := false
  leaves : Bool := false
deriving DecidableEq, Repr

/-- Whether the owner is active after the call. `Prepare` does not change it, a failed `Activate`
may leave the owner active, a failed `Deactivate` may leave it as it was, and so may `Close`. -/
def OwnerCall.activeAfter : OwnerCall → Outcome → Bool → Bool
  | .prepare, _, active => active
  | .activate, outcome, _ => !outcome.failed || outcome.leaves
  | .deactivate, outcome, active => outcome.failed && outcome.leaves && active
  | .close, outcome, active => outcome.leaves && active

/-! ## The coordinator -/

/-- Where the call that holds `transitionAccess` is: before which call of an owner, or before it
records the result of the transition. -/
inductive Phase where
  /-- The loop of `Initialize`; `failed` tells whether an owner could not be deactivated. -/
  | clearing (mode : Mode) (remaining : List Mode) (failed : Bool)
  | deactivating (source target : Mode)
  | preparing (source target : Mode)
  | activating (source target : Mode)
  /-- `targetOwner.Deactivate` after a failure. -/
  | cleaning (source target : Mode)
  | restoring (source : Mode)
  | settled (result : Mode)
  /-- `Close`, before it deactivates the last owner. -/
  | closing (last : Mode)
  | closingOwners (last : Mode) (remaining : List Mode)
deriving DecidableEq, Repr

/-- The call of an owner that comes next. -/
def Phase.call : Phase → Option (Mode × OwnerCall)
  | .clearing _ (owner :: _) _ => some (owner, .deactivate)
  | .deactivating source _ => some (source, .deactivate)
  | .preparing _ target => some (target, .prepare)
  | .activating _ target => some (target, .activate)
  | .cleaning _ target => some (target, .deactivate)
  | .restoring source => some (source, .activate)
  | .closing last => some (last, .deactivate)
  | .closingOwners _ (owner :: _) => some (owner, .close)
  | .clearing _ [] _ | .settled _ | .closingOwners _ [] => none

/-- The goroutine of `run`. -/
inductive Loop where
  | selecting (timer : Bool)
  /-- It waits for `transitionAccess` in `apply`. -/
  | applying (mode : Mode) (generation : Nat)
  | transitioning
  | stopped
deriving DecidableEq, Repr

structure Owners where
  tc : Bool
  tun : Bool

structure Coordinator where
  owners : Owners
  /-- Whether `Debounce` is positive. -/
  debounce : Bool
  current : Mode := .none
  closed : Bool := false
  generation : Nat := 0
  pendingMode : Mode := .none
  pendingGen : Nat := 0
  appliedGen : Nat := 0
  wake : Bool := false
  loop : Loop := .selecting false
  /-- The calls of `RequestMode` that have not signalled yet. -/
  signals : Nat := 0
  /-- The calls of `SwitchMode` that wait for `transitionAccess`. -/
  switches : List (Mode × Nat) := []
  /-- `Close` has been called and waits for the loop and for `transitionAccess`. -/
  closeWaits : Bool := false
  running : Option Phase := none
  active : Mode → Bool
  /-- An `Initialize` has deactivated every owner. -/
  established : Bool := false

namespace Coordinator

variable (coordinator : Coordinator)

def owner : Mode → Bool
  | .none => false
  | .tc => coordinator.owners.tc
  | .tun => coordinator.owners.tun

/-- `New`. The owners may have been active before. -/
def new (owners : Owners) (debounce : Bool) (before : Mode → Bool) : Coordinator where
  owners
  debounce
  active
    | .none => false
    | .tc => owners.tc && before .tc
    | .tun => owners.tun && before .tun

/-- The owners that are not nil, in the order of `c.owners[1:]`. -/
def present : List Mode := [.tc, .tun].filter coordinator.owner

/-! ### The transition -/

def restore (source : Mode) : Phase :=
  if source = .none ∨ coordinator.owner source = false then .settled .none else .restoring source

variable (source target : Mode)

/-- The transition once the old owner is inactive. -/
def take : Phase :=
  if target = .none then .settled .none
  else if coordinator.owner target = false then coordinator.restore source
  else .preparing source target

def transition : Phase :=
  if source = target then .settled source
  else if source ≠ .none ∧ coordinator.owner source = false then .settled .none
  else if coordinator.owner source then .deactivating source target
  else coordinator.take source target

variable (mode : Mode)

/-- `Initialize`, with owners still to deactivate. -/
def clear (failed : Bool) : List Mode → Coordinator
  | [] =>
    if failed then { coordinator with running := none }
    else { coordinator with established := true, running := some (coordinator.transition .none mode) }
  | remaining => { coordinator with running := some (.clearing mode remaining failed) }

/-- `Close`, with owners still to close. -/
def closeOwners (last : Mode) : List Mode → Coordinator
  | [] => { coordinator with running := none }
  | remaining => { coordinator with running := some (.closingOwners last remaining) }

/-- What the call that holds `transitionAccess` does once the call of an owner has returned. -/
def goOn (phase : Phase) (failed : Bool) : Coordinator :=
  match phase with
  | .clearing mode remaining failedBefore => coordinator.clear mode (failedBefore || failed) remaining.tail
  | .deactivating source target =>
    { coordinator with running := some (if failed then .settled source else coordinator.take source target) }
  | .preparing source target =>
    { coordinator with running := some (if failed then .cleaning source target else .activating source target) }
  | .activating source target =>
    { coordinator with running := some (if failed then .cleaning source target else .settled target) }
  | .cleaning source _ => { coordinator with running := some (coordinator.restore source) }
  | .restoring source => { coordinator with running := some (.settled (if failed then .none else source)) }
  | .settled _ => coordinator
  | .closing last => coordinator.closeOwners last coordinator.present
  | .closingOwners last remaining => coordinator.closeOwners last remaining.tail

def called (owner : Mode) (call : OwnerCall) (outcome : Outcome) : Coordinator :=
  { coordinator with
    active := Function.update coordinator.active owner (call.activeAfter outcome (coordinator.active owner)) }

/-! ### The methods -/

def pending : Option (Mode × Nat) :=
  if coordinator.closed ∨ coordinator.pendingGen = 0 then none
  else some (coordinator.pendingMode, coordinator.pendingGen)

/-- The beginning of `apply`, up to the transition. -/
def apply (generation : Nat) : Coordinator :=
  if coordinator.closed then coordinator
  else if generation ≠ coordinator.generation ∨ generation ≠ coordinator.pendingGen ∨
      generation ≤ coordinator.appliedGen then coordinator
  else { coordinator with
    appliedGen := generation, running := some (coordinator.transition coordinator.current mode) }

/-- `RequestMode` and `SwitchMode` register a request in the same way. -/
def request : Coordinator :=
  { coordinator with
    generation := coordinator.generation + 1, pendingMode := mode, pendingGen := coordinator.generation + 1 }

/-- The loop goes on with what is pending. -/
def applyPending : Coordinator :=
  match coordinator.pending with
  | some (mode, generation) => { coordinator with loop := .applying mode generation }
  | none => { coordinator with loop := .selecting false }

inductive Step where
  | callInitialize (mode : UInt8)
  | callRequestMode (mode : UInt8)
  | callSwitchMode (mode : UInt8)
  | callClose
  /-- A call of `RequestMode` signals the loop. -/
  | signal
  /-- The loop receives the signal, the timer fires, or the loop sees that it should stop. -/
  | receive
  | fire
  | stop
  /-- A waiting `SwitchMode`, the loop or `Close` gets `transitionAccess`. -/
  | applySwitch (index : Nat)
  | applyLoop
  | lockClose
  /-- The call of an owner returns. -/
  | returns (outcome : Outcome)
  /-- The result of the transition is recorded, and `transitionAccess` given back. -/
  | record

def step : Step → Option Coordinator
  | .callInitialize mode =>
    match validMode mode with
    | none => some coordinator
    | some mode =>
      if coordinator.running ≠ none then none
      else if coordinator.closed then some coordinator
      else some (coordinator.clear mode false coordinator.present)
  | .callRequestMode mode =>
    match validMode mode with
    | none => some coordinator
    | some mode =>
      if coordinator.closed then some coordinator
      else some { coordinator.request mode with signals := coordinator.signals + 1 }
  | .callSwitchMode mode =>
    match validMode mode with
    | none => some coordinator
    | some mode =>
      if coordinator.closed then some coordinator
      else some { coordinator.request mode with
        switches := coordinator.switches ++ [(mode, coordinator.generation + 1)] }
  | .callClose =>
    if coordinator.closed then some coordinator
    else some { coordinator with closed := true, closeWaits := true }
  | .signal =>
    if coordinator.signals = 0 then none
    else some { coordinator with signals := coordinator.signals - 1, wake := true }
  | .receive =>
    match coordinator.loop with
    | .selecting _ =>
      if coordinator.wake = false then none
      else if coordinator.debounce then some { coordinator with wake := false, loop := .selecting true }
      else some { coordinator with wake := false }.applyPending
    | _ => none
  | .fire => if coordinator.loop = .selecting true then some coordinator.applyPending else none
  | .stop =>
    match coordinator.loop with
    | .selecting _ => if coordinator.closed then some { coordinator with loop := .stopped } else none
    | _ => none
  | .applySwitch index =>
    match coordinator.running, coordinator.switches[index]? with
    | none, some (mode, generation) =>
      some { coordinator.apply mode generation with switches := coordinator.switches.eraseIdx index }
    | _, _ => none
  | .applyLoop =>
    match coordinator.running, coordinator.loop with
    | none, .applying mode generation =>
      let applied := coordinator.apply mode generation
      some { applied with loop := if applied.running = none then .selecting false else .transitioning }
    | _, _ => none
  | .lockClose =>
    if coordinator.closeWaits = false ∨ coordinator.loop ≠ .stopped ∨ coordinator.running ≠ none then none
    else
      let last := coordinator.current
      let coordinator := { coordinator with closeWaits := false, current := .none }
      if coordinator.owner last then some { coordinator with running := some (.closing last) }
      else some (coordinator.closeOwners last coordinator.present)
  | .returns outcome => do
    let phase ← coordinator.running
    let (owner, call) ← phase.call
    return (coordinator.called owner call outcome).goOn phase outcome.failed
  | .record =>
    match coordinator.running with
    | some (.settled result) => some { coordinator with
        current := result
        running := none
        loop := if coordinator.loop = .transitioning then .selecting false else coordinator.loop }
    | _ => none

end Coordinator

end SingBox.Capture
