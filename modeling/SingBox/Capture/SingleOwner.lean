import SingBox.Capture.Coordinator
import SingBox.Lib.Machine
import Mathlib.Data.List.Nodup

/-! # One capture backend at a time

In each phase of a transition there is at most one owner that may be active, and between
transitions it is that of the recorded mode. Two calls of owners are trusted to have had their
effect whatever they return: the cleanup of a target that could not be activated, and the
activation that restores the old owner. If one of these fails and leaves its owner active, the
mode that is recorded at the end forgets the owner.
-/

namespace SingBox.Capture

open Lib.Machine List Option

namespace Coordinator

variable {coordinator : Coordinator}

/-! ## The property and its condition -/

structure Exclusive (coordinator : Coordinator) : Prop where
  single : coordinator.established → ¬(coordinator.active .tc ∧ coordinator.active .tun)
  recorded : coordinator.established → coordinator.running = none →
    ∀ owner, owner ≠ coordinator.current → coordinator.active owner = false

/-- The call of the owner does not leave an owner active that the coordinator gives up. -/
def Clean (coordinator : Coordinator) (outcome : Outcome) : Prop :=
  match coordinator.running with
  | some (.cleaning _ target) => OwnerCall.deactivate.activeAfter outcome (coordinator.active target) = false
  | some (.restoring _) => outcome.failed → outcome.leaves = false
  | some (.closingOwners _ (owner :: _)) => OwnerCall.close.activeAfter outcome (coordinator.active owner) = false
  | _ => True

def Meets (coordinator : Coordinator) : Step → Prop
  | .returns outcome => coordinator.established → coordinator.Clean outcome
  | _ => True

/-! ## Which owner may be active -/

/-- The owner may be active in the phase. -/
def Phase.Allows (current : Mode) : Option Phase → Mode → Prop
  | none, owner | some (.clearing _ _ _), owner => owner = current
  | some (.deactivating source _), owner => owner = source
  | some (.preparing _ _), _ | some (.activating _ _), _ | some (.restoring _), _ => False
  | some (.cleaning _ target), owner => owner = target
  | some (.settled result), owner => owner = result
  | some (.closing last), owner => owner = last
  | some (.closingOwners last remaining), owner => owner = last ∧ owner ∈ remaining

/-- What the phases themselves promise. -/
def Sound (coordinator : Coordinator) : Option Phase → Prop
  | some (.clearing _ remaining false) => ∀ owner, coordinator.active owner → owner ∈ remaining
  | some (.deactivating source target) | some (.cleaning source target) => source ≠ target
  | some (.preparing source target) | some (.activating source target) => source ≠ target ∧ coordinator.owner target
  | some (.restoring source) => coordinator.owner source
  | some (.closing _) => coordinator.current = .none
  | some (.closingOwners _ remaining) => coordinator.current = .none ∧ remaining.Nodup
  | _ => True

structure Guarded (coordinator : Coordinator) : Prop where
  present : ∀ owner, coordinator.active owner → coordinator.owner owner
  allowed : coordinator.established → ∀ owner, coordinator.active owner →
    Phase.Allows coordinator.current coordinator.running owner
  sound : coordinator.Sound coordinator.running

theorem allows_unique {current first second : Mode} : ∀ {running : Option Phase},
    Phase.Allows current running first → Phase.Allows current running second → first = second
  | none, isFirst, isSecond | some (.clearing _ _ _), isFirst, isSecond
  | some (.deactivating _ _), isFirst, isSecond | some (.cleaning _ _), isFirst, isSecond
  | some (.settled _), isFirst, isSecond | some (.closing _), isFirst, isSecond => isFirst.trans isSecond.symm
  | some (.closingOwners _ _), isFirst, isSecond => isFirst.1.trans isSecond.1.symm

theorem Guarded.exclusive (guarded : coordinator.Guarded) : coordinator.Exclusive where
  single established := by
    rintro ⟨tc, tun⟩
    cases allows_unique (guarded.allowed established .tc tc) (guarded.allowed established .tun tun)
  recorded established idle owner different := by
    by_contra isActive
    have allowed := guarded.allowed established owner (by simpa using isActive)
    rw [idle] at allowed
    exact different allowed

/-! ## The beginning of a transition -/

variable {owner source : Mode} {next : Coordinator} {label : Step} {call : OwnerCall} {outcome : Outcome}
  {remaining : List Mode}

theorem mem_present : owner ∈ coordinator.present ↔ coordinator.owner owner := by
  unfold present
  cases owner <;> simp [Coordinator.owner]

theorem nodup_present : coordinator.present.Nodup :=
  List.Nodup.sublist filter_sublist (by decide)

theorem sound_restore (coordinator : Coordinator) (source : Mode) :
    coordinator.Sound (some (coordinator.restore source)) := by
  unfold restore
  split
  · trivial
  next isOwner =>
    simp only [not_or, Bool.not_eq_false] at isOwner
    exact isOwner.2

theorem sound_take (coordinator : Coordinator) {target : Mode} (different : source ≠ target) :
    coordinator.Sound (some (coordinator.take source target)) := by
  unfold take
  split
  · trivial
  split
  · exact sound_restore coordinator source
  next isOwner => exact ⟨different, by simpa using isOwner⟩

theorem sound_transition (coordinator : Coordinator) (source target : Mode) :
    coordinator.Sound (some (coordinator.transition source target)) := by
  unfold transition
  split
  · trivial
  next different =>
    split
    · trivial
    split
    · exact different
    · exact sound_take coordinator different

/-- Where only the owner of the source may be active, the transition begins in order. -/
theorem allows_transition {current target : Mode}
    (present : ∀ owner, coordinator.active owner → coordinator.owner owner)
    (only : ∀ owner, coordinator.active owner → owner = source) :
    ∀ owner, coordinator.active owner → Phase.Allows current (some (coordinator.transition source target)) owner := by
  intro owner isActive
  cases only owner isActive
  unfold transition
  split
  · rfl
  · simp only [present source isActive, Bool.true_eq_false, and_false, if_false]
    rfl

/-! ## What a step does -/

/-- The part of the state that says which owner may be active. -/
def hold (coordinator : Coordinator) : Owners × Mode × Option Phase × (Mode → Bool) × Bool :=
  (coordinator.owners, coordinator.current, coordinator.running, coordinator.active, coordinator.established)

theorem Guarded.of_hold (guarded : coordinator.Guarded) (same : next.hold = coordinator.hold) : next.Guarded := by
  obtain ⟨owners, debounce, current, closed, generation, pendingMode, pendingGen, appliedGen, wake, loop, signals,
    switches, closeWaits, running, active, established⟩ := next
  obtain ⟨rfl, rfl, rfl, rfl, rfl⟩ := same
  exact ⟨guarded.present, guarded.allowed, guarded.sound⟩

/-- The steps that touch it. -/
inductive Moves (coordinator : Coordinator) : Step → Coordinator → Prop
  | idles {label : Step} {next : Coordinator} (same : next.hold = coordinator.hold) : Moves coordinator label next
  | clears (byte : UInt8) (mode : Mode) (idle : coordinator.running = none) :
      Moves coordinator (.callInitialize byte) (coordinator.clear mode false coordinator.present)
  | applies {label : Step} {next : Coordinator} (mode : Mode) (idle : coordinator.running = none)
      (same : next.hold =
        { coordinator with running := some (coordinator.transition coordinator.current mode) }.hold) :
      Moves coordinator label next
  | closes {next : Coordinator} (idle : coordinator.running = none)
      (isNext : next = { coordinator with
        closeWaits := false, current := .none, running := some (.closing coordinator.current) } ∨
        coordinator.owner coordinator.current = false ∧
          next = { coordinator with closeWaits := false, current := .none }.closeOwners coordinator.current
            coordinator.present) :
      Moves coordinator .lockClose next
  | returns (outcome : Outcome) (phase : Phase) (owner : Mode) (call : OwnerCall)
      (runs : coordinator.running = some phase) (calls : phase.call = some (owner, call)) :
      Moves coordinator (.returns outcome) ((coordinator.called owner call outcome).goOn phase outcome.failed)
  | records {next : Coordinator} (result : Mode) (runs : coordinator.running = some (.settled result))
      (same : next.hold = { coordinator with current := result, running := none }.hold) :
      Moves coordinator .record next

theorem hold_applyPending (coordinator : Coordinator) : coordinator.applyPending.hold = coordinator.hold := by
  unfold applyPending
  split <;> rfl

theorem moves (taken : coordinator.step label = some next) : coordinator.Moves label next := by
  cases label with
  | callInitialize byte =>
    simp only [step] at taken
    split at taken
    · cases taken
      exact .idles rfl
    next mode _ =>
      split at taken
      · cases taken
      next idle =>
        split at taken
        · cases taken
          exact .idles rfl
        · cases taken
          exact .clears byte mode (not_not.mp idle)
  | callRequestMode byte | callSwitchMode byte =>
    simp only [step] at taken
    split at taken
    · cases taken
      exact .idles rfl
    · split at taken <;> cases taken <;> exact .idles rfl
  | callClose =>
    simp only [step] at taken
    split at taken <;> cases taken <;> exact .idles rfl
  | signal =>
    simp only [step] at taken
    split at taken
    · cases taken
    · cases taken
      exact .idles rfl
  | receive =>
    simp only [step] at taken
    split at taken
    · split at taken
      · cases taken
      split at taken
      · cases taken
        exact .idles rfl
      · cases taken
        exact .idles (hold_applyPending _)
    · cases taken
  | fire =>
    simp only [step] at taken
    split at taken
    · cases taken
      exact .idles (hold_applyPending _)
    · cases taken
  | stop =>
    simp only [step] at taken
    split at taken
    · split at taken
      · cases taken
        exact .idles rfl
      · cases taken
    · cases taken
  | applySwitch | applyLoop =>
    simp only [step] at taken
    split at taken
    next mode generation idle _ =>
      cases taken
      unfold apply
      split
      · exact .idles rfl
      split
      · exact .idles rfl
      · exact .applies mode idle rfl
    · cases taken
  | lockClose =>
    simp only [step] at taken
    split at taken
    · cases taken
    next free =>
      have idle : coordinator.running = none := by
        simp only [not_or, not_not] at free
        exact free.2.2
      split at taken
      · cases taken
        exact .closes idle (.inl rfl)
      next absent =>
        cases taken
        exact .closes idle (.inr ⟨eq_false_of_ne_true absent, rfl⟩)
  | returns outcome =>
    simp only [step, bind_eq_bind, bind_eq_some_iff] at taken
    obtain ⟨phase, runs, ⟨owner, call⟩, calls, isNext⟩ := taken
    cases isNext
    exact .returns outcome phase owner call runs calls
  | record =>
    simp only [step] at taken
    split at taken
    next result runs =>
      cases taken
      exact .records result runs rfl
    · cases taken

/-! ## Every step keeps it -/

theorem active_called (coordinator : Coordinator) (owner : Mode) (call : OwnerCall) (outcome : Outcome) (other : Mode) :
    (coordinator.called owner call outcome).active other =
      if other = owner then call.activeAfter outcome (coordinator.active owner) else coordinator.active other := by
  simp [called, Function.update_apply]

theorem active_called_self (coordinator : Coordinator) (owner : Mode) (call : OwnerCall) (outcome : Outcome) :
    (coordinator.called owner call outcome).active owner = call.activeAfter outcome (coordinator.active owner) := by
  rw [active_called, if_pos rfl]

/-- Only the owner that has been activated can be active now and was not before. -/
theorem Guarded.present_called (guarded : coordinator.Guarded) (outcome : Outcome)
    (present : call = .activate → coordinator.owner owner) (other : Mode)
    (isActive : (coordinator.called owner call outcome).active other) : coordinator.owner other := by
  rw [active_called] at isActive
  split at isActive
  next same =>
    subst same
    cases call with
    | activate => exact present rfl
    | prepare => exact guarded.present other isActive
    | deactivate | close => exact guarded.present other (Bool.and_eq_true_iff.mp isActive).2
  · exact guarded.present other isActive

/-- A transition moves on, and no owner is active that the next phase does not allow. -/
theorem Guarded.moveTo (guarded : coordinator.Guarded)
    {phase : Phase} (present : call = .activate → coordinator.owner owner)
    (sound : (coordinator.called owner call outcome).Sound (some phase))
    (allowed : coordinator.established → ∀ other, (coordinator.called owner call outcome).active other →
      Phase.Allows coordinator.current (some phase) other) :
    { coordinator.called owner call outcome with running := some phase }.Guarded where
  present := guarded.present_called outcome present
  allowed := allowed
  sound := sound

/-- `Initialize` goes on to the next owner, or to the transition once every owner is inactive. -/
theorem Guarded.clear {failed : Bool} {mode : Mode}
    (present : ∀ owner, coordinator.active owner → coordinator.owner owner)
    (allowed : coordinator.established → ∀ owner, coordinator.active owner → owner = coordinator.current)
    (cleared : failed = false → ∀ owner, coordinator.active owner → owner ∈ remaining) :
    (coordinator.clear mode failed remaining).Guarded := by
  cases remaining with
  | cons first rest =>
    refine ⟨present, allowed, ?_⟩
    cases failed with
    | true => trivial
    | false => exact cleared rfl
  | nil =>
    cases failed with
    | true => exact ⟨present, allowed, trivial⟩
    | false =>
      refine ⟨present, fun _ owner isActive => ?_, sound_transition _ .none mode⟩
      cases cleared rfl owner isActive

theorem Guarded.closeOwners {last : Mode} (isClosing : coordinator.current = .none) (nodup : remaining.Nodup)
    (present : ∀ owner, coordinator.active owner → coordinator.owner owner)
    (allowed : coordinator.established → ∀ owner, coordinator.active owner → owner = last ∧ owner ∈ remaining) :
    (coordinator.closeOwners last remaining).Guarded := by
  cases remaining with
  | cons first rest => exact ⟨present, allowed, isClosing, nodup⟩
  | nil =>
    refine ⟨present, fun established owner isActive => ?_, trivial⟩
    cases (allowed established owner isActive).2

section
variable (only : ∀ other, coordinator.active other → other = owner)
include only

/-- Where the owner of the call is the only one that may be active, so it is afterwards. -/
theorem only_called (other : Mode)
    (isActive : (coordinator.called owner call outcome).active other) : other = owner := by
  by_contra different
  rw [active_called, if_neg different] at isActive
  exact different (only other isActive)

theorem inactive_called (stops : call.activeAfter outcome (coordinator.active owner) = false) (other : Mode)
    (isActive : (coordinator.called owner call outcome).active other) : False := by
  cases only_called only other isActive
  rw [active_called_self, stops] at isActive
  cases isActive

end

theorem Guarded.returns (guarded : coordinator.Guarded) (outcome : Outcome) {phase : Phase}
    (runs : coordinator.running = some phase) (calls : phase.call = some (owner, call))
    (clean : coordinator.established → coordinator.Clean outcome) :
    ((coordinator.called owner call outcome).goOn phase outcome.failed).Guarded := by
  obtain ⟨failed, leaves⟩ := outcome
  have allowed := guarded.allowed
  have sound := guarded.sound
  simp only [Clean] at clean
  rw [runs] at allowed sound clean
  cases phase with
  | clearing mode remaining failedBefore =>
    cases remaining with
    | nil => cases calls
    | cons first rest =>
      cases calls
      refine Guarded.clear (guarded.present_called _ (by simp)) (fun established other isActive => ?_)
        fun succeeds other isActive => ?_
      · rw [active_called] at isActive
        split at isActive
        next same =>
          have wasActive : coordinator.active owner := (Bool.and_eq_true_iff.mp isActive).2
          exact same ▸ allowed established owner wasActive
        · exact allowed established other isActive
      · simp only [Bool.or_eq_false_iff] at succeeds
        obtain ⟨rfl, rfl⟩ := succeeds
        rw [active_called] at isActive
        split at isActive
        · simp [OwnerCall.activeAfter] at isActive
        next different =>
          exact (mem_cons.mp (sound other isActive)).resolve_left different
  | deactivating source target =>
    cases calls
    cases failed with
    | true =>
      exact guarded.moveTo (by simp) trivial fun established => only_called (allowed established)
    | false =>
      refine guarded.moveTo (by simp) (sound_take _ sound) fun established other isActive => ?_
      exact (inactive_called (allowed established) rfl other isActive).elim
  | preparing source target =>
    cases calls
    have unchanged : coordinator.called owner .prepare ⟨failed, leaves⟩ = coordinator := by
      simp [called, OwnerCall.activeAfter]
    have inactive (established : coordinator.established) (other : Mode)
        (isActive : (coordinator.called owner .prepare ⟨failed, leaves⟩).active other) : False :=
      allowed established other (unchanged ▸ isActive)
    cases failed with
    | true =>
      exact guarded.moveTo (by simp) sound.1 fun established other isActive =>
        (inactive established other isActive).elim
    | false =>
      exact guarded.moveTo (by simp) sound fun established other isActive =>
        (inactive established other isActive).elim
  | activating source target =>
    cases calls
    have only (established : coordinator.established) (other : Mode) (isActive : coordinator.active other) :
        other = owner := (allowed established other isActive).elim
    cases failed with
    | true => exact guarded.moveTo (fun _ => sound.2) sound.1 fun established => only_called (only established)
    | false => exact guarded.moveTo (fun _ => sound.2) trivial fun established => only_called (only established)
  | cleaning source target =>
    cases calls
    exact guarded.moveTo (by simp) (sound_restore _ source)
      fun established other isActive => (inactive_called (allowed established) (clean established) other isActive).elim
  | restoring source =>
    cases calls
    have only (established : coordinator.established) (other : Mode) (isActive : coordinator.active other) :
        other = owner := (allowed established other isActive).elim
    cases failed with
    | true =>
      refine guarded.moveTo (fun _ => sound) trivial fun established other isActive => ?_
      have stops : leaves = false := clean established rfl
      exact (inactive_called (only established) (by simp [OwnerCall.activeAfter, stops]) other isActive).elim
    | false => exact guarded.moveTo (fun _ => sound) trivial fun established => only_called (only established)
  | settled result => cases calls
  | closing last =>
    cases calls
    refine Guarded.closeOwners sound nodup_present (guarded.present_called _ (by simp)) fun established other isActive => ?_
    have present : coordinator.owner other := guarded.present_called _ (by simp) other isActive
    exact ⟨only_called (allowed established) other isActive, mem_present.mpr present⟩
  | closingOwners last remaining =>
    cases remaining with
    | nil => cases calls
    | cons first rest =>
      cases calls
      refine Guarded.closeOwners sound.1 sound.2.of_cons (guarded.present_called _ (by simp))
        fun established other isActive => ?_
      rw [active_called] at isActive
      split at isActive
      · rw [clean established] at isActive
        cases isActive
      next different =>
        obtain ⟨isLast, among⟩ := allowed established other isActive
        exact ⟨isLast, (mem_cons.mp among).resolve_left different⟩

theorem Guarded.step (guarded : coordinator.Guarded)
    (taken : coordinator.step label = some next) (meets : coordinator.Meets label) : next.Guarded := by
  cases moves taken with
  | idles same => exact guarded.of_hold same
  | clears byte mode idle =>
    have allowed := guarded.allowed
    rw [idle] at allowed
    exact Guarded.clear guarded.present allowed fun _ owner isActive => mem_present.mpr (guarded.present owner isActive)
  | applies mode idle same =>
    have allowed := guarded.allowed
    rw [idle] at allowed
    have begun : { coordinator with running := some (coordinator.transition coordinator.current mode) }.Guarded :=
      { present := guarded.present
        allowed := fun established => allows_transition guarded.present (allowed established)
        sound := sound_transition coordinator _ mode }
    exact begun.of_hold same
  | closes idle isNext =>
    have allowed := guarded.allowed
    rw [idle] at allowed
    rcases isNext with rfl | ⟨isAbsent, rfl⟩
    · exact ⟨guarded.present, allowed, rfl⟩
    · refine Guarded.closeOwners rfl nodup_present guarded.present fun established owner isActive => ?_
      have isPresent := guarded.present owner isActive
      rw [allowed established owner isActive, isAbsent] at isPresent
      cases isPresent
  | returns outcome phase owner call runs calls => exact guarded.returns outcome runs calls meets
  | records result runs same =>
    have allowed := guarded.allowed
    rw [runs] at allowed
    have recorded : { coordinator with current := result, running := none }.Guarded :=
      ⟨guarded.present, allowed, trivial⟩
    exact recorded.of_hold same

/-! ## What an owner that is given up leads to -/

/-- An owner is active that the transition will not record. -/
def Doomed (coordinator : Coordinator) : Prop :=
  coordinator.established ∧ ∃ owner, owner ≠ .none ∧ coordinator.active owner ∧
    match coordinator.running with
    | some (.restoring source) => source ≠ .none ∧ owner ≠ source
    | some (.settled result) => owner ≠ result
    | some (.closingOwners _ remaining) => coordinator.current = .none ∧ owner ∉ remaining
    | _ => False

theorem Guarded.ne_none (guarded : coordinator.Guarded) (isActive : coordinator.active owner) : owner ≠ .none := by
  rintro rfl
  cases guarded.present .none isActive

theorem doomed_restore (established : next.established)
    (isOwner : owner ≠ .none) (isActive : next.active owner) (different : owner ≠ source)
    (runs : next.running = some (coordinator.restore source)) : next.Doomed := by
  refine ⟨established, owner, isOwner, isActive, ?_⟩
  rw [runs, restore]
  by_cases noSource : source = .none ∨ coordinator.owner source = false
  · rw [if_pos noSource]
    exact isOwner
  · rw [if_neg noSource]
    exact ⟨fun isNone => noSource (.inl isNone), different⟩

/-- An owner that is closed and still active shows once `Close` is through. -/
theorem doomed_closeOwners {last : Mode} (established : coordinator.established)
    (isOwner : owner ≠ .none) (isActive : coordinator.active owner) (isClosing : coordinator.current = .none)
    (closed : owner ∉ remaining) (exclusive : (coordinator.closeOwners last remaining).Exclusive) :
    (coordinator.closeOwners last remaining).Doomed := by
  cases remaining with
  | nil =>
    have inactive : coordinator.active owner = false :=
      exclusive.recorded established rfl owner (isClosing ▸ isOwner)
    rw [inactive] at isActive
    cases isActive
  | cons => exact ⟨established, owner, isOwner, isActive, isClosing, closed⟩

theorem Guarded.doomed (guarded : coordinator.Guarded)
    (taken : coordinator.step label = some next) (fails : ¬coordinator.Meets label) (exclusive : next.Exclusive) :
    next.Doomed := by
  cases label with
  | returns outcome =>
    simp only [Meets, Classical.not_imp] at fails
    obtain ⟨established, unclean⟩ := fails
    have sound := guarded.sound
    simp only [Coordinator.step, bind_eq_bind, bind_eq_some_iff] at taken
    obtain ⟨phase, runs, ⟨owner, call⟩, calls, isNext⟩ := taken
    cases isNext
    simp only [Clean] at unclean
    rw [runs] at unclean sound
    cases phase with
    | cleaning source target =>
      cases calls
      have stays : OwnerCall.deactivate.activeAfter outcome (coordinator.active owner) := by simpa using unclean
      have wasActive : coordinator.active owner := (Bool.and_eq_true_iff.mp stays).2
      exact doomed_restore established (guarded.ne_none wasActive) ((active_called_self ..).trans stays) (Ne.symm sound) rfl
    | restoring source =>
      cases calls
      obtain ⟨failed, leaves⟩ := outcome
      simp only [Classical.not_imp, Bool.not_eq_false] at unclean
      obtain ⟨rfl, rfl⟩ := unclean
      have isOwner : owner ≠ .none := by
        rintro rfl
        cases sound
      exact ⟨established, owner, isOwner, active_called_self .., isOwner⟩
    | closingOwners last remaining =>
      cases remaining with
      | nil => cases calls
      | cons first rest =>
        cases calls
        have stays : OwnerCall.close.activeAfter outcome (coordinator.active owner) := by simpa using unclean
        have wasActive : coordinator.active owner := (Bool.and_eq_true_iff.mp stays).2
        exact doomed_closeOwners established (guarded.ne_none wasActive) ((active_called_self ..).trans stays) sound.1
          (nodup_cons.mp sound.2).1 exclusive
    | clearing | deactivating | preparing | activating | settled | closing => exact absurd trivial unclean
  | _ => exact absurd trivial fails

section
variable (doomed : coordinator.Doomed)
include doomed

theorem Doomed.of_hold (same : next.hold = coordinator.hold) : next.Doomed := by
  obtain ⟨owners, debounce, current, closed, generation, pendingMode, pendingGen, appliedGen, wake, loop, signals,
    switches, closeWaits, running, active, established⟩ := next
  obtain ⟨rfl, rfl, rfl, rfl, rfl⟩ := same
  exact doomed

theorem Doomed.running_ne : coordinator.running ≠ none := by
  obtain ⟨_, owner, _, _, waits⟩ := doomed
  intro idle
  rw [idle] at waits
  exact waits

theorem Doomed.step (taken : coordinator.step label = some next) (exclusive : next.Exclusive) : next.Doomed := by
  cases moves taken with
  | idles same => exact doomed.of_hold same
  | clears byte mode idle | applies mode idle same | closes idle isNext => exact absurd idle doomed.running_ne
  | records result runs same =>
    -- The transition is over, and its owner is still active.
    obtain ⟨established, owner, _, isActive, waits⟩ := doomed
    rw [runs] at waits
    simp only [hold, Prod.mk.injEq] at same
    obtain ⟨_, isCurrent, idle, sameActive, sameEstablished⟩ := same
    have inactive := exclusive.recorded (sameEstablished ▸ established) idle owner (isCurrent ▸ waits)
    rw [sameActive, isActive] at inactive
    cases inactive
  | returns outcome phase called call runs calls =>
    obtain ⟨established, owner, isOwner, isActive, waits⟩ := doomed
    rw [runs] at waits
    cases phase with
    | restoring source =>
      cases calls
      obtain ⟨isSource, different⟩ := waits
      have stays : (coordinator.called called .activate outcome).active owner := by
        rw [active_called, if_neg different, isActive]
      cases failed : outcome.failed with
      | true => exact ⟨established, owner, isOwner, stays, isOwner⟩
      | false =>
        have restored : (coordinator.called called .activate outcome).active called := by
          simp [active_called_self, OwnerCall.activeAfter, failed]
        -- Both owners are active now.
        have both : (coordinator.called called .activate outcome).active .tc ∧
            (coordinator.called called .activate outcome).active .tun := by
          cases owner <;> cases called <;> simp_all
        exact absurd both (exclusive.single established)
    | settled result => cases calls
    | closingOwners last remaining =>
      cases remaining with
      | nil => cases calls
      | cons first rest =>
        cases calls
        obtain ⟨isClosing, closed⟩ := waits
        simp only [mem_cons, not_or] at closed
        obtain ⟨different, later⟩ := closed
        refine doomed_closeOwners established isOwner ?_ isClosing later exclusive
        rw [active_called, if_neg different, isActive]
    | clearing | deactivating | preparing | activating | cleaning | closing => exact waits.elim

end

/-! ## Whole runs -/

theorem guarded_new (owners : Owners) (debounce : Bool) (before : Mode → Bool) :
    (new owners debounce before).Guarded where
  present owner isActive := by
    cases owner with
    | none => cases isActive
    | tc | tun => exact (Bool.and_eq_true_iff.mp isActive).1
  allowed established := by cases established
  sound := trivial

/-- As long as no call of an owner leaves an owner active that the coordinator gives up, at most one backend is
active; and in a run that ends between transitions every such call shows. -/
theorem single_owner (owners : Owners) (debounce : Bool) (before : Mode → Bool) (steps : List Step) :
    (EveryStep step Meets (new owners debounce before) steps →
      EveryState step Exclusive (new owners debounce before) steps) ∧
    ∀ final, run step (new owners debounce before) steps = some final → final.running = none →
      EveryState step Exclusive (new owners debounce before) steps →
        EveryStep step Meets (new owners debounce before) steps := by
  have initially := guarded_new owners debounce before
  refine ⟨everyState_of_everyStep (fun _ => Guarded.exclusive) (fun _ _ _ guarded => guarded.step) initially, ?_⟩
  intro final runs idle
  exact everyStep_of_everyState (fun _ _ _ guarded => guarded.step) (fun _ _ _ guarded => guarded.doomed)
    (fun _ _ _ doomed => doomed.step) initially runs fun doomed => doomed.running_ne idle

/-- TC is active; TUN cannot be prepared, and restoring TC fails and leaves it active. -/
def failedRestore : List Step :=
  [.callInitialize 1, .returns {}, .returns {}, .returns {}, .returns {}, .record,
    .callSwitchMode 2, .applySwitch 0, .returns {}, .returns { failed := true }, .returns {},
    .returns { failed := true, leaves := true }, .record]

/-- The mode is recorded as none, with TC active. -/
theorem failed_restore_forgets_owner :
    ¬EveryState step Exclusive (new { tc := true, tun := true } false fun _ => false) failedRestore := by
  intro exclusive
  have forgets : (run step (new { tc := true, tun := true } false fun _ => false) failedRestore).any
      fun final => final.established && final.running == none && final.current == .none && final.active .tc := by
    decide +kernel
  obtain ⟨final, runs, ends⟩ := (any_eq_true _ _).mp forgets
  simp only [Bool.and_eq_true, beq_iff_eq] at ends
  obtain ⟨⟨⟨established, idle⟩, isNone⟩, isActive⟩ := ends
  have inactive := (exclusive.final runs).recorded established idle .tc (by simp [isNone])
  rw [isActive] at inactive
  cases inactive

end Coordinator

end SingBox.Capture
