import SingBox.Ebpf.PolicyRollback

/-! # Policy updates are all or nothing

What is asked of an update of the maps of both families, and the answers of the kernel under which
it is met.
-/

namespace SingBox.Ebpf

open Lib.FaultyMap

variable {Key : Type} [DecidableEq Key]

/-! ## The property -/

/-- A set of prefixes, or of addresses, for each family. -/
structure Policy (Key : Type) extends DualStack (List Key) where
  ipv4Nodup : ipv4.Nodup
  ipv6Nodup : ipv6.Nodup

def holding (keys : List Key) : Key → Bool := fun key => key ∈ keys

/-- The maps that hold exactly the policy. -/
def Policy.maps (policy : Policy Key) : DualStack (Key → Bool) where
  ipv4 := holding policy.ipv4
  ipv6 := holding policy.ipv6

structure AllOrNothing (current next : Policy Key) (update : Update Key) : Prop where
  returns : update.reply ≠ .panicked
  success : update.reply = .ok → update.maps = next.maps
  failure : ∀ error, update.reply = .failed error → policyRollbackFailed error = false → update.maps = current.maps
  /-- What is in both policies stays in its map after every operation. -/
  kept : ∀ run ∈ [update.first, update.second, update.restore], ∀ answer ∈ run.answers, ∀ key ∈ current.of run.family,
    key ∈ next.of run.family → answer.after key

/-! ## The condition -/

namespace Run

variable (run : Run Key)

def Aborted : Prop := ∃ answer ∈ run.answers, Aborts answer

def RollbackFails (ignored : Operation → Option Errno) : Prop :=
  ∃ answer ∈ run.answers, answer.phase = .rollback ∧ Fails (ignored answer.operation) answer

/-- The kernel has told the truth about the entries that were skipped. -/
def Settled : Prop := ∀ answer ∈ run.answers, answer.phase = .entry → ¬Untrue answer

/-- No batch was half done, and the kernel has told the truth to the rollback. -/
def Tracked : Prop := ∀ answer ∈ run.answers, ¬HalfDone answer ∧ (answer.phase = .rollback → ¬Untrue answer)

end Run

/-- The answers under which an update of prefixes is all or nothing. Where an error of a rollback
is reported nothing is promised. -/
@[mk_iff] structure TrackedUpdate (update : Update Key) : Prop where
  first : update.first.Aborted → update.first.RollbackFails tolerated ∨ update.first.Tracked
  second : ¬update.first.Aborted → update.second.Aborted →
    update.second.RollbackFails tolerated ∨ update.restore.Aborted ∨ (update.second.Tracked ∧ update.restore.Settled)
  success : ¬update.first.Aborted → ¬update.second.Aborted → update.first.Settled ∧ update.second.Settled

/-- The answers under which an update of host addresses is all or nothing: an error must be followed
by one in the rollback, which is where it panics otherwise. -/
@[mk_iff] structure ReportedUpdate (update : Update Key) : Prop where
  first : update.first.Aborted → update.first.RollbackFails fun _ => none
  second : ¬update.first.Aborted → update.second.Aborted → update.second.RollbackFails fun _ => none
  restore : ¬update.first.Aborted → update.second.Aborted → update.restore.Aborted →
    update.restore.RollbackFails fun _ => none
  success : ¬update.first.Aborted → ¬update.second.Aborted → update.first.Settled ∧ update.second.Settled

variable {current next : List Key}

/-! ## Prefixes -/

omit [DecidableEq Key] in
theorem Replaces.unchanged (same : current = next) (state : MapState Key) :
    Replaces current next state ((pure none : MapCommand Key (Option PolicyError)) state) := by
  subst same
  refine ⟨by simp, fun _ => iff_of_true (by simp) ⟨?_, ?_⟩, by simp, by simp, Confined.pure none state⟩
  · exact fun key isMember notMem => absurd isMember notMem
  · exact fun key isMember notMem => absurd isMember notMem

theorem replaceIfChanged (currentNodup : current.Nodup) (nextNodup : next.Nodup)
    (changed : Prop) [Decidable changed] (unchanged : changed → current = next) (state : MapState Key) :
    Replaces current next state
      ((if changed then pure none else replaceCIDRPolicyMap current next : MapCommand Key (Option PolicyError)) state) := by
  split
  next isSame => exact .unchanged (unchanged isSame) state
  next => exact replaceCIDRPolicyMap_replaces currentNodup nextNodup state

section Contents

variable {current next : List Key} {contents : Key → Bool}

/-- The map holds the next policy once it holds the additions and none of the removals. -/
theorem eq_holding_iff (outside : ∀ key, (key ∈ current ↔ key ∈ next) → contents key = holding next key) :
    ((∀ key ∈ next, key ∉ current → contents key) ∧ ∀ key ∈ current, key ∉ next → contents key = false) ↔
      contents = holding next := by
  constructor
  · rintro ⟨added, removed⟩
    funext key
    by_cases isCurrent : key ∈ current <;> by_cases isNext : key ∈ next
    · exact outside key (iff_of_true isCurrent isNext)
    · simp [removed key isCurrent isNext, holding, isNext]
    · simp [added key isNext isCurrent, holding, isNext]
    · exact outside key (iff_of_false isCurrent isNext)
  · rintro rfl
    exact ⟨fun key isNext _ => by simpa [holding] using isNext, fun key _ notNext => by simpa [holding] using notNext⟩

theorem holding_same {key : Key} (same : key ∈ current ↔ key ∈ next) : holding current key = holding next key := by
  simp [holding, same]

/-- What settles a replacement, for a map that holds the next policy apart from the difference. -/
theorem settles_iff {before : Key → Bool} {settled : Prop}
    (settles : settled ↔ (∀ key ∈ next, key ∉ current → contents key) ∧
      ∀ key ∈ current, key ∉ next → contents key = false)
    (outside : ∀ key, ¬Differs current next key → contents key = before key)
    (holds : ∀ key, (key ∈ current ↔ key ∈ next) → before key = holding next key) : settled ↔ contents = holding next :=
  settles.trans (eq_holding_iff fun key same => (outside key (not_not.mpr same)).trans (holds key same))

end Contents

theorem dualStack_eq {α : Type} {stack other : DualStack α} :
    stack = other ↔ stack.ipv4 = other.ipv4 ∧ stack.ipv6 = other.ipv6 := by
  cases stack
  cases other
  simp

theorem kept_of_frames {current next : Policy Key} {family other : Family}
    {first second restore : List (Answer Phase Key)} {after : Key → Bool}
    (firstFrame : ∀ answer ∈ first, ∀ key, ¬Differs (current.of family) (next.of family) key →
      answer.after key = holding (current.of family) key)
    (secondFrame : ∀ answer ∈ second, ∀ key, ¬Differs (current.of other) (next.of other) key →
      answer.after key = holding (current.of other) key)
    (outside : ∀ key, ¬Differs (current.of family) (next.of family) key → after key = holding (current.of family) key)
    (restoreFrame : ∀ answer ∈ restore, ∀ key, ¬Differs (next.of family) (current.of family) key →
      answer.after key = after key) :
    ∀ run ∈ [(⟨family, first⟩ : Run Key), ⟨other, second⟩, ⟨family, restore⟩], ∀ answer ∈ run.answers,
      ∀ key ∈ current.of run.family, key ∈ next.of run.family → answer.after key := by
  simp only [List.mem_cons, List.not_mem_nil, or_false, forall_eq_or_imp, forall_eq]
  refine ⟨fun answer isAnswer key isCurrent isNext => ?_, fun answer isAnswer key isCurrent isNext => ?_,
    fun answer isAnswer key isCurrent isNext => ?_⟩
  · simp [firstFrame answer isAnswer key (by simp [Differs, isCurrent, isNext]), holding, isCurrent]
  · simp [secondFrame answer isAnswer key (by simp [Differs, isCurrent, isNext]), holding, isCurrent]
  · simp [restoreFrame answer isAnswer key (by simp [Differs, isCurrent, isNext]),
      outside key (by simp [Differs, isCurrent, isNext]), holding, isCurrent]

/-- What is left to show of an update that has kept what is in both policies. -/
theorem allOrNothing_of_kept {current next : Policy Key} {update : Update Key}
    (kept : ∀ run ∈ [update.first, update.second, update.restore], ∀ answer ∈ run.answers,
      ∀ key ∈ current.of run.family, key ∈ next.of run.family → answer.after key) :
    AllOrNothing current next update ↔ update.reply ≠ .panicked ∧ (update.reply = .ok → update.maps = next.maps) ∧
      ∀ error, update.reply = .failed error → policyRollbackFailed error = false → update.maps = current.maps :=
  ⟨fun ⟨returns, success, failure, _⟩ => ⟨returns, success, failure⟩,
    fun ⟨returns, success, failure⟩ => ⟨returns, success, failure, kept⟩⟩

omit [DecidableEq Key] in
/-- An aborted replacement that reports no error of its rollback has to be undone. -/
theorem Replaces.restores_iff {state : MapState Key} {outcome : MapOutcome Key (Option PolicyError)} {error : PolicyError}
    (replaces : Replaces current next state outcome) (isError : outcome.value = some error) (family : Family)
    (others : Prop) :
    (policyRollbackFailed error = false → outcome.state.contents = state.contents ∧ others) ↔
      Run.RollbackFails ⟨family, outcome.answers⟩ tolerated ∨ Run.Tracked ⟨family, outcome.answers⟩ ∧ others := by
  have flagged : _ ↔ Run.RollbackFails ⟨family, outcome.answers⟩ tolerated := replaces.flagged error isError
  have undone (isClean) : Run.Tracked ⟨family, outcome.answers⟩ ↔ _ := replaces.undone error isError isClean
  rw [← flagged]
  cases isClean : policyRollbackFailed error with
  | true => simp
  | false => simp [undone isClean]

theorem replaceDualStackCIDRPolicy_iff (current next : Policy Key) (faults : List Fault) (support : BatchSupport)
    (scope policyName : String) :
    AllOrNothing current next
        (replaceDualStackCIDRPolicy current.maps faults support current.toDualStack next.toDualStack scope policyName) ↔
      TrackedUpdate
        (replaceDualStackCIDRPolicy current.maps faults support current.toDualStack next.toDualStack scope policyName) := by
  unfold replaceDualStackCIDRPolicy
  extract_lets replaceIPv4 replaceIPv6 restoreIPv6 changed first afterFirst second afterSecond restore rollbackErr
  have firstReplaces : Replaces current.ipv6 next.ipv6 { contents := holding current.ipv6, faults, context := support } first :=
    replaceIfChanged current.ipv6Nodup next.ipv6Nodup (current.ipv6 = next.ipv6) id _
  have secondReplaces : Replaces current.ipv4 next.ipv4 { first.state with contents := holding current.ipv4 } second :=
    replaceIfChanged current.ipv4Nodup next.ipv4Nodup (current.ipv4 = next.ipv4) id _
  have restoreReplaces : Replaces next.ipv6 current.ipv6 { second.state with contents := first.state.contents } restore :=
    replaceIfChanged next.ipv6Nodup current.ipv6Nodup (current.ipv6 = next.ipv6) Eq.symm _
  clear_value first second
  have firstAborts : Run.Aborted ⟨.ipv6, first.answers⟩ ↔ first.value ≠ none := firstReplaces.aborts.symm
  have secondAborts : Run.Aborted ⟨.ipv4, second.answers⟩ ↔ second.value ≠ none := secondReplaces.aborts.symm
  have restoreAborts : Run.Aborted ⟨.ipv6, restore.answers⟩ ↔ restore.value ≠ none := restoreReplaces.aborts.symm
  have firstFrame := firstReplaces.leaves.frame
  have secondFrame := secondReplaces.leaves.frame
  have firstOutside := firstReplaces.leaves.outside
  cases isFirst : first.value with
  | some error =>
    rw [allOrNothing_of_kept (kept_of_frames firstFrame nofun (fun _ _ => rfl) nofun), trackedUpdate_iff]
    have restores := firstReplaces.restores_iff isFirst .ipv6 True
    simpa [firstAborts, isFirst, dualStack_eq, policyRollbackFailed, Policy.maps] using restores
  | none =>
    have firstSettled : Run.Settled ⟨.ipv6, first.answers⟩ ↔ first.state.contents = holding next.ipv6 :=
      settles_iff (firstReplaces.settles isFirst) firstOutside fun _ => holding_same
    cases isSecond : second.value with
    | none =>
      have secondSettled : Run.Settled ⟨.ipv4, second.answers⟩ ↔ second.state.contents = holding next.ipv4 :=
        settles_iff (secondReplaces.settles isSecond) secondReplaces.leaves.outside fun _ => holding_same
      rw [allOrNothing_of_kept (kept_of_frames firstFrame secondFrame (fun _ _ => rfl) nofun), trackedUpdate_iff]
      simp [firstAborts, secondAborts, isFirst, isSecond, dualStack_eq, firstSettled, secondSettled, and_comm, Policy.maps]
    | some error =>
      rw [allOrNothing_of_kept (kept_of_frames firstFrame secondFrame firstOutside restoreReplaces.leaves.frame),
        trackedUpdate_iff]
      cases isRestore : restore.value with
      | some restoreError =>
        simp [firstAborts, secondAborts, restoreAborts, isFirst, isSecond, isRestore, rollbackErr, policyRollbackFailed,
          policyUpdateError]
      | none =>
        have restoreSettled : Run.Settled ⟨.ipv6, restore.answers⟩ ↔ restore.state.contents = holding current.ipv6 :=
          settles_iff (restoreReplaces.settles isRestore) restoreReplaces.leaves.outside
            fun key same => firstOutside key (not_not.mpr same.symm)
        have restores := secondReplaces.restores_iff isSecond .ipv4 (restore.state.contents = holding current.ipv6)
        simpa [firstAborts, secondAborts, restoreAborts, isFirst, isSecond, isRestore, rollbackErr, dualStack_eq,
          restoreSettled, policyRollbackFailed, policyUpdateError, Policy.maps] using restores

/-! ## Host addresses -/

omit [DecidableEq Key] in
/-- An aborted replacement either has an error of its rollback to report, or panics. -/
theorem HostReplaces.rollbackFails_iff {state : MapState Key} {family : Family}
    {outcome : MapOutcome Key Reply} (replaces : HostReplaces current next state outcome)
    (aborted : Run.Aborted ⟨family, outcome.answers⟩) :
    Run.RollbackFails ⟨family, outcome.answers⟩ (fun _ => none) ↔ outcome.value ≠ .panicked := by
  rw [ne_eq, replaces.panics, Run.RollbackFails]
  constructor
  · rintro ⟨answer, isAnswer, isRollback, fails⟩ ⟨-, clean⟩
    exact clean answer isAnswer isRollback fails
  · intro panics
    by_contra clean
    exact panics ⟨aborted, fun answer isAnswer isRollback fails => clean ⟨answer, isAnswer, isRollback, fails⟩⟩

theorem replaceHostAddressPolicy_iff (current next : Policy Key) (faults : List Fault) (support : BatchSupport) :
    AllOrNothing current next
        (replaceHostAddressPolicy current.maps faults support current.toDualStack next.toDualStack) ↔
      ReportedUpdate (replaceHostAddressPolicy current.maps faults support current.toDualStack next.toDualStack) := by
  unfold replaceHostAddressPolicy
  extract_lets first ended afterFirst second endedLater afterSecond restore
  have firstReplaces : HostReplaces current.ipv4 next.ipv4 { contents := holding current.ipv4, faults, context := support }
    first := replaceHostAddressMap_replaces current.ipv4Nodup next.ipv4Nodup _
  have secondReplaces : HostReplaces current.ipv6 next.ipv6 { first.state with contents := holding current.ipv6 } second :=
    replaceHostAddressMap_replaces current.ipv6Nodup next.ipv6Nodup _
  have restoreReplaces : HostReplaces next.ipv4 current.ipv4 { second.state with contents := first.state.contents } restore :=
    replaceHostAddressMap_replaces next.ipv4Nodup current.ipv4Nodup _
  clear_value first second restore
  have firstAborts : Run.Aborted ⟨.ipv4, first.answers⟩ ↔ first.value ≠ .ok := firstReplaces.aborts.symm
  have secondAborts : Run.Aborted ⟨.ipv6, second.answers⟩ ↔ second.value ≠ .ok := secondReplaces.aborts.symm
  have restoreAborts : Run.Aborted ⟨.ipv4, restore.answers⟩ ↔ restore.value ≠ .ok := restoreReplaces.aborts.symm
  have firstFrame := firstReplaces.leaves.frame
  have secondFrame := secondReplaces.leaves.frame
  have keptFirst := @kept_of_frames _ _ current next .ipv4 .ipv6 _ [] [] _ firstFrame nofun (fun _ _ => rfl) nofun
  have keptSecond := @kept_of_frames _ _ current next .ipv4 .ipv6 _ _ [] _ firstFrame secondFrame (fun _ _ => rfl) nofun
  have kept := @kept_of_frames _ _ current next .ipv4 .ipv6 _ _ _ _ firstFrame secondFrame firstReplaces.leaves.outside
    restoreReplaces.leaves.frame
  cases isFirst : first.value with
  | panicked | failed error =>
    have reports := firstReplaces.rollbackFails_iff (firstAborts.mpr (by simp [isFirst]))
    rw [allOrNothing_of_kept keptFirst, reportedUpdate_iff]
    simp [ended, firstAborts, isFirst, reports, policyRollbackFailed, firstReplaces.flagged]
  | ok =>
    have firstSettled : Run.Settled ⟨.ipv4, first.answers⟩ ↔ first.state.contents = holding next.ipv4 :=
      settles_iff (firstReplaces.settles isFirst) firstReplaces.leaves.outside fun _ => holding_same
    cases isSecond : second.value with
    | panicked =>
      have reports := secondReplaces.rollbackFails_iff (secondAborts.mpr (by simp [isSecond]))
      rw [allOrNothing_of_kept keptSecond, reportedUpdate_iff]
      simp [endedLater, firstAborts, secondAborts, isFirst, isSecond, reports]
    | ok =>
      have secondSettled : Run.Settled ⟨.ipv6, second.answers⟩ ↔ second.state.contents = holding next.ipv6 :=
        settles_iff (secondReplaces.settles isSecond) secondReplaces.leaves.outside fun _ => holding_same
      rw [allOrNothing_of_kept keptSecond, reportedUpdate_iff]
      simp [endedLater, firstAborts, secondAborts, isFirst, isSecond, dualStack_eq, firstSettled, secondSettled, Policy.maps]
    | failed error =>
      have reports := secondReplaces.rollbackFails_iff (secondAborts.mpr (by simp [isSecond]))
      have isFlagged := secondReplaces.flagged error isSecond
      rw [allOrNothing_of_kept kept, reportedUpdate_iff]
      cases isRestore : restore.value with
      | ok =>
        simp [firstAborts, secondAborts, restoreAborts, isFirst, isSecond, isRestore, reports, isFlagged, policyRollbackFailed]
      | panicked | failed restoreError =>
        have restoreReports := restoreReplaces.rollbackFails_iff (restoreAborts.mpr (by simp [isRestore]))
        simp [firstAborts, secondAborts, restoreAborts, isFirst, isSecond, isRestore, reports, restoreReports,
          policyRollbackFailed, policyUpdateError]

/-! ## Every update -/

/-- For every two policies and every way in which the operations may fail, an update of prefixes is
all or nothing exactly if it has kept track of what the kernel has done, and an update of host
addresses exactly if every error of it is followed by one of its rollback. -/
theorem policy_updates_all_or_nothing_iff (current next : Policy Key) (faults : List Fault) (support : BatchSupport)
    (scope policyName : String) :
    (AllOrNothing current next
        (replaceDualStackCIDRPolicy current.maps faults support current.toDualStack next.toDualStack scope policyName) ↔
      TrackedUpdate
        (replaceDualStackCIDRPolicy current.maps faults support current.toDualStack next.toDualStack scope policyName)) ∧
    (AllOrNothing current next
        (replaceHostAddressPolicy current.maps faults support current.toDualStack next.toDualStack) ↔
      ReportedUpdate (replaceHostAddressPolicy current.maps faults support current.toDualStack next.toDualStack)) :=
  ⟨replaceDualStackCIDRPolicy_iff current next faults support scope policyName,
    replaceHostAddressPolicy_iff current next faults support⟩

def emptyPolicy : Policy Nat where
  ipv4 := []
  ipv6 := []
  ipv4Nodup := by decide
  ipv6Nodup := by decide

def twoEntries : Policy Nat where
  ipv4 := [1, 2]
  ipv6 := []
  ipv4Nodup := by decide
  ipv6Nodup := by decide

/-- A batch adds the first of two prefixes and is then reported as not supported, and the second
prefix cannot be added: the error does not tell that the first one is still there. An address
that cannot be added makes the update of host addresses panic. -/
theorem half_done_batch_stays :
    (¬AllOrNothing emptyPolicy twoEntries
      (replaceDualStackCIDRPolicy emptyPolicy.maps
        [{ processed := 1, errno := some .EINVAL }, {}, {}, { errno := some .inputOutput }] (fun _ => .unknown)
        emptyPolicy.toDualStack twoEntries.toDualStack "TC " "bypass CIDR")) ∧
    ¬AllOrNothing emptyPolicy twoEntries
      (replaceHostAddressPolicy emptyPolicy.maps [{ errno := some .inputOutput }] (fun _ => .unknown)
        emptyPolicy.toDualStack twoEntries.toDualStack) := by
  constructor
  · intro allOrNothing
    have unchanged := allOrNothing.failure _ rfl rfl
    have absent := congrFun (congrArg DualStack.ipv4 unchanged) 1
    revert absent
    decide +kernel
  · intro allOrNothing
    exact allOrNothing.returns rfl

end SingBox.Ebpf
