import SingBox.Ebpf.PolicyBatch

/-! # Replacement of one policy map

What the replacement of the entries of a map comes to, and what its rollback: told by the answers
of the kernel, for a map that need not hold what the caller takes it to hold.
-/

open List And

namespace SingBox.Ebpf

open Lib.FaultyMap

variable {Key : Type} [DecidableEq Key]

variable {operation : Operation} {keys removed current next : List Key} {key : Key} {state : MapState Key}

/-! ## One half of a replacement -/

/-- The additions or the removals: the keys that the caller is told of, and those it has lost. -/
structure Applies (operation : Operation) (keys : List Key) (state : MapState Key)
    (outcome : MapOutcome Key (List Key × Option Errno)) (lost : List Key) : Prop where
  contents : outcome.state.contents = write operation (outcome.value.1 ++ lost) state.contents
  nodup : outcome.value.1.Nodup
  subset : ∀ key ∈ outcome.value.1 ++ lost, key ∈ keys
  fresh : ∀ key ∈ outcome.value.1 ++ lost, operation.refusal (state.contents key) = none
  apart : ∀ key ∈ lost, key ∉ outcome.value.1
  halfDone : lost ≠ [] ↔ ∃ answer ∈ outcome.answers, HalfDone answer
  settles : outcome.value.2 = none →
    ((∀ answer ∈ outcome.answers, answer.phase = .entry → ¬Untrue answer) ↔
      ∀ key ∈ keys, outcome.state.contents key = operation.value)
  aborts : outcome.value.2 ≠ none ↔ ∃ answer ∈ outcome.answers, Aborts answer

section Apply

variable {operation : Operation} {keys : List Key} {state : MapState Key}
  {batched : MapOutcome Key (Nat × Option Errno)} {half : Nat}

omit [DecidableEq Key] in
theorem lost_apart {processed : Nat} (nodup : keys.Nodup) :
    ∀ key ∈ (keys.drop processed).take half, key ∉ keys.take processed := by
  intro key isLost isTaken
  rw [← take_append_drop processed keys] at nodup
  exact (nodup_append.mp nodup).2.2 key isTaken key (mem_of_mem_take isLost) rfl

section
variable (writes : Writes operation keys state batched half)
include writes

theorem Writes.lost_ne_nil :
    (keys.drop batched.value.1).take half ≠ [] ↔ ∃ answer ∈ batched.answers, HalfDone answer := by
  rw [← writes.halfDone, ne_eq, take_eq_nil_iff, drop_eq_nil_iff]
  have bound := writes.bound
  omega

/-- The update ends here: with an error, or because everything has been processed. -/
theorem Writes.applies (nodup : keys.Nodup) (notEntry : ∀ answer ∈ batched.answers, answer.phase ≠ .entry)
    (ends : ∀ errno, batched.value.2 = some errno → tolerated operation ≠ some errno) :
    Applies operation keys state
      { value := (keys.take batched.value.1, batched.value.2), answers := batched.answers, state := batched.state }
      ((keys.drop batched.value.1).take half) := by
  constructor
  case contents => rw [← take_add, writes.contents]
  case nodup => exact nodup.sublist (take_sublist _ _)
  case subset =>
    rw [← take_add]
    exact fun key isMember => mem_of_mem_take isMember
  case fresh =>
    rw [← take_add]
    exact writes.fresh
  case apart => exact lost_apart nodup
  case halfDone => exact writes.lost_ne_nil
  case settles =>
    intro succeeds
    refine iff_of_true (fun answer isAnswer isEntry => absurd isEntry (notEntry answer isAnswer)) fun key isMember => ?_
    rw [writes.contents, writes.complete succeeds, write_of_mem]
    rwa [take_of_length_le (Nat.le_add_right _ _)]
  case aborts =>
    rw [← writes.aborts, Option.ne_none_iff_exists']
    exact exists_congr fun errno => ⟨fun isErrno => ⟨isErrno, ends errno isErrno⟩, left⟩

theorem Writes.applies_retried (notPut : operation ≠ .put) (nodup : keys.Nodup)
    (notEntry : ∀ answer ∈ batched.answers, answer.phase ≠ .entry) (isTolerated : batched.value.2 = tolerated operation)
    {retried : MapOutcome Key (List Key × Option Errno)} (entries : ∀ answer ∈ retried.answers, answer.phase = .entry)
    (retries : Retries operation (keys.drop batched.value.1) batched.state retried) :
    Applies operation keys state
      { value := (keys.take batched.value.1 ++ retried.value.1, retried.value.2)
        answers := batched.answers ++ retried.answers, state := retried.state }
      ((keys.drop batched.value.1).take half) := by
  have split := take_append_drop batched.value.1 keys
  have noneAborts : ¬∃ answer ∈ batched.answers, Aborts answer := by
    rw [← writes.aborts, isTolerated]
    rintro ⟨errno, isErrno, ends⟩
    exact ends isErrno
  have noneHalf : ¬∃ answer ∈ retried.answers, HalfDone answer := by
    rintro ⟨answer, isAnswer, halfDone⟩
    exact not_halfDone_of_ne (by simp [entries answer isAnswer]) halfDone
  -- what a batch has processed is refused to the loop after it
  have retriedFresh : ∀ key ∈ retried.value.1, key ∉ keys.take (batched.value.1 + half) := by
    intro key isRetried isTaken
    have isFresh := retries.fresh key isRetried
    rw [writes.contents, write_of_mem isTaken] at isFresh
    exact refusal_value notPut isFresh
  constructor
  case contents =>
    rw [retries.contents, writes.contents, ← write_append, take_add]
    funext key
    refine if_congr ?_ rfl rfl
    simp only [mem_append]
    tauto
  case nodup =>
    rw [← split] at nodup
    obtain ⟨taken, -, disjoint⟩ := nodup_append.mp nodup
    exact nodup_append.mpr ⟨taken, retries.nodup, fun key isTaken other isRetried =>
      disjoint key isTaken other (retries.subset other isRetried)⟩
  case subset =>
    intro key isMember
    simp only [mem_append] at isMember
    obtain (isTaken | isRetried) | isLost := isMember
    · exact mem_of_mem_take isTaken
    · exact mem_of_mem_drop (retries.subset key isRetried)
    · exact mem_of_mem_drop (mem_of_mem_take isLost)
  case fresh =>
    intro key isMember
    by_cases isRetried : key ∈ retried.value.1
    · have isFresh := retries.fresh key isRetried
      rwa [writes.contents, write_of_notMem (retriedFresh key isRetried)] at isFresh
    · apply writes.fresh
      rw [take_add]
      simp only [mem_append] at isMember ⊢
      tauto
  case apart =>
    intro key isLost isApplied
    obtain isTaken | isRetried := mem_append.mp isApplied
    · exact lost_apart nodup key isLost isTaken
    · apply retriedFresh key isRetried
      rw [take_add]
      exact mem_append_right _ isLost
  case halfDone =>
    simp only [mem_append, or_and_right, exists_or, noneHalf, or_false]
    exact writes.lost_ne_nil
  case settles =>
    intro succeeds
    have settled : (∀ answer ∈ batched.answers ++ retried.answers, answer.phase = .entry → ¬Untrue answer) ↔
        ∀ answer ∈ retried.answers, ¬Untrue answer := by
      rw [forall_mem_append, and_iff_right fun answer isAnswer isEntry => absurd isEntry (notEntry answer isAnswer)]
      exact forall₂_congr fun answer isAnswer => by simp [entries answer isAnswer]
    rw [settled, retries.settles succeeds]
    constructor
    · intro settled key isMember
      rw [← split, mem_append] at isMember
      obtain isTaken | isDropped := isMember
      · have isWritten : key ∈ keys.take (batched.value.1 + half) := by
          rw [take_add]
          exact mem_append_left _ isTaken
        rw [retries.contents, write_of_notMem fun isRetried => retriedFresh key isRetried isWritten, writes.contents,
          write_of_mem isWritten]
      · exact settled key isDropped
    · exact fun settled key isDropped => settled key (mem_of_mem_drop isDropped)
  case aborts =>
    simp only [mem_append, or_and_right, exists_or, noneAborts, false_or]
    exact retries.aborts

end

end Apply

theorem applyEntries_confined (operation : Operation) (keys : List Key) :
    Confined (fun phase _ => phase ≠ .rollback) (· ∈ keys) (applyEntries operation keys) := by
  refine .bind ((mapBatchChunks_confined operation keys.length keys).mono ?_ fun _ => id) fun answer => ?_
  · rintro phase operation (rfl | rfl) <;> decide
  · obtain ⟨processed, errno⟩ := answer
    cases errno with
    | none => exact .pure _
    | some errno =>
      dsimp only
      split
      · exact .pure _
      · refine .bind ((retryEntries_confined operation _).mono ?_ fun _ => mem_of_mem_drop) fun _ => .pure _
        rintro phase operation rfl
        decide

theorem applyEntries_applies (notPut : operation ≠ .put) (nodup : keys.Nodup) (state : MapState Key) :
    ∃ lost, Applies operation keys state (applyEntries operation keys state) lost := by
  obtain ⟨half, writes⟩ := mapBatchChunks_writes notPut (Nat.le_refl keys.length) nodup state
  have notEntry : ∀ answer ∈ (mapBatchChunks operation keys.length keys state).answers, answer.phase ≠ .entry := by
    intro answer isAnswer
    obtain isBatch | isFallback := (mapBatchChunks_confined operation keys.length keys state).kind answer isAnswer
    · simp [isBatch]
    · simp [isFallback]
  refine ⟨(keys.drop (mapBatchChunks operation keys.length keys state).value.1).take half, ?_⟩
  rw [applyEntries]
  simp only [mapBatch, bind_apply]
  cases isErrno : (mapBatchChunks operation keys.length keys state).value.2 with
  | none =>
    have applies := writes.applies nodup notEntry (by simp [isErrno])
    simpa [isErrno] using applies
  | some errno =>
    by_cases isTolerated : tolerated operation = some errno
    · have retries := retryEntries_retries operation
        (nodup.sublist (drop_sublist (mapBatchChunks operation keys.length keys state).value.1 keys))
        (mapBatchChunks operation keys.length keys state).state
      have applies := writes.applies_retried notPut nodup notEntry (isErrno.trans isTolerated.symm)
        (retryEntries_confined operation _ _).kind retries
      simpa [isTolerated] using applies
    · have applies := writes.applies nodup notEntry fun other isOther => by
        rw [isErrno] at isOther
        rwa [← isOther]
      simpa [isErrno, isTolerated] using applies

/-! ## Rollback -/

/-- An error that the loop of a rollback does not ignore. -/
def Fails (ignored : Option Errno) (answer : Answer Phase Key) : Prop :=
  ∃ errno, answer.errno = some errno ∧ ignored ≠ some errno

structure Undoes (operation : Operation) (ignored : Option Errno) (keys : List Key)
    (outcome : MapOutcome Key (List Errno)) : Prop where
  clean : outcome.value = [] ↔ ∀ answer ∈ outcome.answers, ¬Fails ignored answer
  settles : ignored = tolerated operation → outcome.value = [] →
    ((∀ answer ∈ outcome.answers, ¬Untrue answer) ↔ ∀ key ∈ keys, outcome.state.contents key = operation.value)

theorem undoEntries_confined (operation : Operation) (ignored : Option Errno) (keys : List Key) :
    Confined (fun phase given => phase = .rollback ∧ given = operation) (· ∈ keys)
      (undoEntries operation ignored keys) := by
  induction keys with
  | nil => exact .pure _
  | cons key keys ih =>
    refine .bind (.perform ⟨rfl, rfl⟩ (by simp)) fun _ => .bind ?_ fun _ => .pure _
    exact ih.mono (fun _ _ => id) fun _ => mem_cons_of_mem _

theorem undoEntries_undoes (operation : Operation) (ignored : Option Errno) (nodup : keys.Nodup)
    (state : MapState Key) : Undoes operation ignored keys (undoEntries operation ignored keys state) := by
  induction keys generalizing state with
  | nil => constructor <;> simp [undoEntries]
  | cons key keys ih =>
    obtain ⟨notMem, nodup⟩ := nodup_cons.mp nodup
    obtain ⟨answer, performed⟩ := performs Phase.rollback operation key state
    have later := ih nodup (perform Phase.rollback operation key state).state
    have isFirst : ((perform Phase.rollback operation key state).value.filter fun errno => ignored ≠ some errno).toList = [] ↔
        ¬Fails ignored answer := by
      rw [Fails, performed.errno]
      cases (perform Phase.rollback operation key state).value <;> simp
    rw [undoEntries]
    simp only [bind_apply, pure_apply, append_nil, performed.answers, singleton_append]
    constructor
    case clean => simp only [append_eq_nil_iff, isFirst, later.clean, forall_mem_cons]
    case settles =>
      intro isTolerated isClean
      obtain ⟨firstClean, laterClean⟩ := append_eq_nil_iff.mp isClean
      rw [isFirst, Fails, performed.errno, isTolerated] at firstClean
      have settled := performs_settled performed fun errno isErrno => by
        by_contra notTolerated
        exact firstClean ⟨errno, isErrno, notTolerated⟩
      rw [← (undoEntries_confined operation ignored keys _).outside key notMem] at settled
      simp [settled, later.settles isTolerated laterClean]

/-- What a rollback comes to that has been told of the keys in `added` and `removed`. -/
structure RollsBack (added removed : List Key) (outcome : MapOutcome Key (Option PolicyError)) :
    Prop where
  clean : outcome.value = none ↔ ∀ answer ∈ outcome.answers, ¬Fails (tolerated answer.operation) answer
  settles : outcome.value = none → ((∀ answer ∈ outcome.answers, ¬Untrue answer) ↔
    (∀ key ∈ removed, outcome.state.contents key) ∧ ∀ key ∈ added, outcome.state.contents key = false)

theorem joinErrors_eq_none {errnos : List Errno} : joinErrors errnos = none ↔ errnos = [] := by
  cases errnos <;> simp [joinErrors]

theorem rollbackCIDRPolicyMap_confined (added removed : List Key) :
    Confined (fun phase _ => phase = .rollback) (fun key => key ∈ removed ∨ key ∈ added)
      (rollbackCIDRPolicyMap added removed) :=
  .bind ((undoEntries_confined _ _ removed).mono (fun _ _ => left) fun _ => .inl) fun _ =>
    .bind ((undoEntries_confined _ _ added).mono (fun _ _ => left) fun _ => .inr) fun _ => .pure _

theorem rollbackCIDRPolicyMap_rollsBack {added : List Key} (addedNodup : added.Nodup) (removedNodup : removed.Nodup)
    (disjoint : ∀ key ∈ added, key ∉ removed) (state : MapState Key) :
    RollsBack added removed (rollbackCIDRPolicyMap added removed state) := by
  have puts := undoEntries_undoes .put none removedNodup state
  have deletes := undoEntries_undoes .delete (some .ENOENT) addedNodup (undoEntries .put none removed state).state
  rw [rollbackCIDRPolicyMap]
  simp only [bind_apply, pure_apply, append_nil]
  have fails {operation : Operation} {keys : List Key} (state : MapState Key) :
      (∀ answer ∈ (undoEntries operation (tolerated operation) keys state).answers, ¬Fails (tolerated operation) answer) ↔
        ∀ answer ∈ (undoEntries operation (tolerated operation) keys state).answers,
          ¬Fails (tolerated answer.operation) answer :=
    forall₂_congr fun answer isAnswer => by rw [((undoEntries_confined operation _ keys state).kind answer isAnswer).2]
  constructor
  case clean =>
    rw [joinErrors_eq_none, append_eq_nil_iff, puts.clean, deletes.clean, forall_mem_append]
    exact and_congr (fails state) (fails _)
  case settles =>
    intro isClean
    obtain ⟨putsClean, deletesClean⟩ := append_eq_nil_iff.mp (joinErrors_eq_none.mp isClean)
    rw [forall_mem_append, puts.settles rfl putsClean, deletes.settles rfl deletesClean]
    refine and_congr_left' (forall₂_congr fun key isRemoved => ?_)
    rw [(undoEntries_confined .delete (some .ENOENT) added _).outside key fun isAdded => disjoint key isAdded isRemoved]
    rfl

/-! ## Replacement of a map of prefixes -/

/-- The key is in one of the lists only. -/
def Differs (current next : List Key) (key : Key) : Prop := ¬(key ∈ current ↔ key ∈ next)

theorem differs_of_addition (isAddition : key ∈ next.filter (· ∉ current)) : Differs current next key := by
  simp only [mem_filter, decide_eq_true_eq] at isAddition
  simp [Differs, isAddition]

theorem differs_of_removal (isRemoval : key ∈ current.filter (· ∉ next)) : Differs current next key := by
  simp only [mem_filter, decide_eq_true_eq] at isRemoval
  simp [Differs, isRemoval]

/-- What has been done before a rollback: the keys that it is told of, and those that are lost. -/
structure Forward (current next : List Key) (state after : MapState Key)
    (added removed lostAdditions lostRemovals : List Key) (answers : List (Answer Phase Key)) : Prop where
  contents : after.contents =
    write .delete (removed ++ lostRemovals) (write .create (added ++ lostAdditions) state.contents)
  addedNodup : added.Nodup
  removedNodup : removed.Nodup
  isAdded : ∀ key ∈ added ++ lostAdditions, key ∈ next ∧ key ∉ current ∧ state.contents key = false
  isRemoved : ∀ key ∈ removed ++ lostRemovals, key ∈ current ∧ key ∉ next ∧ state.contents key
  addedApart : ∀ key ∈ lostAdditions, key ∉ added
  removedApart : ∀ key ∈ lostRemovals, key ∉ removed
  halfDone : (∃ answer ∈ answers, HalfDone answer) ↔ ¬(lostAdditions = [] ∧ lostRemovals = [])
  leaves : Leaves (fun phase _ => phase ≠ .rollback) (Differs current next) state
    (⟨(), answers, after⟩ : MapOutcome Key Unit)

section Replacement

variable {current next added removed lostAdditions lostRemovals : List Key} {state after : MapState Key}
  {answers : List (Answer Phase Key)} {first second : MapOutcome Key (List Key × Option Errno)}
  {rolledBack : MapOutcome Key (Option PolicyError)}

theorem Applies.forward (applies : Applies .create (next.filter (· ∉ current)) state first lostAdditions)
    (leaves : Leaves (fun phase _ => phase ≠ .rollback) (· ∈ next.filter (· ∉ current)) state first) :
    Forward current next state first.state first.value.1 [] lostAdditions [] first.answers where
  contents := by simpa using applies.contents
  addedNodup := applies.nodup
  removedNodup := nodup_nil
  isAdded key isMember := by
    have isAddition := applies.subset key isMember
    have isFresh := applies.fresh key isMember
    rw [refusal_eq_none (by decide)] at isFresh
    simp only [mem_filter, decide_eq_true_eq] at isAddition
    exact ⟨isAddition.1, isAddition.2, by simpa [Operation.value] using isFresh⟩
  isRemoved := by simp
  addedApart := applies.apart
  removedApart := by simp
  halfDone := by simp [← applies.halfDone]
  leaves := (leaves.mono (fun _ _ => id) fun _ => differs_of_addition).withValue ()

theorem Forward.removals (forward : Forward current next state first.state added [] lostAdditions [] first.answers)
    (applies : Applies .delete (current.filter (· ∉ next)) first.state second lostRemovals)
    (leaves : Leaves (fun phase _ => phase ≠ .rollback) (· ∈ current.filter (· ∉ next)) first.state second) :
    Forward current next state second.state added second.value.1 lostAdditions lostRemovals
      (first.answers ++ second.answers) where
  contents := by
    rw [applies.contents, forward.contents]
    simp
  addedNodup := forward.addedNodup
  removedNodup := applies.nodup
  isAdded := forward.isAdded
  isRemoved key isMember := by
    have isRemoval := applies.subset key isMember
    have isFresh := applies.fresh key isMember
    rw [refusal_eq_none (by decide)] at isFresh
    simp only [mem_filter, decide_eq_true_eq] at isRemoval
    have notAdded : key ∉ added ++ lostAdditions := fun isMember => isRemoval.2 (forward.isAdded key isMember).1
    have isPresent : first.state.contents key := by simpa [Operation.value] using isFresh
    rw [forward.contents, append_nil, write_nil, write_of_notMem notAdded] at isPresent
    exact ⟨isRemoval.1, isRemoval.2, isPresent⟩
  addedApart := forward.addedApart
  removedApart := applies.apart
  halfDone := by
    simp only [mem_append, or_and_right, exists_or, forward.halfDone, ← applies.halfDone]
    tauto
  leaves := forward.leaves.append (leaves.mono (fun _ _ => id) fun _ => differs_of_removal) ()

section
variable (forward : Forward current next state after added removed lostAdditions lostRemovals answers)
include forward

theorem Forward.notAdded (isMember : key ∈ removed ++ lostRemovals) :
    key ∉ added ++ lostAdditions := fun isAdded =>
  (forward.isAdded key isAdded).2.1 (forward.isRemoved key isMember).1

/-- A rollback brings back what there was, exactly if nothing has been lost and the kernel has told
it the truth. -/
theorem Forward.undone_iff (rollsBack : RollsBack added removed rolledBack)
    (outside : ∀ key, ¬(key ∈ removed ∨ key ∈ added) → rolledBack.state.contents key = after.contents key)
    (clean : rolledBack.value = none) :
    ((lostAdditions = [] ∧ lostRemovals = []) ∧ ∀ answer ∈ rolledBack.answers, ¬Untrue answer) ↔
      rolledBack.state.contents = state.contents := by
  rw [rollsBack.settles clean]
  constructor
  · rintro ⟨⟨rfl, rfl⟩, restored, deleted⟩
    have contents := forward.contents
    have isAdded := forward.isAdded
    have isRemoved := forward.isRemoved
    simp only [append_nil] at contents isAdded isRemoved
    funext key
    by_cases wasRemoved : key ∈ removed
    · rw [restored key wasRemoved, (isRemoved key wasRemoved).2.2]
    · by_cases wasAdded : key ∈ added
      · rw [deleted key wasAdded, (isAdded key wasAdded).2.2]
      · rw [outside key (by simp [wasRemoved, wasAdded]), contents, write_of_notMem wasRemoved, write_of_notMem wasAdded]
  · intro same
    refine ⟨⟨eq_nil_iff_forall_not_mem.mpr fun key isLost => ?_,
      eq_nil_iff_forall_not_mem.mpr fun key isLost => ?_⟩, fun key wasRemoved => ?_, fun key wasAdded => ?_⟩
    · -- a lost addition is still there
      have isMember := mem_append_right added isLost
      have notRemoved : key ∉ removed ++ lostRemovals := fun isRemoved => forward.notAdded isRemoved isMember
      have kept := outside key (not_or.mpr ⟨fun wasRemoved => notRemoved (mem_append_left _ wasRemoved),
        forward.addedApart key isLost⟩)
      rw [same, (forward.isAdded key isMember).2.2, forward.contents, write_of_notMem notRemoved,
        write_of_mem isMember] at kept
      cases kept
    · -- a lost removal is still gone
      have isMember := mem_append_right removed isLost
      have kept := outside key (not_or.mpr ⟨forward.removedApart key isLost,
        fun wasAdded => forward.notAdded isMember (mem_append_left _ wasAdded)⟩)
      rw [same, (forward.isRemoved key isMember).2.2, forward.contents, write_of_mem isMember] at kept
      cases kept
    · rw [same, (forward.isRemoved key (mem_append_left _ wasRemoved)).2.2]
    · rw [same, (forward.isAdded key (mem_append_left _ wasAdded)).2.2]

end

end Replacement

/-- What a replacement comes to, on a map that need not hold exactly the current policy. -/
structure Replaces (current next : List Key) (state : MapState Key)
    (outcome : MapOutcome Key (Option PolicyError)) : Prop where
  aborts : outcome.value ≠ none ↔ ∃ answer ∈ outcome.answers, Aborts answer
  settles : outcome.value = none → ((∀ answer ∈ outcome.answers, answer.phase = .entry → ¬Untrue answer) ↔
    (∀ key ∈ next, key ∉ current → outcome.state.contents key) ∧
      ∀ key ∈ current, key ∉ next → outcome.state.contents key = false)
  flagged : ∀ error, outcome.value = some error → (policyRollbackFailed error ↔
    ∃ answer ∈ outcome.answers, answer.phase = .rollback ∧ Fails (tolerated answer.operation) answer)
  undone : ∀ error, outcome.value = some error → policyRollbackFailed error = false →
    ((∀ answer ∈ outcome.answers, ¬HalfDone answer ∧ (answer.phase = .rollback → ¬Untrue answer)) ↔
      outcome.state.contents = state.contents)
  leaves : Leaves (fun _ _ => True) (Differs current next) state outcome

theorem policyRollbackFailed_updateError (errno : Errno) (rollbackErr : Option PolicyError) :
    policyRollbackFailed (policyUpdateError (.errno errno) rollbackErr) = rollbackErr.isSome := by
  cases rollbackErr <;> rfl

theorem Forward.replaces {added lostAdditions lostRemovals : List Key}
    {after : MapState Key} {answers : List (Answer Phase Key)} {errno : Errno}
    (forward : Forward current next state after added removed lostAdditions lostRemovals answers)
    (aborts : ∃ answer ∈ answers, Aborts answer)
    (rollsBack : RollsBack added removed (rollbackCIDRPolicyMap added removed after)) :
    Replaces current next state
      { value := some (policyUpdateError (.errno errno) (rollbackCIDRPolicyMap added removed after).value)
        answers := answers ++ (rollbackCIDRPolicyMap added removed after).answers
        state := (rollbackCIDRPolicyMap added removed after).state } := by
  have confined := rollbackCIDRPolicyMap_confined added removed after
  constructor
  case aborts =>
    obtain ⟨answer, isAnswer, isAbort⟩ := aborts
    exact iff_of_true (by simp) ⟨answer, mem_append_left _ isAnswer, isAbort⟩
  case settles => exact fun succeeds => nomatch succeeds
  case flagged =>
    rintro error ⟨⟩
    rw [policyRollbackFailed_updateError, Option.isSome_iff_ne_none, ne_eq, rollsBack.clean]
    simp only [not_forall, not_not, exists_prop]
    constructor
    · rintro ⟨answer, isAnswer, fails⟩
      exact ⟨answer, mem_append_right _ isAnswer, confined.kind answer isAnswer, fails⟩
    · rintro ⟨answer, isAnswer, isRollback, fails⟩
      obtain isForward | isAnswer := mem_append.mp isAnswer
      · exact absurd isRollback (forward.leaves.kind answer isForward)
      · exact ⟨answer, isAnswer, fails⟩
  case undone =>
    rintro error ⟨⟩ notFailed
    rw [policyRollbackFailed_updateError, Option.isSome_eq_false_iff, Option.isNone_iff_eq_none] at notFailed
    rw [← forward.undone_iff rollsBack confined.outside notFailed, forall_mem_append]
    refine and_congr ?_ (forall₂_congr fun answer isAnswer => ?_)
    · rw [← not_iff_not, ← forward.halfDone]
      push Not
      refine exists_congr fun answer => and_congr_right fun isAnswer => ?_
      simp [forward.leaves.kind answer isAnswer]
    · have isRollback := confined.kind answer isAnswer
      have notHalf : ¬HalfDone answer := not_halfDone_of_ne (by simp [isRollback])
      simp [notHalf, isRollback]
  case leaves =>
    refine (forward.leaves.mono (fun _ _ _ => trivial) fun _ => id).append (confined.mono (fun _ _ _ => trivial) ?_) _
    rintro key (wasRemoved | wasAdded)
    · have isRemoved := forward.isRemoved key (mem_append_left _ wasRemoved)
      simp [Differs, isRemoved]
    · have isAdded := forward.isAdded key (mem_append_left _ wasAdded)
      simp [Differs, isAdded]

theorem replaceCIDRPolicyMap_replaces (currentNodup : current.Nodup) (nextNodup : next.Nodup)
    (state : MapState Key) : Replaces current next state (replaceCIDRPolicyMap current next state) := by
  have addsLeaves := applyEntries_confined .create (next.filter (· ∉ current)) state
  obtain ⟨lostAdditions, adds⟩ := applyEntries_applies (by decide : Operation.create ≠ .put)
    (nextNodup.filter (· ∉ current)) state
  obtain ⟨first, isFirst⟩ : ∃ first, first = applyEntries .create (next.filter (· ∉ current)) state := ⟨_, rfl⟩
  rw [← isFirst] at adds addsLeaves
  have added := adds.forward addsLeaves
  rw [replaceCIDRPolicyMap, bypassCIDRPolicyDelta]
  simp only [bind_apply, ← isFirst]
  cases isErrno : first.value.2 with
  | some errno =>
    have rollsBack := rollbackCIDRPolicyMap_rollsBack added.addedNodup nodup_nil (by simp) first.state
    simpa using added.replaces (adds.aborts.mp (by simp [isErrno])) rollsBack
  | none =>
    have removesLeaves := applyEntries_confined .delete (current.filter (· ∉ next)) first.state
    obtain ⟨lostRemovals, removes⟩ := applyEntries_applies (by decide : Operation.delete ≠ .put)
      (currentNodup.filter (· ∉ next)) first.state
    obtain ⟨second, isSecond⟩ : ∃ second, second = applyEntries .delete (current.filter (· ∉ next)) first.state := ⟨_, rfl⟩
    rw [← isSecond] at removes removesLeaves
    have forward := added.removals removes removesLeaves
    simp only [bind_apply, ← isSecond]
    cases isErrno' : second.value.2 with
    | some errno =>
      have disjoint : ∀ key ∈ first.value.1, key ∉ second.value.1 := fun key isAdded isRemoved =>
        forward.notAdded (mem_append_left _ isRemoved) (mem_append_left _ isAdded)
      have rollsBack := rollbackCIDRPolicyMap_rollsBack forward.addedNodup forward.removedNodup disjoint second.state
      obtain ⟨answer, isAnswer, isAbort⟩ := removes.aborts.mp (by simp [isErrno'])
      simpa using forward.replaces ⟨answer, mem_append_right _ isAnswer, isAbort⟩ rollsBack
    | none =>
      have noneAborts : ¬∃ answer ∈ first.answers ++ second.answers, Aborts answer := by
        simp [or_and_right, exists_or, ← adds.aborts, ← removes.aborts, isErrno, isErrno']
      simp only [pure_apply, append_nil]
      have kept : ∀ key ∈ next, second.state.contents key = first.state.contents key := by
        intro key isNext
        apply removesLeaves.outside
        simp [isNext]
      refine ⟨by simpa using noneAborts, fun _ => ?_, by simp, by simp, ?_⟩
      · rw [forall_mem_append, adds.settles isErrno, removes.settles isErrno']
        simp only [mem_filter, decide_eq_true_eq, and_imp]
        refine and_congr_left' (forall₂_congr fun key isNext => ?_)
        rw [kept key isNext]
        rfl
      · exact (forward.leaves.mono (fun _ _ _ => trivial) fun _ => id).withValue _

/-! ## Replacement of a map of host addresses -/

/-- The loop over the addresses that are added, or removed. -/
structure HostLoops (operation : Operation) (keys : List Key)
    (outcome : MapOutcome Key (Nat × Option Errno)) : Prop where
  aborts : outcome.value.2 ≠ none ↔ ∃ answer ∈ outcome.answers, Aborts answer
  settles : outcome.value.2 = none →
    ((∀ answer ∈ outcome.answers, ¬Untrue answer) ↔ ∀ key ∈ keys, outcome.state.contents key = operation.value)

theorem hostEntries_confined (operation : Operation) (keys : List Key) :
    Confined (fun phase _ => phase = .entry) (· ∈ keys) (hostEntries operation keys) := by
  induction keys with
  | nil => exact .pure _
  | cons key keys ih =>
    refine .bind (.perform rfl (by simp)) fun errno => ?_
    split
    · exact .pure _
    · exact .bind (ih.mono (fun _ _ => id) fun _ => mem_cons_of_mem _) fun _ => .pure _

theorem hostEntries_loops (operation : Operation) (nodup : keys.Nodup)
    (state : MapState Key) : HostLoops operation keys (hostEntries operation keys state) := by
  induction keys generalizing state with
  | nil => constructor <;> simp [hostEntries]
  | cons key keys ih =>
    obtain ⟨notMem, nodup⟩ := nodup_cons.mp nodup
    obtain ⟨answer, performed⟩ := performs Phase.entry operation key state
    have later := ih nodup (perform Phase.entry operation key state).state
    have isAbort : ((perform Phase.entry operation key state).value.filter fun errno => tolerated operation ≠ some errno) ≠
        none ↔ Aborts answer := by
      simp only [Aborts, performed.errno, performed.operation_eq, performed.phase_eq]
      cases (perform Phase.entry operation key state).value <;> simp
    rw [hostEntries]
    simp only [bind_apply]
    cases isErrno : (perform Phase.entry operation key state).value.filter fun errno => tolerated operation ≠ some errno with
    | some errno =>
      rw [isErrno] at isAbort
      simp only [pure_apply, append_nil, performed.answers]
      exact ⟨by simpa using isAbort, by simp⟩
    | none =>
      have notAborts : ¬Aborts answer := by
        rw [← isAbort, isErrno]
        simp
      simp only [bind_apply, pure_apply, append_nil, performed.answers, singleton_append]
      constructor
      case aborts =>
        simp only [mem_cons, or_and_right, exists_or, exists_eq_left, notAborts, false_or]
        exact later.aborts
      case settles =>
        intro succeeds
        have settled := performs_settled performed fun errno isFailure => by
          by_contra notTolerated
          simp [isFailure, notTolerated] at isErrno
        rw [← (hostEntries_confined operation keys _).outside key notMem] at settled
        simp [settled, later.settles succeeds]

structure HostReplaces (current next : List Key) (state : MapState Key)
    (outcome : MapOutcome Key Reply) : Prop where
  aborts : outcome.value ≠ .ok ↔ ∃ answer ∈ outcome.answers, Aborts answer
  settles : outcome.value = .ok → ((∀ answer ∈ outcome.answers, answer.phase = .entry → ¬Untrue answer) ↔
    (∀ key ∈ next, key ∉ current → outcome.state.contents key) ∧
      ∀ key ∈ current, key ∉ next → outcome.state.contents key = false)
  flagged : ∀ error, outcome.value = .failed error → policyRollbackFailed error
  panics : outcome.value = .panicked ↔ (∃ answer ∈ outcome.answers, Aborts answer) ∧
    ∀ answer ∈ outcome.answers, answer.phase = .rollback → ¬Fails none answer
  leaves : Leaves (fun _ _ => True) (Differs current next) state outcome

omit [DecidableEq Key] in
/-- A replacement that is aborted: it panics exactly if its rollback has no error to report. -/
theorem hostReplaces_of_rollback {α : Type}
    {forward : MapOutcome Key α} {undone : MapOutcome Key (Option PolicyError)}
    (aborts : ∃ answer ∈ forward.answers, Aborts answer)
    (leaves : Leaves (fun phase _ => phase = .entry) (Differs current next) state forward)
    (undoneLeaves : Leaves (fun phase _ => phase = .rollback) (Differs current next) forward.state undone)
    (clean : undone.value = none ↔ ∀ answer ∈ undone.answers, ¬Fails none answer) (errno : Errno) (message : String) :
    HostReplaces current next state
      { value := policyUpdateCause (.errno errno) undone.value message, answers := forward.answers ++ undone.answers
        state := undone.state } := by
  have notOk : policyUpdateCause (.errno errno) undone.value message ≠ .ok := by
    cases undone.value <;> simp [policyUpdateCause]
  obtain ⟨aborting, isAnswer, isAbort⟩ := aborts
  have aborted : ∃ answer ∈ forward.answers ++ undone.answers, Aborts answer :=
    ⟨aborting, mem_append_left _ isAnswer, isAbort⟩
  constructor
  case aborts => exact iff_of_true notOk aborted
  case settles => exact fun isOk => absurd isOk notOk
  case flagged =>
    intro error isError
    cases isClean : undone.value <;> simp only [isClean, policyUpdateCause] at isError <;> cases isError
    rfl
  case panics =>
    have panics : policyUpdateCause (.errno errno) undone.value message = .panicked ↔ undone.value = none := by
      cases undone.value <;> simp [policyUpdateCause]
    rw [panics, clean]
    simp only [aborted, true_and, forall_mem_append]
    constructor
    · refine fun isClean => ⟨fun answer isAnswer isRollback => ?_, fun answer isAnswer _ => isClean answer isAnswer⟩
      rw [leaves.kind answer isAnswer] at isRollback
      cases isRollback
    · exact fun isClean answer isAnswer => isClean.2 answer isAnswer (undoneLeaves.kind answer isAnswer)
  case leaves =>
    exact (leaves.mono (fun _ _ _ => trivial) fun _ => id).append
      (undoneLeaves.mono (fun _ _ _ => trivial) fun _ => id) _

theorem replaceHostAddressMap_replaces (currentNodup : current.Nodup) (nextNodup : next.Nodup)
    (state : MapState Key) : HostReplaces current next state (replaceHostAddressMap current next state) := by
  obtain ⟨first, isFirst⟩ : ∃ first, first = hostEntries .put (next.filter (· ∉ current)) state := ⟨_, rfl⟩
  have adds := hostEntries_loops .put (nextNodup.filter (· ∉ current)) state
  have addsLeaves := (hostEntries_confined .put (next.filter (· ∉ current)) state).mono (fun _ _ => id)
    fun _ => differs_of_addition
  rw [← isFirst] at adds addsLeaves
  rw [replaceHostAddressMap]
  simp only [bind_apply, ← isFirst]
  cases isErrno : first.value.2 with
  | some errno =>
    have deletes := undoEntries_undoes .delete none
      ((nextNodup.filter (· ∉ current)).sublist (take_sublist first.value.1 _)) first.state
    have deletesLeaves := (undoEntries_confined .delete none ((next.filter (· ∉ current)).take first.value.1) first.state).mono
      (fun _ _ => left) fun _ isTaken => differs_of_addition (mem_of_mem_take isTaken)
    have rolledBack := hostReplaces_of_rollback (adds.aborts.mp (by simp [isErrno])) addsLeaves
      (deletesLeaves.withValue (joinErrors _)) (joinErrors_eq_none.trans deletes.clean) errno "rollback added host addresses"
    simpa using rolledBack
  | none =>
    obtain ⟨second, isSecond⟩ : ∃ second, second = hostEntries .delete (current.filter (· ∉ next)) first.state := ⟨_, rfl⟩
    have removes := hostEntries_loops .delete (currentNodup.filter (· ∉ next)) first.state
    have removesLeaves := hostEntries_confined .delete (current.filter (· ∉ next)) first.state
    rw [← isSecond] at removes removesLeaves
    have forward := addsLeaves.append (removesLeaves.mono (fun _ _ => id) fun _ => differs_of_removal) second.value
    simp only [bind_apply, ← isSecond]
    cases isErrno' : second.value.2 with
    | some errno =>
      obtain ⟨puts, isPuts⟩ : ∃ puts, puts = undoEntries .put none
        ((current.filter (· ∉ next)).take second.value.1) second.state := ⟨_, rfl⟩
      have restores := undoEntries_undoes .put none
        ((currentNodup.filter (· ∉ next)).sublist (take_sublist second.value.1 _)) second.state
      have restoresLeaves := (undoEntries_confined .put none ((current.filter (· ∉ next)).take second.value.1)
        second.state).mono (fun _ _ => left) fun _ isTaken => differs_of_removal (mem_of_mem_take isTaken)
      rw [← isPuts] at restores restoresLeaves
      have deletes := undoEntries_undoes .delete none (nextNodup.filter (· ∉ current)) puts.state
      have deletesLeaves := (undoEntries_confined .delete none (next.filter (· ∉ current)) puts.state).mono
        (fun _ _ => left) fun _ => differs_of_addition
      obtain ⟨answer, isAnswer, isAbort⟩ := removes.aborts.mp (by simp [isErrno'])
      have rolledBack := hostReplaces_of_rollback ⟨answer, mem_append_right _ isAnswer, isAbort⟩ forward
        (restoresLeaves.append deletesLeaves
          (joinErrors (puts.value ++ (undoEntries .delete none (next.filter (· ∉ current)) puts.state).value))) (by
          rw [joinErrors_eq_none, append_eq_nil_iff, restores.clean, deletes.clean, forall_mem_append])
        errno "rollback host address update"
      simpa only [bind_apply, pure_apply, append_nil, ← isPuts, append_assoc] using rolledBack
    | none =>
      have noneAborts : ¬∃ answer ∈ first.answers ++ second.answers, Aborts answer := by
        simp [or_and_right, exists_or, ← adds.aborts, ← removes.aborts, isErrno, isErrno']
      have kept : ∀ key ∈ next, second.state.contents key = first.state.contents key := by
        intro key isNext
        apply removesLeaves.outside
        simp [isNext]
      simp only [pure_apply, append_nil]
      refine ⟨by simpa using noneAborts, fun _ => ?_, by simp, ⟨nofun, fun panics => absurd panics.1 noneAborts⟩, ?_⟩
      · have untrue : (∀ answer ∈ first.answers ++ second.answers, answer.phase = .entry → ¬Untrue answer) ↔
            ∀ answer ∈ first.answers ++ second.answers, ¬Untrue answer :=
          forall₂_congr fun answer isAnswer => by simp [forward.kind answer isAnswer]
        rw [untrue, forall_mem_append, adds.settles isErrno, removes.settles isErrno']
        simp only [mem_filter, decide_eq_true_eq, and_imp]
        refine and_congr_left' (forall₂_congr fun key isNext => ?_)
        rw [kept key isNext]
        rfl
      · exact (forward.mono (fun _ _ _ => trivial) fun _ => id).withValue _

end SingBox.Ebpf
