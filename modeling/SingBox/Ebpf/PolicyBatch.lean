import SingBox.Ebpf.PolicyMap

/-! # Batches and entries of a policy update

What the loops of an update have done to the map, told by the answers of the kernel. They lose
track of the entries of a batch that is reported as not supported after it has processed some, and
they take the kernel's word for the state of an entry.
-/

open List

namespace SingBox.Ebpf

open Lib.FaultyMap

variable {operation : Operation}
variable {Key : Type} [DecidableEq Key]

/-! ## Answers -/

section Answers

variable (answer : Answer Phase Key)

/-- The error ends the update. A batch that is not supported only leads to the fallback. -/
def Aborts : Prop :=
  answer.phase ≠ .rollback ∧ ∃ errno, answer.errno = some errno ∧ tolerated answer.operation ≠ some errno ∧
    (answer.phase = .batch → mapBatchUnsupportedError errno = false)

/-- A batch that is reported as not supported after it has processed entries. -/
def HalfDone : Prop :=
  answer.phase = .batch ∧ answer.processed ≠ 0 ∧ ∃ errno, answer.errno = some errno ∧ mapBatchUnsupportedError errno

/-- An entry is reported to exist, or not to exist, and that is not so. -/
def Untrue : Prop :=
  ∃ errno, answer.errno = some errno ∧ tolerated answer.operation = some errno ∧
    ∀ key ∈ answer.keys, answer.operation.refusal (answer.before key) = none

end Answers

theorem refusal_eq_none (notPut : operation ≠ .put) {value : Bool} :
    operation.refusal value = none ↔ value ≠ operation.value := by
  cases operation <;> cases value <;> simp_all [Operation.refusal, Operation.value]

theorem refusal_value (notPut : operation ≠ .put) : operation.refusal operation.value ≠ none := by
  simp [refusal_eq_none notPut]

omit [DecidableEq Key] in
theorem not_halfDone_of_ne {answer : Answer Phase Key} (notBatch : answer.phase ≠ .batch) : ¬HalfDone answer :=
  fun halfDone => notBatch halfDone.1

variable {key : Key}

/-- A key that is written or skipped is what the operation makes it, exactly if the kernel has told
the truth. -/
theorem performs_settled {phase : Phase} {state : MapState Key} {outcome : MapOutcome Key (Option Errno)}
    {answer : Answer Phase Key} (performed : Performs phase operation key state outcome answer)
    (goesOn : ∀ errno, outcome.value = some errno → tolerated operation = some errno) :
    ¬Untrue answer ↔ outcome.state.contents key = operation.value := by
  obtain ⟨succeeds, -, contents⟩ | ⟨fails, contents⟩ := performed.effect
  · simp [Untrue, performed.errno, succeeds, contents, write]
  · obtain ⟨errno, isErrno⟩ := Option.ne_none_iff_exists'.mp fails
    have isTolerated := goesOn errno isErrno
    have notPut : operation ≠ .put := by
      rintro rfl
      cases isTolerated
    simp [Untrue, performed.errno, performed.operation_eq, performed.keys, performed.before, isErrno, isTolerated,
      contents, refusal_eq_none notPut]

/-! ## Batches -/

section Batches

variable {operation : Operation} {keys later : List Key} {state : MapState Key}
  {first second outcome : MapOutcome Key (Nat × Option Errno)} {half halfLater : Nat}

/-- Of the keys, `processed` are told to the caller and `half` more have been processed by a batch
that was then reported as not supported. -/
structure Writes (operation : Operation) (keys : List Key) (state : MapState Key)
    (outcome : MapOutcome Key (Nat × Option Errno)) (half : Nat) : Prop where
  contents : outcome.state.contents = write operation (keys.take (outcome.value.1 + half)) state.contents
  bound : outcome.value.1 + half ≤ keys.length
  fresh : ∀ key ∈ keys.take (outcome.value.1 + half), operation.refusal (state.contents key) = none
  complete : outcome.value.2 = none → outcome.value.1 = keys.length
  halfDone : half ≠ 0 ↔ ∃ answer ∈ outcome.answers, HalfDone answer
  aborts : (∃ errno, outcome.value.2 = some errno ∧ tolerated operation ≠ some errno) ↔
    ∃ answer ∈ outcome.answers, Aborts answer

theorem Writes.append (nodup : (keys ++ later).Nodup) (writes : Writes operation keys state first half)
    (succeeds : first.value.2 = none) (writesLater : Writes operation later first.state second halfLater) :
    Writes operation (keys ++ later) state
      { value := (first.value.1 + second.value.1, second.value.2), answers := first.answers ++ second.answers
        state := second.state } halfLater := by
  have isComplete := writes.complete succeeds
  have isWhole : half = 0 := by
    have bound := writes.bound
    omega
  have contents : first.state.contents = write operation keys state.contents := by
    rw [writes.contents, isComplete, isWhole, Nat.add_zero, take_length]
  have taken : (keys ++ later).take (first.value.1 + second.value.1 + halfLater) =
      keys ++ later.take (second.value.1 + halfLater) := by
    rw [isComplete, Nat.add_assoc, take_length_add_append]
  have apart : ∀ key ∈ later, first.state.contents key = state.contents key := by
    intro key isLater
    rw [contents, write_of_notMem]
    exact fun isMember => (nodup_append.mp nodup).2.2 key isMember key isLater rfl
  have noneAborts : ¬∃ answer ∈ first.answers, Aborts answer := by
    rw [← writes.aborts]
    simp [succeeds]
  have noneHalf : ¬∃ answer ∈ first.answers, HalfDone answer := by
    rw [← writes.halfDone, isWhole]
    simp
  constructor
  case contents =>
    rw [taken, write_append, ← contents]
    exact writesLater.contents
  case bound =>
    have boundLater := writesLater.bound
    simp only [length_append]
    omega
  case fresh =>
    intro key isMember
    rw [taken, mem_append] at isMember
    obtain isMember | isLater := isMember
    · apply writes.fresh
      rwa [isComplete, isWhole, Nat.add_zero, take_length]
    · rw [← apart key (mem_of_mem_take isLater)]
      exact writesLater.fresh key isLater
  case complete =>
    intro none
    rw [length_append, isComplete, writesLater.complete none]
  case halfDone =>
    rw [writesLater.halfDone]
    simp [or_and_right, exists_or, noneHalf]
  case aborts =>
    rw [writesLater.aborts]
    simp [or_and_right, exists_or, noneAborts]

theorem Writes.extend {errno : Errno} (writes : Writes operation keys state outcome half)
    (fails : outcome.value.2 = some errno) (later : List Key) :
    Writes operation (keys ++ later) state outcome half := by
  have taken : (keys ++ later).take (outcome.value.1 + half) = keys.take (outcome.value.1 + half) :=
    take_append_of_le_length writes.bound
  refine ⟨by rw [taken]; exact writes.contents, ?_, by rw [taken]; exact writes.fresh, by simp [fails], writes.halfDone,
    writes.aborts⟩
  have bound := writes.bound
  simp only [length_append]
  omega

theorem mapBatchFallback_confined (operation : Operation) (keys : List Key) :
    Confined (fun phase _ => phase = .fallback) (· ∈ keys) (mapBatchFallback operation keys) := by
  induction keys with
  | nil => exact .pure _
  | cons key keys ih =>
    refine .bind (.perform rfl (by simp)) fun errno => ?_
    cases errno with
    | some errno => exact .pure _
    | none => exact .bind (ih.mono (fun _ _ => id) fun _ => mem_cons_of_mem _) fun _ => .pure _

theorem mapBatchFallback_writes (operation : Operation) (nodup : keys.Nodup) (state : MapState Key) :
    Writes operation keys state (mapBatchFallback operation keys state) 0 := by
  induction keys generalizing state with
  | nil => constructor <;> simp [mapBatchFallback]
  | cons key keys ih =>
    obtain ⟨answer, performed⟩ := performs Phase.fallback operation key state
    have notHalf : ¬HalfDone answer := not_halfDone_of_ne (by simp [performed.phase_eq])
    rw [mapBatchFallback]
    simp only [bind_apply]
    obtain ⟨succeeds, isFresh, contents⟩ | ⟨fails, contents⟩ := performed.effect
    · let first : MapOutcome Key (Nat × Option Errno) :=
        { value := (1, none), answers := [answer], state := (perform Phase.fallback operation key state).state }
      have isErrno : answer.errno = none := performed.errno.trans succeeds
      have writes : Writes operation [key] state first 0 :=
        ⟨contents, by simp [first], by simpa [first] using isFresh, by simp [first], by simp [first, notHalf],
          by simp [first, Aborts, isErrno]⟩
      have later := writes.append nodup rfl (ih (nodup_cons.mp nodup).2 first.state)
      simpa [succeeds, performed.answers, first, Nat.add_comm] using later
    · obtain ⟨errno, isErrno⟩ := Option.ne_none_iff_exists'.mp fails
      simp only [isErrno, pure_apply, append_nil]
      refine ⟨by simp [contents], by simp, by simp, by simp, by simp [performed.answers, notHalf], ?_⟩
      simp [performed.answers, Aborts, performed.phase_eq, performed.operation_eq, performed.errno, isErrno]

theorem mapBatchFallback_stops (operation : Operation) (refused : operation.refusal (state.contents key) ≠ none) :
    (mapBatchFallback operation (key :: keys) state).value.1 = 0 := by
  obtain ⟨answer, performed⟩ := performs Phase.fallback operation key state
  rw [mapBatchFallback]
  obtain ⟨-, isFresh, -⟩ | ⟨fails, -⟩ := performed.effect
  · exact absurd isFresh refused
  · obtain ⟨errno, isErrno⟩ := Option.ne_none_iff_exists'.mp fails
    simp [isErrno]

variable {batched : Answer Phase Key}

theorem writes_of_batch {fault : Fault} (nodup : keys.Nodup)
    (isAnswer : batched = answer .batch operation keys fault state.contents)
    (answers : outcome.answers = [batched]) (value : outcome.value = (batched.processed, batched.errno))
    (contents : outcome.state.contents = batched.after)
    (isSupported : ∀ errno, batched.errno = some errno → mapBatchUnsupportedError errno = false) :
    Writes operation keys state outcome 0 := by
  subst isAnswer
  obtain ⟨bound, fresh, complete⟩ := answer_accepts Phase.batch operation nodup fault state.contents
  refine ⟨by rw [contents, value]; rfl, by simpa [value] using bound, by simpa [value] using fresh,
    by simpa [value] using complete, ?_, ?_⟩
  · simp only [answers, mem_singleton, exists_eq_left, ne_eq, not_true_eq_false, false_iff]
    rintro ⟨-, -, errno, isErrno, isUnsupported⟩
    rw [isSupported errno isErrno] at isUnsupported
    cases isUnsupported
  · simp only [answers, value, mem_singleton, exists_eq_left]
    constructor
    · rintro ⟨errno, isErrno, ends⟩
      exact ⟨nofun, errno, isErrno, ends, fun _ => isSupported errno isErrno⟩
    · rintro ⟨-, errno, isErrno, ends, -⟩
      exact ⟨errno, isErrno, ends⟩

theorem writes_of_unsupported {after : MapState Key} {fault : Fault} {errno : Errno}
    (nodup : keys.Nodup) (notPut : operation ≠ .put)
    (isAnswer : batched = answer .batch operation keys fault state.contents) (isErrno : batched.errno = some errno)
    (isUnsupported : mapBatchUnsupportedError errno)
    (contents : after.contents = write operation (keys.take batched.processed) state.contents) :
    Writes operation keys state
      { mapBatchFallback operation keys after with answers := batched :: (mapBatchFallback operation keys after).answers }
      batched.processed := by
  obtain ⟨bound, fresh, -⟩ := answer_accepts Phase.batch operation nodup fault state.contents
  rw [← isAnswer] at bound fresh
  have isBatch : batched.phase = .batch := by rw [isAnswer]; rfl
  have fallback := mapBatchFallback_writes operation nodup after
  have noneHalf : ¬∃ answer ∈ (mapBatchFallback operation keys after).answers, HalfDone answer := by
    rw [← fallback.halfDone]
    simp
  have notAborts : ¬Aborts batched := by
    rintro ⟨-, other, isOther, -, isSupported⟩
    rw [isErrno] at isOther
    cases isOther
    rw [isSupported isBatch] at isUnsupported
    cases isUnsupported
  -- either the batch has done nothing, or the fallback does nothing
  have alternative : batched.processed = 0 ∨ (mapBatchFallback operation keys after).value.1 = 0 := by
    cases keys with
    | nil => exact .inl (Nat.le_zero.mp bound)
    | cons key keys =>
      refine or_iff_not_imp_left.mpr fun someProcessed => mapBatchFallback_stops operation ?_
      obtain ⟨processed, isProcessed⟩ := Nat.exists_eq_succ_of_ne_zero someProcessed
      rw [contents, write_of_mem (by simp [isProcessed])]
      exact refusal_value notPut
  constructor
  case contents =>
    rw [fallback.contents, contents]
    obtain nothing | nothing := alternative <;> simp [nothing]
  case bound =>
    have fallbackBound := fallback.bound
    obtain nothing | nothing := alternative <;> simp only [nothing] <;> omega
  case fresh =>
    obtain nothing | nothing := alternative
    · intro key isMember
      simp only [nothing, Nat.add_zero] at isMember
      have isFresh := fallback.fresh key isMember
      rwa [contents, nothing, take_zero, write_nil] at isFresh
    · simpa [nothing] using fresh
  case complete => exact fallback.complete
  case halfDone =>
    simp only [mem_cons, or_and_right, exists_or, exists_eq_left, noneHalf, or_false]
    exact ⟨fun someProcessed => ⟨isBatch, someProcessed, errno, isErrno, isUnsupported⟩, fun halfDone => halfDone.2.1⟩
  case aborts =>
    simp only [mem_cons, or_and_right, exists_or, exists_eq_left, notAborts, false_or]
    exact fallback.aborts

end Batches

theorem mapBatchChunk_confined (operation : Operation) (keys : List Key) :
    Confined (fun phase _ => phase = .batch ∨ phase = .fallback) (· ∈ keys) (mapBatchChunk operation keys) := by
  have fallback : Confined (fun phase _ => phase = .batch ∨ phase = .fallback) (· ∈ keys)
      (mapBatchFallback operation keys) :=
    (mapBatchFallback_confined operation keys).mono (fun _ _ => .inr) fun _ => id
  refine .bind .getContext fun support => ?_
  split
  · refine .bind (.batch (.inl rfl) fun _ => id) fun answer => ?_
    obtain ⟨processed, errno⟩ := answer
    cases errno with
    | none =>
      dsimp only
      split
      · exact .pure _
      · split
        · exact .bind (.bind .getContext fun _ => .setContext _) fun _ => .pure _
        · exact .pure _
    | some errno =>
      dsimp only
      split
      · exact .pure _
      · exact .bind (.bind .getContext fun _ => .setContext _) fun _ => fallback
  · exact fallback

omit [DecidableEq Key] in
@[simp] theorem setBatchMode_apply (operation : Operation) (mode : BatchMode) (state : MapState Key) :
    setBatchMode operation mode state =
      { value := (), answers := []
        state := { state with context := Function.update state.context operation mode } } := rfl

variable {keys : List Key}

theorem mapBatchChunk_writes (notPut : operation ≠ .put) (nodup : keys.Nodup) (state : MapState Key) :
    ∃ half, Writes operation keys state (mapBatchChunk operation keys state) half := by
  by_cases isUnsupported : state.context operation = .unsupported
  · refine ⟨0, ?_⟩
    simpa [mapBatchChunk, getContext, isUnsupported] using mapBatchFallback_writes operation nodup state
  · obtain ⟨fault, batched, isAnswer, isBatch⟩ := batch_eq Phase.batch operation keys state
    have complete := (answer_accepts Phase.batch operation nodup fault state.contents).complete
    rw [← isAnswer] at complete
    cases isErrno : batched.errno with
    | none =>
      refine ⟨0, writes_of_batch nodup isAnswer ?_ ?_ ?_ (by simp [isErrno])⟩
      all_goals
        by_cases isUnknown : state.context operation = .unknown <;>
          simp [mapBatchChunk, getContext, isBatch, isErrno, complete isErrno, isUnsupported, isUnknown]
    | some errno =>
      cases isSupported : mapBatchUnsupportedError errno with
      | false =>
        refine ⟨0, writes_of_batch nodup isAnswer ?_ ?_ ?_ (by simp [isErrno, isSupported])⟩
        all_goals simp [mapBatchChunk, getContext, isBatch, isErrno, isUnsupported, isSupported]
      | true =>
        refine ⟨batched.processed, ?_⟩
        have writes := @writes_of_unsupported _ _ operation keys state batched
          { contents := batched.after, faults := state.faults.tail
            context := Function.update state.context operation .unsupported }
          _ errno nodup notPut isAnswer isErrno isSupported (by rw [isAnswer]; rfl)
        simpa [mapBatchChunk, getContext, isBatch, isErrno, isUnsupported, isSupported] using writes

theorem mapBatchChunks_confined (operation : Operation) (chunks : Nat) (keys : List Key) :
    Confined (fun phase _ => phase = .batch ∨ phase = .fallback) (· ∈ keys) (mapBatchChunks operation chunks keys) := by
  induction chunks generalizing keys with
  | zero => cases keys <;> exact .pure _
  | succ chunks ih =>
    cases keys with
    | nil => exact .pure _
    | cons key keys =>
      refine .bind ((mapBatchChunk_confined operation _).mono (fun _ _ => id) fun _ => mem_of_mem_take) fun answer => ?_
      dsimp only
      split
      · exact .pure _
      · exact .bind ((ih _).mono (fun _ _ => id) fun _ => mem_of_mem_drop) fun _ => .pure _

theorem mapBatchChunks_writes (notPut : operation ≠ .put) {chunks : Nat}
    (enough : keys.length ≤ chunks) (nodup : keys.Nodup) (state : MapState Key) :
    ∃ half, Writes operation keys state (mapBatchChunks operation chunks keys state) half := by
  induction chunks generalizing keys state with
  | zero =>
    rw [length_eq_zero_iff.mp (Nat.le_zero.mp enough)]
    exact ⟨0, by constructor <;> simp [mapBatchChunks]⟩
  | succ chunks ih =>
    cases keys with
    | nil => exact ⟨0, by constructor <;> simp [mapBatchChunks]⟩
    | cons key keys =>
      have split := take_append_drop mapBatchMaxEntries (key :: keys)
      obtain ⟨half, writes⟩ := mapBatchChunk_writes notPut (nodup.sublist (take_sublist mapBatchMaxEntries _)) state
      cases isErrno : (mapBatchChunk operation ((key :: keys).take mapBatchMaxEntries) state).value.2 with
      | some errno =>
        refine ⟨half, ?_⟩
        have stopped := writes.extend isErrno ((key :: keys).drop mapBatchMaxEntries)
        rw [split] at stopped
        simp only [mapBatchChunks, bind_apply, isErrno, Option.isSome_some, if_true, pure_apply, append_nil]
        rw [← isErrno]
        exact stopped
      | none =>
        have fewer : ((key :: keys).drop mapBatchMaxEntries).length ≤ chunks := by
          rw [length_drop, mapBatchMaxEntries]
          omega
        obtain ⟨halfLater, writesLater⟩ := ih fewer (nodup.sublist (drop_sublist mapBatchMaxEntries _))
          (mapBatchChunk operation ((key :: keys).take mapBatchMaxEntries) state).state
        refine ⟨halfLater, ?_⟩
        have appended := writes.append (by rwa [split]) isErrno writesLater
        simpa [mapBatchChunks, isErrno] using appended

/-! ## Entry by entry -/

/-- The keys that have been processed; a key that is skipped is what the operation would make it,
exactly if the kernel has told the truth. -/
structure Retries (operation : Operation) (keys : List Key) (state : MapState Key)
    (outcome : MapOutcome Key (List Key × Option Errno)) : Prop where
  contents : outcome.state.contents = write operation outcome.value.1 state.contents
  nodup : outcome.value.1.Nodup
  subset : ∀ key ∈ outcome.value.1, key ∈ keys
  fresh : ∀ key ∈ outcome.value.1, operation.refusal (state.contents key) = none
  settles : outcome.value.2 = none →
    ((∀ answer ∈ outcome.answers, ¬Untrue answer) ↔ ∀ key ∈ keys, outcome.state.contents key = operation.value)
  aborts : outcome.value.2 ≠ none ↔ ∃ answer ∈ outcome.answers, Aborts answer

theorem Retries.cons {keys applied : List Key}
    {state : MapState Key} {first : MapOutcome Key (Option Errno)} {answer : Answer Phase Key}
    {later : MapOutcome Key (List Key × Option Errno)} (notMem : key ∉ keys)
    (performed : Performs .entry operation key state first answer)
    (goesOn : ∀ errno, first.value = some errno → tolerated operation = some errno)
    (isApplied : (if first.value = none then [key] else []) = applied)
    (retries : Retries operation keys first.state later) :
    Retries operation (key :: keys) state
      { value := (applied ++ later.value.1, later.value.2), answers := answer :: later.answers, state := later.state } := by
  have effect : (applied = [key] ∧ operation.refusal (state.contents key) = none ∨ applied = []) ∧
      first.state.contents = write operation applied state.contents := by
    obtain ⟨succeeds, isFresh, contents⟩ | ⟨fails, contents⟩ := performed.effect
    · rw [← isApplied, if_pos succeeds]
      exact ⟨.inl ⟨rfl, isFresh⟩, contents⟩
    · rw [← isApplied, if_neg fails, write_nil]
      exact ⟨.inr rfl, contents⟩
  obtain ⟨effect, contents⟩ := effect
  have keyLater : later.state.contents key = first.state.contents key := by
    rw [retries.contents, write_of_notMem fun isMember => notMem (retries.subset key isMember)]
  constructor
  case contents =>
    rw [write_append, ← contents]
    exact retries.contents
  case nodup =>
    obtain ⟨rfl, -⟩ | rfl := effect
    · exact nodup_cons.mpr ⟨fun isMember => notMem (retries.subset key isMember), retries.nodup⟩
    · exact retries.nodup
  case subset =>
    have later := fun other isMember => mem_cons_of_mem key (retries.subset other isMember)
    obtain ⟨rfl, -⟩ | rfl := effect
    · exact forall_mem_cons.mpr ⟨mem_cons_self, later⟩
    · exact later
  case fresh =>
    have later : ∀ other ∈ later.value.1, operation.refusal (state.contents other) = none := by
      intro other isMember
      have differs : other ∉ applied := by
        have ne : other ≠ key := fun same => notMem (same ▸ retries.subset other isMember)
        obtain ⟨rfl, -⟩ | rfl := effect <;> simp [ne]
      have isFresh := retries.fresh other isMember
      rwa [contents, write_of_notMem differs] at isFresh
    obtain ⟨rfl, isFresh⟩ | rfl := effect
    · exact forall_mem_cons.mpr ⟨isFresh, later⟩
    · exact later
  case settles =>
    intro none
    simp [performs_settled performed goesOn, ← keyLater, retries.settles none]
  case aborts =>
    have notAborts : ¬Aborts answer := by
      rintro ⟨-, errno, isErrno, ends, -⟩
      rw [performed.operation_eq] at ends
      exact ends (goesOn errno (performed.errno.symm.trans isErrno))
    simp only [mem_cons, or_and_right, exists_or, exists_eq_left, notAborts, false_or]
    exact retries.aborts

theorem retryEntries_confined (operation : Operation) (keys : List Key) :
    Confined (fun phase _ => phase = .entry) (· ∈ keys) (retryEntries operation keys) := by
  induction keys with
  | nil => exact .pure _
  | cons key keys ih =>
    have later := ih.mono (fun _ _ => id) fun _ => mem_cons_of_mem key
    refine .bind (.perform rfl (by simp)) fun errno => ?_
    cases errno with
    | none => exact .bind later fun _ => .pure _
    | some errno =>
      dsimp only
      split
      · exact later
      · exact .pure _

theorem retryEntries_retries (operation : Operation) (nodup : keys.Nodup)
    (state : MapState Key) : Retries operation keys state (retryEntries operation keys state) := by
  induction keys generalizing state with
  | nil => constructor <;> simp [retryEntries]
  | cons key keys ih =>
    obtain ⟨notMem, nodup⟩ := nodup_cons.mp nodup
    obtain ⟨answer, performed⟩ := performs Phase.entry operation key state
    have later := ih nodup (perform Phase.entry operation key state).state
    rw [retryEntries]
    simp only [bind_apply]
    cases isErrno : (perform Phase.entry operation key state).value with
    | none =>
      simp only [bind_apply, pure_apply, append_nil, performed.answers, singleton_append]
      exact later.cons notMem performed (by simp [isErrno]) (if_pos isErrno)
    | some errno =>
      by_cases isTolerated : tolerated operation = some errno
      · simp only [if_pos isTolerated, performed.answers, singleton_append]
        exact later.cons notMem performed (by simp [isErrno, isTolerated]) (if_neg (by simp [isErrno]))
      · simp only [if_neg isTolerated, pure_apply, append_nil, performed.answers]
        have unchanged : (perform Phase.entry operation key state).state.contents = state.contents := by
          obtain ⟨succeeds, -⟩ | ⟨-, contents⟩ := performed.effect
          · cases isErrno.symm.trans succeeds
          · exact contents
        refine ⟨by simpa using unchanged, by simp, by simp, by simp, by simp, ?_⟩
        simp [Aborts, performed.errno, performed.operation_eq, performed.phase_eq, isErrno, isTolerated]

end SingBox.Ebpf
