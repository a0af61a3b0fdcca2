import Mathlib.Data.List.Nodup

/-! # Maps whose operations may fail

A set of keys that is reached only through operations: a key is created (and must not be there),
put (there or not) or deleted (and must be there), alone or as one of a batch. Any operation may
fail with any error instead, and a batch may fail after some of its keys. A `Command` is a
program over such a map that also tells how its operations were answered.
-/

open List Option

namespace Lib.FaultyMap

inductive Errno where
  | EEXIST
  | ENOENT
  | EINVAL
  | ENOSYS
  | EOPNOTSUPP
  | ENOTSUPP
  | inputOutput
  | other (code : Nat)
deriving DecidableEq, Repr

inductive Operation where
  | create
  | put
  | delete
deriving DecidableEq, Repr

/-- Whether a key is in the map after the operation. -/
def Operation.value : Operation → Bool
  | .create | .put => true
  | .delete => false

/-- The error of an operation that finds the key in its way, or does not find it. -/
def Operation.refusal : Operation → Bool → Option Errno
  | .create, true => some .EEXIST
  | .delete, false => some .ENOENT
  | _, _ => none

/-- The next operation fails with the error; a batch has processed so many keys before. -/
structure Fault where
  processed : Nat := 0
  errno : Option Errno := none
deriving DecidableEq, Repr

variable {Phase Key σ α β : Type} [DecidableEq Key]

def write (operation : Operation) (keys : List Key) (contents : Key → Bool) : Key → Bool :=
  fun key => if key ∈ keys then operation.value else contents key

/-- An operation, or a batch, and how it was answered. -/
structure Answer (Phase Key : Type) where
  phase : Phase
  operation : Operation
  keys : List Key
  processed : Nat
  errno : Option Errno
  before : Key → Bool
  after : Key → Bool

/-- How many of the keys are processed before one is refused. -/
def accept (operation : Operation) : (Key → Bool) → List Key → Nat × Option Errno
  | _, [] => (0, none)
  | contents, key :: keys =>
    match operation.refusal (contents key) with
    | some errno => (0, some errno)
    | none =>
      let (processed, errno) := accept operation (write operation [key] contents) keys
      (processed + 1, errno)

variable (phase : Phase)

def answer (operation : Operation) (keys : List Key) (fault : Fault) (contents : Key → Bool) : Answer Phase Key :=
  let accepted := accept operation contents (if fault.errno.isSome then keys.take fault.processed else keys)
  { phase, operation, keys
    processed := accepted.1
    errno := accepted.2 <|> fault.errno
    before := contents
    after := write operation (keys.take accepted.1) contents }

/-! ## Commands -/

structure State (Key σ : Type) where
  contents : Key → Bool
  faults : List Fault
  context : σ

structure Outcome (Phase Key σ α : Type) where
  value : α
  answers : List (Answer Phase Key)
  state : State Key σ

def Command (Phase Key σ α : Type) := State Key σ → Outcome Phase Key σ α

instance : Monad (Command Phase Key σ) where
  pure value state := { value, answers := [], state }
  bind first next state :=
    let outcome := first state
    let later := next outcome.value outcome.state
    { value := later.value, answers := outcome.answers ++ later.answers, state := later.state }

omit [DecidableEq Key] in
@[simp] theorem pure_apply (value : α) (state : State Key σ) :
    (pure value : Command Phase Key σ α) state = { value, answers := [], state } := rfl

omit [DecidableEq Key] in
@[simp] theorem bind_apply (first : Command Phase Key σ α) (next : α → Command Phase Key σ β) (state : State Key σ) :
    (first >>= next) state =
      { value := (next (first state).value (first state).state).value
        answers := (first state).answers ++ (next (first state).value (first state).state).answers
        state := (next (first state).value (first state).state).state } := rfl

def getContext : Command Phase Key σ σ := fun state => { value := state.context, answers := [], state }

def setContext (context : σ) : Command Phase Key σ Unit :=
  fun state => { value := (), answers := [], state := { state with context } }

def batch (operation : Operation) (keys : List Key) : Command Phase Key σ (Nat × Option Errno) :=
  fun state =>
    let answer := answer phase operation keys (state.faults.headD {}) state.contents
    { value := (answer.processed, answer.errno), answers := [answer]
      state := { state with contents := answer.after, faults := state.faults.tail } }

/-- A single operation that fails has no effect. -/
def perform (operation : Operation) (key : Key) : Command Phase Key σ (Option Errno) :=
  fun state =>
    let answer := answer phase operation [key] { state.faults.headD {} with processed := 0 } state.contents
    { value := answer.errno, answers := [answer]
      state := { state with contents := answer.after, faults := state.faults.tail } }

/-! ## What the operations do -/

@[simp] theorem write_nil (operation : Operation) (contents : Key → Bool) : write operation [] contents = contents := by
  funext key
  simp [write]

theorem write_append (operation : Operation) (keys later : List Key) (contents : Key → Bool) :
    write operation (keys ++ later) contents = write operation later (write operation keys contents) := by
  funext key
  by_cases isLater : key ∈ later <;> by_cases isMember : key ∈ keys <;> simp [write, isMember]

variable {keys : List Key} {contents : Key → Bool}

variable {operation : Operation} {key : Key} {weaker : Phase → Operation → Prop} {more : Key → Prop}

theorem write_of_mem (isMember : key ∈ keys) : write operation keys contents key = operation.value := if_pos isMember

theorem write_of_notMem (notMem : key ∉ keys) : write operation keys contents key = contents key := if_neg notMem

/-- Keys that are processed had not been refused, and a key that is refused ends it. -/
structure Accepts (operation : Operation) (contents : Key → Bool) (keys : List Key) (processed : Nat)
    (errno : Option Errno) : Prop where
  bound : processed ≤ keys.length
  fresh : ∀ key ∈ keys.take processed, operation.refusal (contents key) = none
  complete : errno = none → processed = keys.length

theorem accepts (operation : Operation) (contents : Key → Bool) (nodup : keys.Nodup) :
    Accepts operation contents keys (accept operation contents keys).1 (accept operation contents keys).2 := by
  induction keys generalizing contents with
  | nil => exact ⟨Nat.le_refl _, by simp, fun _ => rfl⟩
  | cons key keys ih =>
    obtain ⟨notMem, nodup⟩ := nodup_cons.mp nodup
    rw [accept]
    cases refused : operation.refusal (contents key) with
    | some errno => exact ⟨Nat.zero_le _, by simp, by simp⟩
    | none =>
      obtain ⟨bound, fresh, complete⟩ := ih (write operation [key] contents) nodup
      refine ⟨Nat.succ_le_succ bound, fun other isMember => ?_, fun none => congrArg (· + 1) (complete none)⟩
      obtain rfl | isLater := mem_cons.mp isMember
      · exact refused
      · have differs : other ∉ [key] := by
          rintro isKey
          rw [mem_singleton.mp isKey] at isLater
          exact notMem (mem_of_mem_take isLater)
        have isFresh := fresh other isLater
        rwa [write_of_notMem differs] at isFresh

variable (phase : Phase)

theorem answer_accepts (operation : Operation) (nodup : keys.Nodup) (fault : Fault) (contents : Key → Bool) :
    Accepts operation contents keys (answer phase operation keys fault contents).processed
      (answer phase operation keys fault contents).errno := by
  unfold answer
  cases failing : fault.errno with
  | none =>
    simpa using accepts operation contents nodup
  | some errno =>
    obtain ⟨bound, fresh, -⟩ := accepts operation contents (nodup.sublist (take_sublist fault.processed keys))
    refine ⟨Nat.le_trans bound (length_take_le' _ _), fun key isMember => ?_, fun none => ?_⟩
    · apply fresh
      rw [take_take, Nat.min_eq_left (Nat.le_trans bound (length_take_le _ _))]
      exact isMember
    · cases refused : (accept operation contents (keys.take fault.processed)).2 <;> simp at none

theorem batch_eq (operation : Operation) (keys : List Key) (state : State Key σ) :
    ∃ fault batched, batched = answer phase operation keys fault state.contents ∧
      batch phase operation keys state =
        { value := (batched.processed, batched.errno), answers := [batched]
          state := { state with contents := batched.after, faults := state.faults.tail } } :=
  ⟨_, _, rfl, rfl⟩

/-- What comes of a single operation. -/
structure Performs (phase : Phase) (operation : Operation) (key : Key) (state : State Key σ)
    (outcome : Outcome Phase Key σ (Option Errno)) (answer : Answer Phase Key) : Prop where
  answers : outcome.answers = [answer]
  phase_eq : answer.phase = phase
  operation_eq : answer.operation = operation
  keys : answer.keys = [key]
  errno : answer.errno = outcome.value
  before : answer.before = state.contents
  after : answer.after = outcome.state.contents
  context : outcome.state.context = state.context
  effect : (outcome.value = none ∧ operation.refusal (state.contents key) = none ∧
      outcome.state.contents = write operation [key] state.contents) ∨
    (outcome.value ≠ none ∧ outcome.state.contents = state.contents)

theorem performs (operation : Operation) (key : Key) (state : State Key σ) :
    ∃ answer, Performs phase operation key state (perform phase operation key state) answer := by
  refine ⟨_, rfl, rfl, rfl, rfl, rfl, rfl, rfl, rfl, ?_⟩
  simp only [perform, answer]
  cases failing : (state.faults.headD {}).errno with
  | some errno => simp [accept]
  | none => cases refused : operation.refusal (state.contents key) <;> simp [accept, refused]

/-! ## What commands leave alone -/

/-- The operations are of certain kinds, and only keys of a certain sort are ever touched. -/
structure Leaves (kinds : Phase → Operation → Prop) (touched : Key → Prop) (state : State Key σ)
    (outcome : Outcome Phase Key σ α) : Prop where
  outside : ∀ key, ¬touched key → outcome.state.contents key = state.contents key
  kind : ∀ answer ∈ outcome.answers, kinds answer.phase answer.operation
  frame : ∀ answer ∈ outcome.answers, ∀ key, ¬touched key → answer.after key = state.contents key

namespace Leaves

variable {kinds : Phase → Operation → Prop} {touched : Key → Prop} {state : State Key σ}

variable {outcome : Outcome Phase Key σ α}

omit [DecidableEq Key] in
theorem mono (leaves : Leaves kinds touched state outcome)
    (implies : ∀ phase operation, kinds phase operation → weaker phase operation)
    (includes : ∀ key, touched key → more key) : Leaves weaker more state outcome where
  outside key notMore := leaves.outside key fun isTouched => notMore (includes key isTouched)
  kind answer isAnswer := implies _ _ (leaves.kind answer isAnswer)
  frame answer isAnswer key notMore := leaves.frame answer isAnswer key fun isTouched => notMore (includes key isTouched)

omit [DecidableEq Key] in
theorem withValue (leaves : Leaves kinds touched state outcome) (value : β) :
    Leaves kinds touched state { value, answers := outcome.answers, state := outcome.state } :=
  ⟨leaves.outside, leaves.kind, leaves.frame⟩

omit [DecidableEq Key] in
theorem append {γ : Type} {first : Outcome Phase Key σ α} {second : Outcome Phase Key σ β}
    (leaves : Leaves kinds touched state first) (later : Leaves kinds touched first.state second) (value : γ) :
    Leaves kinds touched state { value, answers := first.answers ++ second.answers, state := second.state } where
  outside key notTouched := (later.outside key notTouched).trans (leaves.outside key notTouched)
  kind := forall_mem_append.mpr ⟨leaves.kind, later.kind⟩
  frame := forall_mem_append.mpr ⟨leaves.frame, fun answer isAnswer key notTouched =>
    (later.frame answer isAnswer key notTouched).trans (leaves.outside key notTouched)⟩

end Leaves

/-- From every state. -/
def Confined (kinds : Phase → Operation → Prop) (touched : Key → Prop) (command : Command Phase Key σ α) : Prop :=
  ∀ state, Leaves kinds touched state (command state)

namespace Confined

variable {kinds : Phase → Operation → Prop} {touched : Key → Prop}

omit [DecidableEq Key] in
theorem pure (value : α) : Confined kinds touched (Pure.pure value : Command Phase Key σ α) :=
  fun _ => ⟨fun _ _ => rfl, nofun, nofun⟩

omit [DecidableEq Key] in
theorem bind {first : Command Phase Key σ α} {next : α → Command Phase Key σ β}
    (confined : Confined kinds touched first)
    (later : ∀ value, Confined kinds touched (next value)) : Confined kinds touched (first >>= next) :=
  fun state => (confined state).append (later _ _) _

omit [DecidableEq Key] in
theorem mono {command : Command Phase Key σ α}
    (confined : Confined kinds touched command) (implies : ∀ phase operation, kinds phase operation → weaker phase operation)
    (includes : ∀ key, touched key → more key) : Confined weaker more command :=
  fun state => (confined state).mono implies includes

omit [DecidableEq Key] in
theorem getContext : Confined kinds touched (FaultyMap.getContext : Command Phase Key σ σ) :=
  fun _ => ⟨fun _ _ => rfl, nofun, nofun⟩

omit [DecidableEq Key] in
theorem setContext (context : σ) : Confined kinds touched (FaultyMap.setContext context : Command Phase Key σ Unit) :=
  fun _ => ⟨fun _ _ => rfl, nofun, nofun⟩

theorem batch {phase : Phase} (isKind : kinds phase operation) (isTouched : ∀ key ∈ keys, touched key) :
    Confined kinds touched (FaultyMap.batch phase operation keys : Command Phase Key σ _) := by
  intro state
  have frame : ∀ key, ¬touched key → (FaultyMap.batch phase operation keys state).state.contents key = state.contents key :=
    fun key notTouched => write_of_notMem fun isTaken => notTouched (isTouched key (mem_of_mem_take isTaken))
  exact ⟨frame, by simpa [FaultyMap.batch, answer] using isKind, by simpa [FaultyMap.batch] using frame⟩

theorem perform {phase : Phase} (isKind : kinds phase operation) (isTouched : touched key) :
    Confined kinds touched (FaultyMap.perform phase operation key : Command Phase Key σ _) := by
  intro state
  have frame : ∀ other, ¬touched other →
      (FaultyMap.perform phase operation key state).state.contents other = state.contents other := by
    refine fun other notTouched => write_of_notMem fun isTaken => notTouched ?_
    rwa [mem_singleton.mp (mem_of_mem_take isTaken)]
  exact ⟨frame, by simpa [FaultyMap.perform, answer] using isKind, by simpa [FaultyMap.perform] using frame⟩

end Confined

end Lib.FaultyMap
