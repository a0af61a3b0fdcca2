import Mathlib.Algebra.BigOperators.Group.List.Basic
import Mathlib.Tactic.Abel

/-! # Goroutines over a shared state

A `Proc` is a program of atomic actions on a state of type `σ`. A pool of them is run by a
schedule: any list of positions, each naming the goroutine that acts next. What is proved
of every schedule holds of every interleaving.

The second half is about goroutines that share a flag and each swap it once. Exactly one
finds it unset. When every other action only adds to a trace in a commutative monoid, the
trace at the end is the one of that goroutine going first, whatever the interleaving was.
-/

open List

namespace Lib.Goroutine

universe u v w

/-- A program of atomic actions: what an action does to the state, and how the program goes
on given the state the action found. -/
inductive Proc (σ : Type u) (α : Type v) where
  | pure (result : α)
  | act (effect : σ → σ) (next : σ → Proc σ α)

namespace Proc

variable {σ : Type u} {α : Type v} {β : Type v}

def bind : Proc σ α → (α → Proc σ β) → Proc σ β
  | pure result, rest => rest result
  | act effect next, rest => act effect fun state => bind (next state) rest

instance : Monad (Proc σ) where
  pure := Proc.pure
  bind := Proc.bind

/-- The program on its own, with nothing else running. -/
def run : Proc σ α → σ → σ × α
  | pure result, state => (state, result)
  | act effect next, state => run (next state) (effect state)

def isFinished : Proc σ α → Bool
  | pure _ => true
  | act _ _ => false

@[simp] theorem run_pure (result : α) (state : σ) : (Pure.pure result : Proc σ α).run state = (state, result) := rfl

variable (process : Proc σ α)

@[simp] theorem run_bind (rest : α → Proc σ β) (state : σ) :
    (process >>= rest).run state = (rest (process.run state).2).run (process.run state).1 := by
  induction process generalizing state with
  | pure result => rfl
  | act effect next ih => exact ih state (effect state)

theorem bind_pure' : process.bind Proc.pure = process := by
  induction process with
  | pure result => rfl
  | act effect next ih => exact congrArg (act effect) (funext ih)

theorem bind_bind {γ : Type v} (process : Proc σ α) (rest : α → Proc σ β) (last : β → Proc σ γ) :
    (process.bind rest).bind last = process.bind fun result => (rest result).bind last := by
  induction process with
  | pure result => rfl
  | act effect next ih => exact congrArg (act effect) (funext ih)

instance : LawfulMonad (Proc σ) := LawfulMonad.mk' _ bind_pure' (fun _ _ => rfl) bind_bind

@[simp] theorem run_map (f : α → β) (process : Proc σ α) (state : σ) :
    (f <$> process).run state = ((process.run state).1, f (process.run state).2) := run_bind process
    (fun result => pure (f result)) state

/-- Run on its own, the program keeps a property of the state. -/
def Keeps (Property : σ → Prop) (process : Proc σ α) : Prop := ∀ state, Property state → Property (process.run state).1

variable {Property : σ → Prop}

theorem Keeps.pure (result : α) : Keeps Property (Pure.pure result : Proc σ α) :=
  fun _ holds => holds

theorem Keeps.bind {process : Proc σ α} {rest : α → Proc σ β} (keeps : Keeps Property process)
    (restKeeps : ∀ result, Keeps Property (rest result)) : Keeps Property (process >>= rest) := by
  intro state holds
  rw [run_bind]
  exact restKeeps _ _ (keeps state holds)

end Proc

/-! ## Pools -/

/-- A state and the goroutines that share it. -/
structure Pool (σ : Type u) where
  state : σ
  procs : List (Proc σ Unit)

namespace Pool

variable {σ : Type u} (pool : Pool σ)

/-- The goroutine at a position acts once; one that is finished, or absent, does nothing. -/
def step (position : Nat) : Pool σ :=
  match pool.procs[position]? with
  | some (.act effect next) => ⟨effect pool.state, pool.procs.set position (next pool.state)⟩
  | some (.pure _) | none => pool

def interleave (schedule : List Nat) : Pool σ := schedule.foldl step pool

def isFinished : Bool := pool.procs.all Proc.isFinished

theorem step_cases (position : Nat) :
    pool.step position = pool ∨
      ∃ before effect next after, pool.procs = before ++ Proc.act effect next :: after ∧
        pool.step position = ⟨effect pool.state, before ++ next pool.state :: after⟩ := by
  unfold step
  split
  case h_1 effect next found =>
    obtain ⟨bound, found⟩ := List.getElem?_eq_some_iff.mp found
    refine .inr ⟨pool.procs.take position, effect, next, pool.procs.drop (position + 1), ?_, ?_⟩
    · rw [← found, List.getElem_cons_drop, List.take_append_drop]
    · rw [List.set_eq_take_append_cons_drop, if_pos bound]
  all_goals exact .inl rfl

theorem interleave_empty (state : σ) (schedule : List Nat) : interleave ⟨state, []⟩ schedule = ⟨state, []⟩ := by
  induction schedule with
  | nil => rfl
  | cons position schedule ih => exact ih

/-- What every step keeps, every schedule keeps. -/
theorem interleave_invariant {Invariant : Pool σ → Prop}
    (step : ∀ state before effect next after, Invariant ⟨state, before ++ Proc.act effect next :: after⟩ →
      Invariant ⟨effect state, before ++ next state :: after⟩)
    {pool : Pool σ} (initially : Invariant pool) (schedule : List Nat) : Invariant (pool.interleave schedule) := by
  induction schedule generalizing pool with
  | nil => exact initially
  | cons position schedule ih =>
    refine ih ?_
    obtain unchanged | ⟨before, effect, next, after, procs, acted⟩ := pool.step_cases position
    · rwa [unchanged]
    · rw [acted]
      refine step _ _ _ _ _ ?_
      rwa [← procs]

end Pool

/-! ## A flag that is swapped -/

section Swap

variable {σ : Type u} {M : Type w} [AddCommMonoid M] (flag : σ → Bool) (trace : σ → M)

/-- The goroutine adds `total` to the trace, whatever it finds, and leaves the flag alone. -/
inductive Adds : M → Proc σ Unit → Prop where
  | pure : Adds 0 (.pure ())
  | act {effect : σ → σ} {next : σ → Proc σ Unit} {added total : M} :
      (∀ state, flag (effect state) = flag state) → (∀ state, trace (effect state) = trace state + added) →
      (∀ state, Adds total (next state)) → Adds (added + total) (.act effect next)

/-- The goroutine sets the flag once. It adds `first` in all when it finds the flag unset,
and `later` when it finds it set. -/
inductive Swaps : M → M → Proc σ Unit → Prop where
  | swap {effect : σ → σ} {next : σ → Proc σ Unit} {first later : M} :
      (∀ state, flag (effect state)) → (∀ state, trace (effect state) = trace state) →
      (∀ state, flag state = false → Adds flag trace first (next state)) →
      (∀ state, flag state → Adds flag trace later (next state)) → Swaps first later (.act effect next)
  | act {effect : σ → σ} {next : σ → Proc σ Unit} {added first later : M} :
      (∀ state, flag (effect state) = flag state) → (∀ state, trace (effect state) = trace state + added) →
      (∀ state, Swaps first later (next state)) → Swaps (added + first) (added + later) (.act effect next)

variable {flag trace} {owed total : M} {effect : σ → σ} {next : σ → Proc σ Unit} {process : Proc σ Unit} {state : σ}

theorem Adds.step (adds : Adds flag trace owed (.act effect next)) (state : σ) : flag (effect state) = flag state ∧
      ∃ left, Adds flag trace left (next state) ∧ trace (effect state) + left = trace state + owed := by
  cases adds with
  | @act _ _ added total keeps grows rest => exact ⟨keeps state, total, rest state, by rw [grows, add_assoc]⟩

theorem Adds.eq_zero (adds : Adds flag trace owed process) (finished : process.isFinished) : owed = 0 := by
  cases adds with
  | pure => rfl
  | act => cases finished

theorem interleave_alone (adds : Adds flag trace total process)
    {schedule : List Nat} (finished : (Pool.interleave ⟨state, [process]⟩ schedule).isFinished) :
    trace (Pool.interleave ⟨state, [process]⟩ schedule).state = trace state + total := by
  have underway : ∃ now left, (Pool.interleave ⟨state, [process]⟩ schedule).procs = [now] ∧
      Adds flag trace left now ∧ trace (Pool.interleave ⟨state, [process]⟩ schedule).state + left = trace state + total := by
    refine @Pool.interleave_invariant σ (fun pool => ∃ now left, pool.procs = [now] ∧
      Adds flag trace left now ∧ trace pool.state + left = trace state + total) ?_ _
      ⟨process, total, rfl, adds, rfl⟩ schedule
    rintro reached before effect next after ⟨now, left, alone, adds, settled⟩
    obtain ⟨rfl, rfl, rfl⟩ : before = [] ∧ Proc.act effect next = now ∧ after = [] := by
      cases before <;> simp_all
    obtain ⟨-, rest, restAdds, restSettled⟩ := adds.step reached
    exact ⟨next reached, rest, rfl, restAdds, restSettled.trans settled⟩
  obtain ⟨now, left, alone, adds, settled⟩ := underway
  have : left = 0 := adds.eq_zero (by simpa [Pool.isFinished, alone] using finished)
  simpa [this] using settled

/-- What is added in all when exactly one goroutine goes first: for each goroutine, what it
adds when it is the first and what it adds otherwise. -/
inductive OneFirst : List (M × M) → M → Prop where
  | here (first later : M) (others : List (M × M)) :
      OneFirst ((first, later) :: others) (first + (others.map Prod.snd).sum)
  | there (first later : M) {others : List (M × M)} {total : M} :
      OneFirst others total → OneFirst ((first, later) :: others) (later + total)

theorem OneFirst.add {before after : List (M × M)} {first later : M} (added : M)
    (oneFirst : OneFirst (before ++ (first, later) :: after) total) :
    OneFirst (before ++ (added + first, added + later) :: after) (added + total) := by
  induction before generalizing total with
  | nil =>
    cases oneFirst with
    | here => simpa [add_assoc] using OneFirst.here (added + first) (added + later) after
    | there _ _ others => simpa [add_assoc] using OneFirst.there (added + first) (added + later) others
  | cons costs before ih =>
    obtain ⟨otherFirst, otherLater⟩ := costs
    cases oneFirst with
    | here =>
      have total : added + (otherFirst + ((before ++ (first, later) :: after).map Prod.snd).sum) =
          otherFirst + ((before ++ (added + first, added + later) :: after).map Prod.snd).sum := by
        simp only [map_append, map_cons, sum_append, sum_cons]
        abel
      exact total ▸ .here otherFirst otherLater _
    | there _ _ others =>
      rw [add_left_comm]
      exact .there _ _ (ih others)

theorem OneFirst.of_split (before after : List (M × M)) (first later : M) :
    OneFirst (before ++ (first, later) :: after) ((before.map Prod.snd).sum + (first + (after.map Prod.snd).sum)) := by
  induction before with
  | nil => simpa using OneFirst.here first later after
  | cons costs before ih =>
    simpa [add_assoc] using OneFirst.there costs.1 costs.2 ih

theorem oneFirst_pair {first second : M × M} (oneFirst : OneFirst [first, second] total) :
    total = first.1 + second.2 ∨ total = first.2 + second.1 := by
  obtain ⟨_, _⟩ := first
  obtain ⟨_, _⟩ := second
  cases oneFirst with
  | here => exact .inl (by simp)
  | there _ _ others =>
    cases others with
    | here => exact .inr (by simp)
    | there _ _ others => cases others

theorem forall₂_split {α : Type v} {β : Type w} {R : α → β → Prop} {all : List α} {before after : List β} {at' : β}
    (related : List.Forall₂ R all (before ++ at' :: after)) :
    ∃ front here back, all = front ++ here :: back ∧ List.Forall₂ R front before ∧ R here at' ∧
      List.Forall₂ R back after := by
  have front := forall₂_take_append _ _ _ related
  obtain ⟨here, back, isHere, isBack, split⟩ :=
    forall₂_cons_right_iff.mp (forall₂_drop_append _ _ _ related)
  exact ⟨_, here, back, by rw [← split, take_append_drop], front, isHere, isBack⟩

/-- What a goroutine still adds once the flag is set. -/
def Owes (flag : σ → Bool) (trace : σ → M) (owed : M) (process : Proc σ Unit) : Prop :=
  Adds flag trace owed process ∨ ∃ first, Swaps flag trace first owed process

theorem Owes.step (owes : Owes flag trace owed (.act effect next)) (isSet : flag state) :
    flag (effect state) ∧
      ∃ left, Owes flag trace left (next state) ∧ trace (effect state) + left = trace state + owed := by
  rcases owes with adds | ⟨first, swaps⟩
  · obtain ⟨keeps, left, rest, settled⟩ := adds.step state
    exact ⟨keeps.trans isSet, left, .inl rest, settled⟩
  · cases swaps with
    | swap sets keeps _ ifSet => exact ⟨sets state, owed, .inl (ifSet state isSet), by rw [keeps]⟩
    | @act _ _ added first later keeps grows rest =>
      exact ⟨(keeps state).trans isSet, later, .inr ⟨first, rest state⟩, by rw [grows, add_assoc]⟩

theorem Owes.eq_zero (owes : Owes flag trace owed process) (finished : process.isFinished) : owed = 0 := by
  rcases owes with adds | ⟨first, swaps⟩
  · exact adds.eq_zero finished
  · cases swaps <;> cases finished

variable {costs : List (M × M)} {procs : List (Proc σ Unit)}

theorem owesLater (swap : List.Forall₂ (fun cost => Swaps flag trace cost.1 cost.2) costs procs) :
    List.Forall₂ (Owes flag trace) (costs.map Prod.snd) procs :=
  forall₂_map_left_iff.mpr (swap.imp fun cost _ swaps => .inr ⟨cost.1, swaps⟩)

theorem owesNothing {owed : List M} (owe : List.Forall₂ (Owes flag trace) owed procs)
    (finished : procs.all Proc.isFinished) : ∀ due ∈ owed, due = 0 := by
  induction owe with
  | nil => simp
  | cons atDue _ ih =>
    simp only [all_cons, Bool.and_eq_true] at finished
    simpa using ⟨atDue.eq_zero finished.1, ih finished.2⟩

/-- What holds at every moment: before the swap every goroutine is still to go first or
later; afterwards what is owed is settled. -/
inductive Underway (flag : σ → Bool) (trace : σ → M) (Allowed : M → Prop) : Pool σ → Prop where
  | before {state : σ} {costs : List (M × M)} {procs : List (Proc σ Unit)} :
      flag state = false → List.Forall₂ (fun cost => Swaps flag trace cost.1 cost.2) costs procs → costs ≠ [] →
      (∀ total, OneFirst costs total → Allowed (trace state + total)) → Underway flag trace Allowed ⟨state, procs⟩
  | after {state : σ} {owed : List M} {procs : List (Proc σ Unit)} :
      flag state → List.Forall₂ (Owes flag trace) owed procs → Allowed (trace state + owed.sum) →
      Underway flag trace Allowed ⟨state, procs⟩

theorem Underway.step {Allowed : M → Prop} {before after : List (Proc σ Unit)}
    (underway : Underway flag trace Allowed ⟨state, before ++ .act effect next :: after⟩) :
    Underway flag trace Allowed ⟨effect state, before ++ next state :: after⟩ := by
  generalize pool : (⟨state, before ++ .act effect next :: after⟩ : Pool σ) = all at underway
  cases underway with
  | @before state costs procs unset swap nonempty allowed =>
    cases pool
    obtain ⟨costsBefore, ⟨first, later⟩, costsAfter, rfl, atBefore, atSwap, atAfter⟩ := forall₂_split swap
    cases atSwap with
    | swap sets keeps ifUnset _ =>
      -- this goroutine is the first: the others find the flag set
      refine .after (sets state) (rel_append (owesLater atBefore)
        (.cons (.inl (ifUnset state unset)) (owesLater atAfter))) ?_
      rw [keeps]
      simpa using allowed _ (OneFirst.of_split costsBefore costsAfter first later)
    | @act _ _ added first later keeps grows rest =>
      refine .before ((keeps state).trans unset) (rel_append atBefore (.cons (a := (first, later)) (rest state) atAfter))
        (by simp) ?_
      intro total oneFirst
      rw [grows, add_assoc]
      exact allowed _ (oneFirst.add added)
  | @after state owed procs isSet owe allowed =>
    cases pool
    obtain ⟨owedBefore, due, owedAfter, rfl, atBefore, atDue, atAfter⟩ := forall₂_split owe
    obtain ⟨stillSet, left, owesLeft, settled⟩ := atDue.step isSet
    refine .after stillSet (rel_append atBefore (.cons owesLeft atAfter)) ?_
    convert allowed using 1
    simp only [sum_append, sum_cons]
    rw [add_left_comm, ← add_assoc _ left, settled]
    abel

/-- However goroutines that share a flag are interleaved, at the end the trace is what it
is when one of them swaps first and the others later. -/
theorem interleave_oneFirst {pool : Pool σ} (nonempty : costs ≠ [])
    (swap : List.Forall₂ (fun cost => Swaps flag trace cost.1 cost.2) costs pool.procs)
    (unset : flag pool.state = false) {schedule : List Nat} (finished : (pool.interleave schedule).isFinished) :
    ∃ total, OneFirst costs total ∧ trace (pool.interleave schedule).state = trace pool.state + total := by
  have underway : Underway flag trace (fun sum => ∃ total, OneFirst costs total ∧ sum = trace pool.state + total)
      (pool.interleave schedule) := by
    refine Pool.interleave_invariant (fun state before effect next after => Underway.step) ?_ schedule
    exact .before unset swap nonempty fun total oneFirst => ⟨total, oneFirst, rfl⟩
  generalize pool.interleave schedule = reached at underway finished
  cases underway with
  | @before state left procs unset swap nonempty allowed =>
    -- someone is still to swap, and is not finished
    obtain ⟨⟨first, later⟩, left, rfl⟩ := exists_cons_of_ne_nil nonempty
    obtain ⟨process, procs, atCost, -, rfl⟩ := forall₂_cons_left_iff.mp swap
    cases atCost <;> simp [Pool.isFinished, Proc.isFinished] at finished
  | @after state owed procs isSet owe allowed =>
    have settled : owed.sum = 0 := sum_eq_zero (owesNothing owe finished)
    simpa [settled] using allowed

end Swap

end Lib.Goroutine
