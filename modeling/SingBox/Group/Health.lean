import SingBox.Group.Select

/-! # Failure records of a tested group

A URL test and a load balancer keep two records of their members: failed probes, which a
successful probe forgives, and failed dials, which only a successful dial, a change of the
network or an old record forgives. A member that fails to dial is not selected any more, and
is then not dialled either.

A run is a sequence of the operations on the records, in the order in which their locks are
taken; times are given from outside and need not be ordered. `recovered_usable_iff` says in which runs
every member whose last probe succeeded after its last failed dial can be used.
-/

open Function

namespace SingBox

/-! ## Probes -/

/-- `lastProbe` is `none` for the zero time. -/
structure URLTestMemberHealth where
  lastProbe : Option Int := none
  failures : UInt8 := 0
deriving DecidableEq, Repr

/-- Members without an entry have the zero record. -/
structure URLTestHealthState where
  members : String → URLTestMemberHealth := fun _ => {}

def urlTestMaxFailureBackoff : UInt8 := 8

namespace URLTestHealthState

variable (state : URLTestHealthState)

def record (tag : String) (available : Bool) (at' : Int) : URLTestHealthState :=
  let health := { state.members tag with lastProbe := some at' }
  let health :=
    if available then { health with failures := 0 }
    else if health.failures < urlTestMaxFailureBackoff then { health with failures := health.failures + 1 }
    else health
  { members := Function.update state.members tag health }

def forgiveFailures : URLTestHealthState where
  members tag :=
    let health := state.members tag
    if health.failures > 1 then { health with failures := 1 } else health

def excessive (tag : String) : Bool := (state.members tag).failures ≥ 3

end URLTestHealthState

/-! ## Dials -/

structure URLTestDialFailures where
  count : String → Int32 := fun _ => 0
  last : Option Int := none
  armed : Bool := false

def urlTestDialFailureThreshold : Int32 := 5

namespace URLTestDialFailures

variable (state : URLTestDialFailures) (tag : String)

/-- The second component says whether the caller is to start a check. -/
def failure (interval now : Int) : URLTestDialFailures × Bool :=
  let count := if state.last.any fun last => now - last > interval then fun _ => 0 else state.count
  let count := Function.update count tag (count tag + 1)
  let threshold := decide (count tag ≥ urlTestDialFailureThreshold)
  ({ count, last := some now, armed := state.armed || threshold }, threshold && !state.armed)

def success : URLTestDialFailures := { state with count := Function.update state.count tag 0 }

def excessive : Bool := state.count tag ≥ urlTestDialFailureThreshold

def release : URLTestDialFailures := { state with armed := false }

def reset (_ : URLTestDialFailures) : URLTestDialFailures := {}

end URLTestDialFailures

/-! ## Runs -/

structure FailureRecords where
  health : URLTestHealthState := {}
  dialFailures : URLTestDialFailures := {}

inductive GroupEvent where
  /-- `reportDialFailure`, for a real tag. -/
  | dialFailure (tag : String) (now : Int)
  | dialSuccess (tag : String)
  /-- A probe whose result is recorded. -/
  | probe (tag : String) (available : Bool) (now : Int)
  /-- A test that was asked for: without a policy, its result goes to the history only. -/
  | test (tag : String) (available : Bool)
  /-- The two halves of `networkChanged`. -/
  | forgiveFailures
  | resetDialFailures
  /-- The end of a check that a failed dial has started. -/
  | release

/-- The latest probe and the latest failed dial of a tag are among these events. -/
def GroupEvent.Concerns (tag : String) : GroupEvent → Prop
  | .dialFailure other _ => other = tag
  | .probe other _ _ => other = tag
  | _ => False

namespace FailureRecords

variable (interval : Int) (records : FailureRecords)

def step : GroupEvent → FailureRecords
  | .dialFailure tag now =>
    if tag = "" then records else { records with dialFailures := (records.dialFailures.failure tag interval now).1 }
  | .dialSuccess tag => { records with dialFailures := records.dialFailures.success tag }
  | .probe tag available now => { records with health := records.health.record tag available now }
  | .test _ _ => records
  | .forgiveFailures => { records with health := records.health.forgiveFailures }
  | .resetDialFailures => { records with dialFailures := records.dialFailures.reset }
  | .release => { records with dialFailures := records.dialFailures.release }

variable (events : List GroupEvent)

def run : FailureRecords := events.foldl (step interval) {}

/-- What `Select` and `AliveForTestUrl` see of the records. -/
def view (delay : String → Option UInt16) : Health where
  failing := records.health.excessive
  dialFailing := records.dialFailures.excessive
  delay := delay

/-- No member with this real tag is excluded by failures, neither in a URL test, selected or
not, nor in a load balancer. -/
def Usable (tag : String) : Prop :=
  (∀ (Outbound : Type) [DecidableEq Outbound] (group : URLTestGroup Outbound) (network : Network) (outbound : Outbound)
      (delay : String → Option UInt16),
      group.health = records.view delay → group.realTag outbound network = tag →
        group.memberExcessive network outbound = false) ∧
    ∀ delay, (records.view delay).excessive tag = false

/-- The latest probe of the tag succeeded, and no dial has failed since. -/
def Recovered (tag : String) : Prop :=
  ∃ before now after, events = before ++ .probe tag true now :: after ∧ ∀ event ∈ after, ¬event.Concerns tag

/-! ## Recovery -/

/-- Neither record is at its limit. -/
structure Fine (records : FailureRecords) (tag : String) : Prop where
  probes : records.health.excessive tag = false
  dials : records.dialFailures.excessive tag = false

variable {records : FailureRecords} {tag : String}

theorem Fine.usable (fine : records.Fine tag) : records.Usable tag := by
  constructor
  · rintro Outbound _ group network outbound delay isHealth rfl
    rw [URLTestGroup.memberExcessive, isHealth]
    simp [view, fine.probes, fine.dials]
  · intro delay
    simp [Health.excessive, view, fine.probes, fine.dials]

theorem Usable.dials (usable : records.Usable tag) : records.dialFailures.excessive tag = false := by
  have notExcessive := usable.2 fun _ => none
  rw [Health.excessive, Bool.or_eq_false_iff] at notExcessive
  exact notExcessive.2

variable {interval}

theorem fine_of_probe (dials : records.dialFailures.excessive tag = false) (now : Int) :
    (step interval records (.probe tag true now)).Fine tag := by
  refine ⟨?_, dials⟩
  simp only [step, URLTestHealthState.record, URLTestHealthState.excessive, if_true, update_self]
  decide

theorem excessive_forgiveFailures {state : URLTestHealthState} (fine : state.excessive tag = false) :
    state.forgiveFailures.excessive tag = false := by
  rw [URLTestHealthState.excessive] at fine ⊢
  simp only [URLTestHealthState.forgiveFailures]
  split
  · rfl
  · exact fine

theorem excessive_of_count {state next : URLTestDialFailures} (fine : state.excessive tag = false)
    (same : next.count tag = 0 ∨ next.count tag = state.count tag) : next.excessive tag = false := by
  unfold URLTestDialFailures.excessive at fine ⊢
  rcases same with cleared | same
  · simp only [cleared]
    decide
  · simp [same, fine]

variable (state : URLTestDialFailures)

/-- A failed dial of another tag counts for that tag, or clears the whole record before it does. -/
theorem count_failure {other : String} (different : other ≠ tag) (interval now : Int) :
    (state.failure other interval now).1.count tag = 0 ∨
      (state.failure other interval now).1.count tag = state.count tag := by
  simp only [URLTestDialFailures.failure, update_of_ne different.symm]
  split
  · exact .inl rfl
  · exact .inr rfl

theorem count_success (tag other : String) :
    (state.success other).count tag = 0 ∨ (state.success other).count tag = state.count tag := by
  by_cases same : tag = other
  · exact .inl (by rw [same]; exact update_self ..)
  · exact .inr (update_of_ne same ..)

/-- Whatever does not concern the tag leaves its records below their limits. -/
theorem Fine.step (fine : records.Fine tag) {event : GroupEvent}
    (unconcerned : ¬event.Concerns tag) : (step interval records event).Fine tag := by
  cases event with
  | dialFailure other now =>
    simp only [FailureRecords.step]
    split
    · exact fine
    · exact ⟨fine.probes, excessive_of_count fine.dials (count_failure _ unconcerned interval now)⟩
  | dialSuccess other => exact ⟨fine.probes, excessive_of_count fine.dials (count_success _ tag other)⟩
  | probe other available now =>
    refine ⟨?_, fine.dials⟩
    have same : (records.health.record other available now).members tag = records.health.members tag :=
      update_of_ne (Ne.symm unconcerned) _ _
    rw [FailureRecords.step, URLTestHealthState.excessive, same]
    exact fine.probes
  | test other available => exact fine
  | forgiveFailures => exact ⟨excessive_forgiveFailures fine.probes, fine.dials⟩
  | resetDialFailures => exact ⟨fine.probes, excessive_of_count fine.dials (.inl rfl)⟩
  | release => exact ⟨fine.probes, fine.dials⟩

theorem Fine.steps (fine : records.Fine tag) {events : List GroupEvent}
    (unconcerned : ∀ event ∈ events, ¬event.Concerns tag) :
    (events.foldl (FailureRecords.step interval) records).Fine tag := by
  induction events generalizing records with
  | nil => exact fine
  | cons event events ih =>
    refine ih (fine.step (unconcerned event (by simp))) ?_
    exact fun later isLater => unconcerned later (by simp [isLater])

/-- In a run, every member that has recovered is usable in every state, exactly if no
successful probe comes while the failed dials of its tag are at their limit. -/
theorem recovered_usable_iff (interval : Int) (events : List GroupEvent) :
    (∀ done later, events = done ++ later → ∀ tag, Recovered done tag → (run interval done).Usable tag) ↔
      ∀ done tag now later, events = done ++ .probe tag true now :: later →
        (run interval done).dialFailures.excessive tag = false := by
  constructor
  · intro usable done tag now later isEvents
    have recovered : Recovered (done ++ [.probe tag true now]) tag := ⟨done, now, [], rfl, by simp⟩
    have dials := (usable _ later (by rw [isEvents]; simp) tag recovered).dials
    rw [run, List.foldl_append] at dials
    exact dials
  · rintro condition done later rfl tag ⟨before, now, after, rfl, unconcerned⟩
    have dials := condition before tag now (after ++ later) (by simp)
    rw [run, List.foldl_append, List.foldl_cons]
    exact ((fine_of_probe dials now).steps unconcerned).usable

/-- Five failed dials, then a successful probe: the member stays excluded. -/
theorem recovered_member_excluded :
    let events := List.replicate 5 (GroupEvent.dialFailure "node" 0) ++ [.probe "node" true 1]
    Recovered events "node" ∧ ¬(run 180 events).Usable "node" := by
  refine ⟨⟨_, 1, [], rfl, by simp⟩, fun usable => ?_⟩
  have dials := usable.dials
  revert dials
  decide

end FailureRecords

end SingBox
