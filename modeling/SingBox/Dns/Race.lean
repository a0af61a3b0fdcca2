import SingBox.Dns.Moves
import SingBox.Lib.Machine

/-! # Race rules come first

A final action of a rule without `race` is held until every race rule before it was judged.
The observer notes where the walk passes a race rule and what becomes of it; the order of
these notes says what overtakes what.

A race rule that commits ends the race: the other queries are cancelled. When it falls
through, the rules behind it are tried without the race rules that lost, so that precedence
is a matter of the notes since the last commit.
-/

namespace SingBox

open Lib.Machine List
open WalkContext (Exchange start)

variable {armed : ArmedRule} {context : WalkContext}

/-! ## Notes -/

variable (events : List RaceEvent) (passed reached : Nat)

/-- Between the two places the rule was disabled when its turn came, or it was matched, when
the queries it binds had completed, and did not commit. -/
def AccountedFor (position : Nat) (bound : List Nat) : Prop :=
  ∃ place, passed < place ∧ place < reached ∧ (events[place]? = some (.dropped position) ∨
    ∃ now, events[place]? = some (.judged position now) ∧ ∀ time ∈ bound, time ≤ now)

/-- No final action overtakes a race rule, and no race rule before one has committed. -/
def RacePrecedence : Prop :=
  ∀ passed reached position other bound, events[passed]? = some (.armed position bound) →
    events[reached]? = some (.final other) → passed < reached → position < other →
      AccountedFor events passed reached position bound ∧
        ∀ place, passed < place → place < reached → events[place]? ≠ some (.committed position)

/-- No race rule commits between the two places. -/
def UncommittedBetween : Prop :=
  ∀ place other, passed < place → place < reached → events[place]? ≠ some (.committed other)

/-- No final action overtakes a race rule that was passed since a race rule committed. -/
def RacePrecedenceSinceCommit : Prop :=
  ∀ passed reached position other bound, events[passed]? = some (.armed position bound) →
    events[reached]? = some (.final other) → passed < reached → position < other →
      UncommittedBetween events passed reached → AccountedFor events passed reached position bound

section Notes

variable {events more : List RaceEvent} {event : RaceEvent} {passed reached position : Nat} {bound : List Nat}

theorem lt_length_of_some (isEvent : events[passed]? = some event) : passed < events.length :=
  (List.getElem?_eq_some_iff.mp isEvent).1

theorem AccountedFor.append (accounted : AccountedFor events passed reached position bound) {further : Nat}
    (later : reached ≤ further) : AccountedFor (events ++ more) passed further position bound := by
  obtain ⟨place, after, before, noted⟩ := accounted
  refine ⟨place, after, before.trans_le later, ?_⟩
  rcases noted with dropped | ⟨now, judged, resolved⟩
  · exact .inl (getElem?_append_of_some dropped more)
  · exact .inr ⟨now, getElem?_append_of_some judged more, resolved⟩

theorem UncommittedBetween.of_append {further : Nat} (uncommitted : UncommittedBetween (events ++ more) passed further)
    (earlier : reached ≤ further) : UncommittedBetween events passed reached :=
  fun place other after before isCommitted =>
    uncommitted place other after (before.trans_le earlier) (getElem?_append_of_some isCommitted more)

/-- Every race rule that was passed since a race rule committed is accounted for. -/
def Cleared (events : List RaceEvent) : Prop :=
  ∀ passed position bound, events[passed]? = some (.armed position bound) →
    UncommittedBetween events passed events.length → AccountedFor events passed events.length position bound

theorem RacePrecedenceSinceCommit.append (precedence : RacePrecedenceSinceCommit events)
    (cleared : ∀ other, event = .final other → Cleared events) : RacePrecedenceSinceCommit (events ++ [event]) := by
  intro passed reached position other bound isArmed isFinal earlier _ uncommitted
  rcases getElem?_append_singleton isFinal with isOld | ⟨isLast, isNew⟩
  · rw [List.getElem?_append_left (earlier.trans (lt_length_of_some isOld))] at isArmed
    have accounted := precedence passed reached position other bound isArmed isOld earlier ‹_›
      (uncommitted.of_append le_rfl)
    exact accounted.append le_rfl
  · subst isLast
    rw [List.getElem?_append_left earlier] at isArmed
    exact (cleared other isNew.symm passed position bound isArmed (uncommitted.of_append le_rfl)).append le_rfl

end Notes

/-! ## Moves -/

/-- The rule waits for all of the times that have not come. -/
def ArmedRule.Awaits (armed : ArmedRule) (state : WalkState) (bound : List Nat) : Prop :=
  ∀ time ∈ bound, time ≤ state.now ∨ time ∈ armed.times state.completes

/-- A race rule that was passed is accounted for, or still armed. -/
structure Tracked (state : WalkState) : Prop where
  precedence : RacePrecedenceSinceCommit state.events
  tracked : ∀ passed position bound, state.events[passed]? = some (.armed position bound) →
    UncommittedBetween state.events passed state.events.length →
      AccountedFor state.events passed state.events.length position bound ∨
      ∃ armed ∈ state.armedRules, armed.ruleIndex = position ∧ armed.Awaits state bound

section Track

variable {before after : WalkState}

theorem Tracked.of_cleared (precedence : RacePrecedenceSinceCommit after.events) (cleared : Cleared after.events) :
    Tracked after :=
  ⟨precedence, fun passed position bound isArmed uncommitted => .inl (cleared passed position bound isArmed uncommitted)⟩

theorem Tracked.cleared (tracked : Tracked before) (unarmed : before.armedRules = []) : Cleared before.events := by
  intro passed position bound isArmed uncommitted
  rcases tracked.tracked passed position bound isArmed uncommitted with accounted | ⟨armed, mem, -⟩
  · exact accounted
  · rw [unarmed] at mem
    cases mem

theorem Tracked.of_same (tracked : Tracked before) (events : after.events = before.events)
    (armedRules : after.armedRules = before.armedRules) (later : before.now ≤ after.now)
    (times : ∀ (armed : ArmedRule), ∀ time ∈ armed.times before.completes, time ∈ armed.times after.completes) :
    Tracked after := by
  refine ⟨events ▸ tracked.precedence, fun passed position bound isArmed uncommitted => ?_⟩
  rw [events] at isArmed uncommitted ⊢
  rw [armedRules]
  refine (tracked.tracked passed position bound isArmed uncommitted).imp_right ?_
  rintro ⟨armed, mem, isPosition, waits⟩
  refine ⟨armed, mem, isPosition, fun time isTime => ?_⟩
  exact (waits time isTime).imp (fun early => early.trans later) (times armed time)

theorem times_append (armed : ArmedRule) (completes more : List Nat) :
    ∀ time ∈ armed.times completes, time ∈ armed.times (completes ++ more) := by
  intro time isTime
  obtain ⟨future, isFuture, isTime⟩ := mem_filterMap.mp isTime
  exact mem_filterMap.mpr ⟨future, isFuture, getElem?_append_of_some isTime more⟩

theorem ArmedRule.Awaits.idle {bound : List Nat} (awaits : armed.Awaits before bound)
    (idle : Idle before after) : armed.Awaits after bound :=
  fun time isTime => (awaits time isTime).imp (fun early => early.trans idle.later) fun waited => idle.completes ▸ waited

theorem stays_or_eq {kept rest : List ArmedRule} (isArmed : before.armedRules = kept ++ armed :: rest)
    (armedRules : after.armedRules = kept ++ rest) {other : ArmedRule} (mem : other ∈ before.armedRules) :
    other ∈ after.armedRules ∨ other = armed := by
  rw [isArmed] at mem
  rw [armedRules]
  simp only [mem_append, mem_cons] at mem ⊢
  tauto

section
variable (tracked : Tracked before)
include tracked

theorem Closes.cleared (closes : Closes before after) :
    RacePrecedenceSinceCommit after.events ∧ Cleared after.events := by
  rcases closes.closed with ⟨position, events⟩ | ⟨position, events, unarmed, -⟩
  · rw [events]
    refine ⟨tracked.precedence.append (fun _ isFinal => by cases isFinal), ?_⟩
    intro passed armed bound isArmed uncommitted
    rcases getElem?_append_singleton isArmed with isOld | ⟨-, isNew⟩
    · exact (uncommitted _ position (lt_length_of_some isOld) (by simp) (by simp)).elim
    · cases isNew
  · have cleared := tracked.cleared unarmed
    rw [events]
    refine ⟨tracked.precedence.append fun _ _ => cleared, ?_⟩
    intro passed armed bound isArmed uncommitted
    rcases getElem?_append_singleton isArmed with isOld | ⟨-, isNew⟩
    · have earlier : before.events.length ≤ (before.events ++ [RaceEvent.final position]).length := by simp
      exact (cleared passed armed bound isOld (uncommitted.of_append earlier)).append earlier
    · cases isNew

/-- A note is taken: a rule that is not armed any more was dropped, or it was judged. -/
theorem Tracked.note {event : RaceEvent} (idle : Idle before after) (events : after.events = before.events ++ [event])
    (notFinal : ∀ other, event ≠ .final other)
    (arms : ∀ position bound, event = .armed position bound →
      ∃ armed ∈ after.armedRules, armed.ruleIndex = position ∧ armed.Awaits after bound)
    (stays : ∀ armed ∈ before.armedRules, armed ∈ after.armedRules ∨ ∀ bound : List Nat, armed.Awaits before bound →
      event = .dropped armed.ruleIndex ∨ ∃ now, event = .judged armed.ruleIndex now ∧ ∀ time ∈ bound, time ≤ now) :
    Tracked after := by
  refine ⟨events ▸ tracked.precedence.append fun other isFinal => absurd isFinal (notFinal other), ?_⟩
  intro passed position bound isPassed uncommitted
  rw [events] at isPassed uncommitted ⊢
  have earlier : before.events.length ≤ (before.events ++ [event]).length := by simp
  rcases getElem?_append_singleton isPassed with isOld | ⟨-, isNew⟩
  · rcases tracked.tracked passed position bound isOld (uncommitted.of_append earlier) with
      accounted | ⟨armed, mem, rfl, waits⟩
    · exact .inl (accounted.append earlier)
    · refine (stays armed mem).symm.imp (fun noted => ?_) fun mem => ⟨armed, mem, rfl, waits.idle idle⟩
      refine ⟨before.events.length, lt_length_of_some isOld, by simp, ?_⟩
      rcases noted bound waits with rfl | ⟨now, rfl, resolved⟩
      · exact .inl (by simp)
      · exact .inr ⟨now, by simp, resolved⟩
  · exact .inr (arms position bound isNew.symm)

theorem Tracked.moves (moves : Moves context before after) : Tracked after := by
  cases moves with
  | pass idle events armedRules =>
    exact tracked.of_same events armedRules idle.later fun armed time isTime => idle.completes ▸ isTime
  | launch number now completes canceled events armedRules =>
    refine tracked.of_same events armedRules now.ge fun armed time isTime => ?_
    rw [completes]
    exact times_append armed _ _ time isTime
  | @arm armed bound idle events armedRules waits =>
    refine tracked.note idle events nofun ?_ fun armed mem => .inl (armedRules ▸ mem_append_left _ mem)
    rintro position times ⟨⟩
    exact ⟨armed, armedRules ▸ mem_append_right _ (mem_singleton_self _), rfl, waits⟩
  | @drop armed kept rest idle events isArmed armedRules =>
    refine tracked.note idle events nofun nofun fun other mem => ?_
    rcases stays_or_eq isArmed armedRules mem with stays | rfl
    · exact .inl stays
    · exact .inr fun _ _ => .inl rfl
  | @judge armed kept rest idle events isArmed armedRules resolved =>
    refine tracked.note idle events nofun nofun fun other mem => ?_
    rcases stays_or_eq isArmed armedRules mem with stays | rfl
    · exact .inl stays
    · refine .inr fun bound waits => .inr ⟨_, rfl, fun time isTime => ?_⟩
      rcases waits time isTime with early | waited
      · exact early.trans idle.later
      · exact resolved time (idle.completes ▸ waited)
  | close closes =>
    obtain ⟨precedence, cleared⟩ := closes.cleared tracked
    exact .of_cleared precedence cleared

theorem Tracked.runs (runs : Runs context before after) : Tracked after := by
  induction runs with
  | refl => exact tracked
  | tail _ moves ih => exact ih.moves moves

theorem Tracked.closed : RunsClosed context before after → RacePrecedenceSinceCommit after.events ∧ Cleared after.events
  | ⟨_, runs, closes⟩ => closes.cleared (tracked.runs runs)

end

end Track

/-! ## Exchanges -/

/-- The walk has ended, or will once the query that it sends is answered. -/
def WalkContext.Control.Closed : Control → Prop
  | .ended _ | .suspended (.pending _) => True
  | .walking | .suspended (.await _) | .suspended .drain | .finished _ => False

/-- Along an exchange every race rule stays accounted for. -/
structure InOrder (exchange : Exchange) : Prop where
  tracked : Tracked exchange.state
  cleared : exchange.control.Closed → Cleared exchange.state.events
  unarmed : ∀ pending, exchange.control = .suspended (.pending pending) → exchange.state.armedRules = []

section Exchanges

variable {context : WalkContext} {exchange : Exchange} {before after : WalkState}

theorem Tracked.cancels (tracked : Tracked before) (cancels : Cancels before after) : Tracked after :=
  tracked.of_same cancels.events cancels.armedRules cancels.later fun _ _ isTime => cancels.completes ▸ isTime

theorem InOrder.goesOn {continued : Bool} {control : WalkContext.Control} (tracked : Tracked after)
    (goesOn : ¬control.Closed) : InOrder { state := after, continued, control } where
  tracked := tracked
  cleared closed := absurd closed goesOn
  unarmed pending isPending := by
    cases isPending
    exact absurd trivial goesOn

theorem InOrder.ends {continued : Bool} {result : ExchangeResult} (precedence : RacePrecedenceSinceCommit before.events)
    (cleared : Cleared before.events) (cancels : Cancels before after) :
    InOrder { state := after, continued, control := .ended result } where
  tracked := (Tracked.of_cleared precedence cleared).cancels cancels
  cleared _ := cancels.events ▸ cleared
  unarmed _ isPending := by cases isPending

theorem InOrder.examined (tracked : Tracked exchange.state) {examined : WalkContext.Outcome}
    (follows : Examined context exchange.state examined) : InOrder (WalkContext.outcome exchange examined) := by
  cases examined with
  | next state => exact .goesOn (tracked.runs follows) id
  | done result state =>
    obtain ⟨precedence, cleared⟩ := tracked.closed follows
    exact .ends precedence cleared (cancels_cancelDNSFutures state none)
  | suspend suspension state =>
    cases suspension with
    | await | drain => exact .goesOn (tracked.runs follows) id
    | pending =>
      obtain ⟨precedence, cleared⟩ := tracked.closed follows.1
      exact ⟨.of_cleared precedence cleared, fun _ => cleared, fun _ _ => follows.2⟩

theorem InOrder.step (inOrder : InOrder exchange) : InOrder (context.step exchange) := by
  have tracked := inOrder.tracked
  cases control : exchange.control with
  | walking =>
    obtain ⟨examined, follows, stepped⟩ := @step_walking context exchange control
    exact stepped ▸ InOrder.examined tracked follows
  | ended result =>
    have cleared := inOrder.cleared (control ▸ trivial)
    rcases @step_ended context exchange result control with
      ⟨settled, stepped⟩ | ⟨index, stepped⟩ | ⟨index, options, stepped⟩
    · exact stepped ▸ .goesOn tracked id
    · exact stepped ▸ .goesOn (.of_cleared tracked.precedence cleared) id
    · exact stepped ▸ .goesOn (.of_cleared tracked.precedence cleared) id
  | finished result =>
    have stays : context.step exchange = exchange := by
      unfold WalkContext.step
      rw [control]
    exact stays.symm ▸ inOrder
  | suspended suspension =>
    cases suspension with
    | pending pending =>
      obtain ⟨result, after, cancels, stepped⟩ := @step_pending context exchange pending control (inOrder.unarmed _ control)
      exact stepped ▸ .ends tracked.precedence (inOrder.cleared (control ▸ trivial)) cancels
    | await | drain =>
      rcases @step_waiting context exchange _ control (by simp) with
        ⟨state, closed, result, after, cancels, stepped⟩ | ⟨state, runs, stepped | stepped⟩
      · obtain ⟨precedence, cleared⟩ := tracked.closed closed
        exact stepped ▸ .ends precedence cleared cancels
      · exact stepped ▸ .goesOn (tracked.runs runs) id
      · exact stepped ▸ .goesOn (tracked.runs runs) id

end Exchanges

/-- Whenever queries complete and flags change: a final action of a rule without `race`
overtakes no race rule that was passed since a race rule committed. -/
theorem race_precedence_since_commit (context : WalkContext) (options : DNSQueryOptions) (steps : Nat) :
    RacePrecedenceSinceCommit (context.step^[steps] (start options)).state.events := by
  have always : Always context.step InOrder (start options) :=
    .of_invariant (fun _ => id) (fun _ => InOrder.step) (.goesOn (.of_cleared (by simp [RacePrecedenceSinceCommit])
      (by simp [Cleared])) id)
  exact (always steps).tracked.precedence

/-- Two queries race, and a rule without `race` comes last. The race rule of the second
lets the walk go on behind it. -/
def raceThenRoute : WalkContext where
  router := { exchange := fun _ => { response := some {} } }
  rules := [
    { rule := .default {}, action := .evaluate "slow" "a" false {} },
    { rule := .default {}, action := .evaluate "fast" "b" true {} },
    { rule := .default { matchResponse := true, matchResponseTag := "a" }, action := .respond, race := true,
      race_binds := by decide },
    { rule := .default { matchResponse := true, matchResponseTag := "b" }, action := .respond, race := true,
      allowFallthrough := true, race_binds := by decide },
    { rule := .default {}, action := .route "local" false {} }]
  schedule := { completes := fun number => if number = 0 then 100 else 0 }

/-- The fast response has no address, so that the walk goes on, and without the slow one. -/
theorem race_overtaken_after_commit : ¬RacePrecedence (raceThenRoute.step^[6] (start {})).state.events := by
  have events : (raceThenRoute.step^[6] (start {})).state.events =
      [.armed 2 [100], .armed 3 [4], .committed 3, .final 4] := by decide +kernel
  rw [events]
  intro precedence
  obtain ⟨⟨place, after, before, noted⟩, -⟩ := precedence 0 3 2 4 [100] rfl rfl (by decide) (by decide)
  have between : place = 1 ∨ place = 2 := by omega
  rcases between with rfl | rfl <;> simp at noted

end SingBox
