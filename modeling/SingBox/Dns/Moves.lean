import SingBox.Dns.Simulation

/-! # What the walk does to its state

The examination of a rule is a sequence of moves: time passes, a query is launched, a rule
is armed or judged, a final action is taken. `Moves` says what each of them does to the
queries, to the armed rules and to the notes of the observer; whatever holds along all
moves holds along every exchange.
-/

open List Option Nat

namespace SingBox

open WalkContext

/-- The times at which the queries complete. -/
def WalkState.completes (state : WalkState) : List Nat := state.futures.map Future.completes

/-- The times for which an armed rule waits. -/
def ArmedRule.times (armed : ArmedRule) (completes : List Nat) : List Nat :=
  armed.futures.filterMap fun future => completes[future]?

/-! ## Moves -/

/-- Time passes, and the queries stay the same. -/
structure Idle (before after : WalkState) : Prop where
  later : before.now ≤ after.now
  completes : after.completes = before.completes
  canceled : after.canceled = before.canceled

/-- A race rule commits, or a final action is taken when no rule is armed. -/
structure Closes (before after : WalkState) : Prop where
  idle : Idle before after
  closed : (∃ position, after.events = before.events ++ [.committed position]) ∨
    ∃ position, after.events = before.events ++ [.final position] ∧ before.armedRules = [] ∧ after.armedRules = []

inductive Moves (context : WalkContext) : WalkState → WalkState → Prop where
  | pass {before after : WalkState} (idle : Idle before after) (events : after.events = before.events)
      (armedRules : after.armedRules = before.armedRules) : Moves context before after
  | launch {before after : WalkState} (number : Nat) (now : after.now = before.now)
      (completes : after.completes = before.completes ++ [max before.now (context.schedule.completes number)])
      (canceled : after.canceled = before.canceled) (events : after.events = before.events)
      (armedRules : after.armedRules = before.armedRules) : Moves context before after
  /-- Of the queries that an armed rule binds, those that have not completed are waited for. -/
  | arm {before after : WalkState} {armed : ArmedRule} {bound : List Nat} (idle : Idle before after)
      (events : after.events = before.events ++ [.armed armed.ruleIndex bound])
      (armedRules : after.armedRules = before.armedRules ++ [armed])
      (waits : ∀ time ∈ bound, time ≤ after.now ∨ time ∈ armed.times after.completes) : Moves context before after
  | drop {before after : WalkState} {armed : ArmedRule} {kept rest : List ArmedRule} (idle : Idle before after)
      (events : after.events = before.events ++ [.dropped armed.ruleIndex])
      (isArmed : before.armedRules = kept ++ armed :: rest) (armedRules : after.armedRules = kept ++ rest) :
      Moves context before after
  | judge {before after : WalkState} {armed : ArmedRule} {kept rest : List ArmedRule} (idle : Idle before after)
      (events : after.events = before.events ++ [.judged armed.ruleIndex after.now])
      (isArmed : before.armedRules = kept ++ armed :: rest) (armedRules : after.armedRules = kept ++ rest)
      (resolved : ∀ time ∈ armed.times after.completes, time ≤ after.now) : Moves context before after
  | close {before after : WalkState} (closes : Closes before after) : Moves context before after

variable (context : WalkContext)

def Runs : WalkState → WalkState → Prop := Relation.ReflTransGen (Moves context)

/-- A run whose last move ends the walk. -/
def RunsClosed (before after : WalkState) : Prop :=
  ∃ middle, Runs context before middle ∧ Closes middle after

/-! ## Small steps of the functions -/

section Small

variable {context : WalkContext} {before state after : WalkState}

theorem Idle.tick (state : WalkState) (looks : Nat) : Idle state (state.tick looks) :=
  ⟨le_add_right _ _, rfl, rfl⟩

theorem Idle.settle (state : WalkState) : Idle state (settleDNSFutures state) :=
  ⟨le_add_right _ _, map_completes_settle state, rfl⟩

section
variable (runs : Runs context before state)
include runs

theorem Runs.pass (idle : Idle state after) (events : after.events = state.events)
    (armedRules : after.armedRules = state.armedRules) : Runs context before after :=
  runs.tail (.pass idle events armedRules)

theorem Runs.tick (looks : Nat) : Runs context before (state.tick looks) :=
  runs.pass (.tick state looks) rfl rfl

theorem Runs.settle : Runs context before (settleDNSFutures state) :=
  runs.pass (.settle state) rfl rfl

theorem Runs.same (now : after.now = state.now) (futures : after.futures = state.futures)
    (canceled : after.canceled = state.canceled) (events : after.events = state.events)
    (armedRules : after.armedRules = state.armedRules) : Runs context before after :=
  runs.pass ⟨now.ge, congrArg (List.map Future.completes) futures, canceled⟩ events armedRules

theorem Runs.next : Runs context before state.next := runs.same rfl rfl rfl rfl rfl

theorem Runs.launch (tag transport : String) (options : DNSQueryOptions) :
    Runs context before (context.launchDNSEvaluate state tag transport options).1 :=
  runs.tail (.launch state.launched rfl (map_append ..) rfl rfl rfl)

end

end Small

/-! ## Armed rules -/

section Armed

variable {context : WalkContext} {before state : WalkState}

theorem times_le_of_ready {armed : ArmedRule} {looks : Nat}
    (ready : firstUnresolved state.futures state.now armed.futures = none) (looked : armed.futures.length ≤ looks) :
    ∀ time ∈ armed.times state.completes, time ≤ state.now + looks := by
  intro time isTime
  obtain ⟨future, isBound, isFuture⟩ := mem_filterMap.mp isTime
  obtain ⟨index, inside, isIndex⟩ := mem_iff_getElem.mp isBound
  rw [WalkState.completes, getElem?_map] at isFuture
  obtain ⟨found, isFound, rfl⟩ := map_eq_some_iff.mp isFuture
  have isBound : armed.futures[index]? = some future := isIndex ▸ getElem?_eq_getElem inside
  have resolved := resolved_of_firstUnresolved ready isBound isFound
  have early : found.completes ≤ state.now + index := by simpa [Future.resolved] using resolved
  omega

/-- Of the queries that a rule binds, those that it does not wait for have completed. -/
theorem waits_of_unresolvedAmong (futures : List Future) (now : Nat) (bound : List Nat) :
    ∀ time ∈ bound.filterMap fun future => futures[future]?.map Future.completes, time ≤ now + bound.length ∨
      time ∈ (unresolvedAmong futures now bound).filterMap fun future => (futures.map Future.completes)[future]? := by
  induction bound generalizing now with
  | nil => simp
  | cons first rest ih =>
    intro time isTime
    have later := ih (now + 1) time
    obtain ⟨future, isBound, isFuture⟩ := mem_filterMap.mp isTime
    unfold unresolvedAmong
    rw [length_cons]
    rcases mem_cons.mp isBound with rfl | isRest
    · obtain ⟨found, isFound, rfl⟩ := map_eq_some_iff.mp isFuture
      split
      case isTrue resolved =>
        have early : found.completes ≤ now := by simpa [isFound, Future.resolved] using resolved
        exact .inl (by omega)
      case isFalse =>
        refine .inr (mem_filterMap.mpr ⟨future, mem_cons_self, ?_⟩)
        rw [getElem?_map, isFound]
        rfl
    · rcases later (mem_filterMap.mpr ⟨future, isRest, isFuture⟩) with early | waited
      · exact .inl (by omega)
      · refine .inr ?_
        split
        · exact waited
        · obtain ⟨other, isOther, isTime⟩ := mem_filterMap.mp waited
          exact mem_filterMap.mpr ⟨other, mem_cons_of_mem _ isOther, isTime⟩

theorem Runs.arm (runs : Runs context before state) (rule : DNSRule) : Runs context before (armRule state rule) :=
  runs.tail (.arm ⟨le_add_right _ _, rfl, rfl⟩ rfl rfl
    (waits_of_unresolvedAmong state.futures state.now (state.bindings rule.rule)))

/-- What a sweep comes to: a rule that commits, or none. -/
def Swept (context : WalkContext) (before : WalkState) : Option WalkContext.Commit × WalkState → Prop
  | (some _, after) => RunsClosed context before after
  | (none, after) => Runs context before after

/-- The loop of the sweep; the rules that are still armed are those kept and those to come. -/
theorem sweepFrom_follows (rest : List ArmedRule) (kept : List ArmedRule)
    (runs : Runs context before { state with armedRules := kept ++ rest }) :
    Swept context before (context.sweepFrom kept rest state) := by
  induction rest generalizing kept state with
  | nil =>
    rw [append_nil] at runs
    exact runs
  | cons armed rest ih =>
    let looked := state.tick (armed.futures.length + 1)
    have passes : Runs context before { looked with armedRules := kept ++ armed :: rest } :=
      runs.pass ⟨le_add_right _ _, rfl, rfl⟩ rfl rfl
    have idle : ∀ event, Idle { looked with armedRules := kept ++ armed :: rest }
        { looked.note event with armedRules := kept ++ rest } := fun _ => ⟨le_rfl, rfl, rfl⟩
    unfold sweepFrom
    dsimp only
    split
    · refine ih (kept ++ [armed]) ?_
      rw [append_assoc]
      exact passes
    case isFalse ready =>
      split
      · exact ih kept (passes.tail (.drop (idle _) rfl rfl rfl))
      · split
        · refine ih kept (passes.tail (.judge (idle _) rfl rfl rfl ?_))
          exact times_le_of_ready (by simpa using ready) (le_succ _)
        · exact ⟨_, passes, idle _, .inl ⟨_, rfl⟩⟩

theorem sweepArmedDNSRules_nil (unarmed : state.armedRules = []) :
    context.sweepArmedDNSRules state = (none, state) := by
  unfold sweepArmedDNSRules
  rw [unarmed, sweepFrom, ← unarmed]

theorem sweepArmedDNSRules_follows (runs : Runs context before state) :
    Swept context before (context.sweepArmedDNSRules state) :=
  sweepFrom_follows state.armedRules [] runs

end Armed

/-! ## One rule -/

/-- How the examination of a rule ends. -/
def Examined (context : WalkContext) (before : WalkState) : WalkContext.Outcome → Prop
  | .next after | .suspend (.await _) after | .suspend .drain after => Runs context before after
  | .suspend (.pending _) after => RunsClosed context before after ∧ after.armedRules = []
  | .done _ after => RunsClosed context before after

section Rules

variable {context : WalkContext} {before state : WalkState}

section
variable (runs : Runs context before state)
include runs

theorem final_follows (commit : WalkContext.Commit) : Examined context before (final state commit) := by
  unfold final
  split
  · exact runs
  case isFalse unarmed =>
    have none : state.armedRules = [] := by simpa using unarmed
    have closed : RunsClosed context before (state.note (.final state.ruleIndex)) :=
      ⟨state, runs, ⟨le_rfl, rfl, rfl⟩, .inr ⟨_, rfl, none, none⟩⟩
    cases commit with
    | result => exact closed
    | pending => exact ⟨closed, none⟩

theorem evaluate_follows (server tag : String) (speculative : Bool) (routeOptions : RuleActionDNSRouteOptions) :
    Examined context before (context.evaluate state server tag speculative routeOptions) := by
  unfold evaluate
  split
  · split <;> exact runs.same rfl rfl rfl rfl rfl
  · split
    · exact runs
    · have launched := runs.launch tag server (applyDNSRouteOptions state.effectiveOptions routeOptions)
      dsimp only [Examined]
      split <;> exact launched.same rfl rfl rfl rfl rfl

variable (rule : DNSRule)

theorem respond_follows : Examined context before (respond state rule) := by
  unfold respond
  dsimp only
  split
  · exact final_follows runs _
  · split
    · split
      · exact runs
      · exact final_follows runs _
    · exact final_follows runs _

theorem route_follows (server : String) (speculative : Bool) (routeOptions : RuleActionDNSRouteOptions) :
    Examined context before (context.route state server speculative routeOptions) := by
  unfold route
  split
  · exact runs.next
  case _ options _ =>
    split
    · split
      · exact (runs.launch "" server options).same rfl rfl rfl rfl rfl
      · exact runs
    · split
      · split <;> exact final_follows runs _
      · exact final_follows runs _

theorem act_follows : Examined context before (context.act state rule) := by
  unfold act
  split
  · exact runs.same rfl rfl rfl rfl rfl
  · exact evaluate_follows runs ..
  · exact respond_follows runs rule
  · exact route_follows runs ..
  · exact final_follows runs _
  · exact final_follows runs _

theorem matchAndAct_follows : Examined context before (context.matchAndAct state rule) := by
  unfold matchAndAct
  split
  · exact act_follows (runs.tick 1) rule
  · exact (runs.tick 1).next

theorem examineRace_follows : Examined context before (context.examineRace state rule) := by
  have armed := runs.arm rule
  unfold examineRace
  dsimp only
  split
  · exact armed.next
  · have swept := sweepArmedDNSRules_follows armed
    split
    case _ isSwept =>
      rw [isSwept] at swept
      obtain ⟨middle, runs, idle, closed⟩ := swept
      refine ⟨⟨middle, runs, ⟨idle.later, idle.completes, idle.canceled⟩, ?_⟩, rfl⟩
      exact closed.imp_right fun ⟨position, events, unarmed, _⟩ => ⟨position, events, unarmed, rfl⟩
    case _ isSwept =>
      rw [isSwept] at swept
      exact swept
    case _ isSwept =>
      rw [isSwept] at swept
      exact Runs.next swept

end

theorem examine_follows (state : WalkState) (rule : DNSRule) : Examined context state (context.examine state rule) := by
  have looked : Runs context state (state.tick 1) := Runs.tick .refl 1
  unfold examine
  split
  · exact looked.next
  · split
    · exact matchAndAct_follows looked rule
    · dsimp only
      split
      · exact examineRace_follows looked.settle rule
      · split
        · exact looked.settle.tick _
        · exact matchAndAct_follows (looked.settle.tick _) rule

end Rules

/-! ## The exchange -/

/-- Queries are cancelled, if any of them still runs. -/
structure Cancels (before after : WalkState) : Prop where
  later : before.now ≤ after.now
  completes : after.completes = before.completes
  events : after.events = before.events
  armedRules : after.armedRules = before.armedRules
  canceled : (∀ time ∈ before.completes, time ≤ before.now) → after.canceled = before.canceled

section Exchanges

variable {context : WalkContext} {exch : Exchange}

open WalkContext

theorem Cancels.trans {first second third : WalkState} (cancels : Cancels first second)
    (further : Cancels second third) : Cancels first third where
  later := cancels.later.trans further.later
  completes := further.completes.trans cancels.completes
  events := further.events.trans cancels.events
  armedRules := further.armedRules.trans cancels.armedRules
  canceled completed := by
    refine (further.canceled fun time isTime => ?_).trans (cancels.canceled completed)
    exact (completed time (cancels.completes ▸ isTime)).trans cancels.later

variable (state : WalkState)

theorem cancels_cancelDNSFutures (waited : Option Nat) : Cancels state (cancelDNSFutures state waited) where
  later := le_rfl
  completes := by
    refine ext_getElem? fun index => ?_
    simp only [WalkState.completes, cancelDNSFutures, getElem?_map, getElem?_mapIdx, Option.map_map]
    congr 1
    funext future
    simp only [Function.comp_apply]
    split <;> rfl
  events := rfl
  armedRules := rfl
  canceled completed := by
    refine (Bool.or_eq_left_iff_imp.mpr fun some => ?_)
    obtain ⟨cancels, mem, isTrue⟩ := any_eq_true.mp some
    obtain ⟨index, inside, rfl⟩ := mem_mapIdx.mp mem
    have resolved := completed _ (mem_map_of_mem (getElem_mem inside))
    simp [WalkState.cancels, Future.resolved, resolved] at isTrue

theorem cancels_waiting (now : Nat) : Cancels state { state with now := max state.now now } where
  later := Nat.le_max_left _ _
  completes := rfl
  events := rfl
  armedRules := rfl
  canceled _ := rfl

theorem finishPendingExchange_ends (pending : PendingExchange) :
    ∃ result after, Cancels state after ∧
      context.finishPendingExchange exch state pending = { exch with state := after, control := .ended result } := by
  have canceled := cancels_cancelDNSFutures state pending.future
  unfold finishPendingExchange
  dsimp only
  split
  · exact ⟨_, _, canceled.trans ((cancels_waiting _ _).trans (cancels_cancelDNSFutures _ _)), rfl⟩
  · exact ⟨_, _, canceled, rfl⟩

theorem step_walking (walking : exch.control = .walking) :
    ∃ examined, Examined context exch.state examined ∧ context.step exch = WalkContext.outcome exch examined := by
  unfold step
  rw [walking]
  dsimp only
  split
  · exact ⟨_, examine_follows exch.state _, rfl⟩
  · exact ⟨_, final_follows .refl _, rfl⟩

variable {suspension : Suspension}

theorem resume_commits {commit : Commit} {state : WalkState}
    (swept : context.sweepArmedDNSRules (settleDNSFutures exch.state) = (some commit, state)) :
    RunsClosed context exch.state state ∧ ∃ result after, Cancels state after ∧
      context.resume exch suspension = { exch with state := after, control := .ended result } := by
  have follows := @sweepArmedDNSRules_follows context exch.state (settleDNSFutures exch.state) (Runs.settle .refl)
  rw [swept] at follows
  refine ⟨follows, ?_⟩
  unfold resume
  rw [swept]
  cases commit with
  | pending pending => exact finishPendingExchange_ends state pending
  | result result => exact ⟨result, _, cancels_cancelDNSFutures state none, rfl⟩

/-- What waiting comes to: the walk ends since a race rule commits, or the exchange goes on. -/
theorem step_waiting (suspended : exch.control = .suspended suspension)
    (waits : ∀ pending, suspension ≠ .pending pending) :
    (∃ state, RunsClosed context exch.state state ∧ ∃ result after, Cancels state after ∧
        context.step exch = { exch with state := after, control := .ended result }) ∨
      ∃ state, Runs context exch.state state ∧
        (context.step exch = { exch with state, control := .walking } ∨
          context.step exch = { exch with state, control := .suspended suspension }) := by
  have stepped : context.step exch = context.resume exch suspension := by
    unfold step
    rw [suspended]
  rw [stepped]
  have follows := @sweepArmedDNSRules_follows context exch.state (settleDNSFutures exch.state) (Runs.settle .refl)
  cases swept : context.sweepArmedDNSRules (settleDNSFutures exch.state) with
  | mk committed state =>
    rw [swept] at follows
    cases committed with
    | some commit => exact .inl ⟨state, resume_commits swept⟩
    | none =>
      refine .inr ⟨state.tick 1, Runs.tick follows 1, ?_⟩
      unfold resume
      rw [swept]
      cases suspension with
      | pending pending => exact absurd rfl (waits pending)
      | await | drain =>
        dsimp only
        split
        · exact .inr rfl
        · exact .inl rfl

theorem step_pending {pending : PendingExchange} (suspended : exch.control = .suspended (.pending pending))
    (unarmed : exch.state.armedRules = []) :
    ∃ result after, Cancels exch.state after ∧
      context.step exch = { exch with state := after, control := .ended result } := by
  have swept := @sweepArmedDNSRules_nil context (settleDNSFutures exch.state) unarmed
  have stepped : context.step exch =
      context.finishPendingExchange exch (settleDNSFutures exch.state) pending := by
    unfold step
    rw [suspended]
    unfold resume
    rw [swept]
  have settled : Cancels exch.state (settleDNSFutures exch.state) :=
    ⟨le_add_right _ _, map_completes_settle _, rfl, rfl, fun _ => rfl⟩
  obtain ⟨result, after, cancels, ends⟩ :=
    @finishPendingExchange_ends context exch (settleDNSFutures exch.state) pending
  exact ⟨result, after, settled.trans cancels, stepped.trans ends⟩

theorem step_ended {result : ExchangeResult} (ended : exch.control = .ended result) :
    (∃ settled, context.step exch = { exch with control := .finished settled }) ∨
      (∃ index, context.step exch = { exch with
        state := { exch.state with ruleIndex := index }, control := .walking }) ∨
      ∃ index options, context.step exch = {
        state := {
          ruleIndex := index, effectiveOptions := options, now := exch.state.now
          launched := exch.state.launched, events := exch.state.events }
        continued := true
        control := .walking } := by
  unfold step
  rw [ended]
  unfold afterWalk
  dsimp only
  split
  · exact .inl ⟨_, rfl⟩
  · split
    · exact .inr (.inl ⟨_, rfl⟩)
    · exact .inr (.inr ⟨_, _, rfl⟩)

end Exchanges

end SingBox
