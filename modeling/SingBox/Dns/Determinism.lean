import SingBox.Dns.Accepted
import SingBox.Dns.Moves
import SingBox.Lib.Machine

/-! # The walk and the sequential interpreter

An exchange comes to the result of the sequential interpreter, whenever its queries
complete, as long as no step of it is disturbed. Two things can disturb a step. A query
may complete after the responses were settled and before the walk asks whether it has
completed: the walk then goes on, and does not find the response. And the queries that
still run when a rule commits are cancelled, but the walk goes on with them if the rule falls
through for the second time.
-/

open List Option Nat Function

namespace SingBox

open Lib.Machine WalkContext

variable {result : ExchangeResult} {position : Nat} {disabled : Nat → Bool} {evaluations : Evaluations}
  {exchange : Exchange} {rest : List DNSRule}

namespace WalkContext

variable (context : WalkContext)

/-- What must not happen in the next step. -/
def Undisturbed (disabled : Nat → Bool) (exchange : Exchange) : Prop :=
  match exchange.control with
  | .walking => ∀ rule, context.rules[exchange.state.ruleIndex]? = some rule →
      disabled exchange.state.ruleIndex = false → rule.rule.hasBindings →
        Prompt (settleDNSFutures (exchange.state.tick 1)) rule
  | .ended result => exchange.continued → (fallsThrough context.rules (context.settle result)).isSome →
      exchange.state.canceled = false
  | .suspended _ | .finished _ => True

end WalkContext

open WalkContext

/-! ## Results -/

theorem tryFallbackRules_rule (router : DNSRouter) (metadata : InboundContext) (allowFakeIP : Bool) (position : Nat)
    (primary : ExchangeResult) (index : Nat) (rules : List DNSFallbackRule) (result : ExchangeResult) :
    (tryFallbackRules router metadata allowFakeIP position primary index rules result).rule = result.rule := by
  induction rules generalizing index result with
  | nil => rfl
  | cons rule rules ih =>
    unfold tryFallbackRules
    dsimp only
    split
    · exact ih _ _
    · split
      · split
        · rfl
        · exact ih _ _
      · split
        · exact ih _ _
        · split
          · exact ih _ _
          · split
            · exact ih _ _
            · rfl

namespace WalkContext

variable (context : WalkContext)

theorem settle_rule (result : ExchangeResult) : (context.settle result).rule = result.rule := by
  unfold settle applyDNSFallback
  split
  · rfl
  · split
    · rfl
    · split
      · rfl
      · exact tryFallbackRules_rule ..

theorem eq_of_fallsThrough {rules : List DNSRule}
    (falls : fallsThrough rules result = some position) : result.rule = some position := by
  unfold fallsThrough at falls
  split at falls
  · cases falls
  · split at falls
    · cases falls
    · split at falls
      · cases falls
        assumption
      · cases falls

theorem turn_commit_rule {rule : DNSRule} (commits : context.turn disabled position rule evaluations = .commit result) :
    result.rule = none ∨ result.rule = some position := by
  have respond : ∀ options response transport, (respondResult position options response transport).rule = none ∨
      (respondResult position options response transport).rule = some position := by
    intro options response transport
    cases response with
    | none => exact .inl rfl
    | some => exact .inr rfl
  unfold turn at commits
  split at commits
  · cases commits
  split at commits
  case isFalse => cases commits
  unfold actNow at commits
  split at commits
  · cases commits
  · split at commits <;> cases commits
  · cases commits
    unfold respondNow
    split <;> exact respond ..
  · split at commits
    · cases commits
    · cases commits
      exact .inr rfl
  case _ rcode method _ =>
    cases commits
    cases method <;> exact .inr rfl
  · cases commits
    exact .inr rfl

end WalkContext

/-! ## Steps without armed rules -/

section Steps

variable {context : WalkContext} {exchange : Exchange} {evaluations : Evaluations}

theorem cancelDNSFutures_eq {state : WalkState} {waited : Option Nat}
    (untouched : (cancelDNSFutures state waited).canceled = false) : cancelDNSFutures state waited = state := by
  unfold cancelDNSFutures at untouched ⊢
  simp only [Bool.or_eq_false_iff] at untouched ⊢
  obtain ⟨before, none⟩ := untouched
  have futures : (state.futures.mapIdx fun index future =>
      if state.cancels waited index future then future.cancel else future) = state.futures := by
    refine ext_getElem? fun index => ?_
    rw [getElem?_mapIdx]
    cases isFuture : state.futures[index]? with
    | none => rfl
    | some future =>
      have kept : state.cancels waited index future = false := by
        have all := any_eq_false.mp none
        have mem : state.cancels waited index future ∈ state.futures.mapIdx (state.cancels waited) := by
          refine mem_of_getElem? (i := index) ?_
          rw [getElem?_mapIdx, isFuture]
          rfl
        simpa using all _ mem
      simp [kept]
  rw [futures, none, Bool.or_false]

/-- The time until the last query has completed. -/
def WalkState.remaining (state : WalkState) : Nat := (state.futures.map Future.completes).foldr max 0 - state.now

theorem Passed.remaining_lt {before after : WalkState} (passed : Passed before after)
    (unresolved : ∃ time ∈ before.futures.map Future.completes, before.now < time) :
    after.remaining < before.remaining := by
  obtain ⟨time, mem, later⟩ := unresolved
  have bounded : time ≤ (before.futures.map Future.completes).foldr max 0 := le_max_of_le mem le_rfl
  have waits := passed.later
  unfold WalkState.remaining
  rw [passed.completes]
  omega

theorem Passed.trans {first second third : WalkState} (passed : Passed first second) (further : Passed second third) :
    Passed first third where
  index := further.index.trans passed.index
  later := passed.later.trans further.later
  completes := further.completes.trans passed.completes

/-- What an exchange is after its walk was interrupted and goes on. -/
structure GoesOn (context : WalkContext) (evaluations : Evaluations) (exchange later : Exchange) : Prop where
  walking : later.control = .walking
  continued : later.continued = exchange.continued
  related : Related context.rules later.state evaluations
  passed : Passed exchange.state later.state

theorem eventually_goesOn {future : Nat} (waits : exchange.control = .suspended (.await future))
    (related : Related context.rules exchange.state evaluations) :
    Eventually context.step (GoesOn context evaluations exchange) exchange := by
  -- Each time the walk is woken for nothing, the last query is nearer.
  induction remaining : exchange.state.remaining using Nat.strong_induction_on generalizing exchange with
  | _ remaining ih =>
    let state := (settleDNSFutures exchange.state).tick 1
    let stillWaits := (settleDNSFutures exchange.state).futures[future]?.any fun found =>
      !found.resolved (settleDNSFutures exchange.state).now
    have stepped : context.step exchange = { exchange with
        state, control := if stillWaits then .suspended (.await future) else .walking } := by
      unfold step
      rw [waits]
      unfold resume
      rw [sweepArmedDNSRules_nil related.settle.unarmed]
    have relatedNow : Related context.rules state evaluations := related.settle.tick 1
    have passed : Passed exchange.state state :=
      ⟨rfl, lt_succ_of_le (le_add_right _ _), map_completes_settle exchange.state⟩
    apply Eventually.next
    rw [stepped]
    cases isWaiting : stillWaits with
    | false => exact .here ⟨rfl, rfl, relatedNow, passed⟩
    | true =>
      have unresolved : ∃ time ∈ exchange.state.futures.map Future.completes, exchange.state.now < time := by
        obtain ⟨found, isFound, unresolved⟩ := (Option.any_eq_true ..).mp isWaiting
        rw [← map_completes_settle]
        refine ⟨found.completes, mem_map_of_mem (mem_of_getElem? isFound), ?_⟩
        have later : (settleDNSFutures exchange.state).now < found.completes := by
          simpa [Future.resolved] using unresolved
        exact (le_add_right _ _).trans_lt later
      obtain ⟨steps, reached⟩ := @ih state.remaining (remaining ▸ passed.remaining_lt unresolved)
        { exchange with state, control := .suspended (.await future) } rfl relatedNow rfl
      exact ⟨steps, reached.walking, reached.continued, reached.related, passed.trans reached.passed⟩

/-- The walk has ended at a rule; the queries that still ran were cancelled. -/
structure Ended (context : WalkContext) (evaluations : Evaluations) (continued : Bool) (position : Nat)
    (result : ExchangeResult) (exchange : Exchange) : Prop where
  ended : exchange.control = .ended result
  continued : exchange.continued = continued
  related : ∃ state : WalkState, exchange.state = cancelDNSFutures state none ∧ state.ruleIndex = position ∧
    Related context.rules state evaluations

theorem ended_of_pending {pending : PendingExchange} (waits : exchange.control = .suspended (.pending pending))
    (unlaunched : pending.future = none) (related : Related context.rules exchange.state evaluations) :
    Ended context evaluations exchange.continued exchange.state.ruleIndex
      (queryResult pending.transport pending.rule pending.options
        (context.askNow (pending.rule.getD context.rules.length) pending.transport pending.options))
      (context.step exchange) := by
  have stepped : context.step exchange = { exchange with
      state := cancelDNSFutures (settleDNSFutures exchange.state) none
      control := .ended (queryResult pending.transport pending.rule pending.options
        (context.askNow (pending.rule.getD context.rules.length) pending.transport pending.options)) } := by
    unfold step
    rw [waits]
    unfold resume
    rw [sweepArmedDNSRules_nil related.settle.unarmed]
    simp only [finishPendingExchange, unlaunched]
    rfl
  rw [stepped]
  exact ⟨rfl, rfl, settleDNSFutures exchange.state, rfl, rfl, related.settle⟩

theorem Related.fresh (rules : List DNSRule) (index : Nat) (options : DNSQueryOptions) (now launched : Nat)
    (events : List RaceEvent) :
    Related rules { ruleIndex := index, effectiveOptions := options, now, launched, events } { options } where
  options := rfl
  unarmed := rfl
  terminal := rfl
  anonymous := rfl
  present := by simp
  named _ := ⟨rfl, rfl⟩
  tagged := by simp
  pointed := by simp
  settled := by simp
  unknown _ _ _ := ⟨rfl, rfl⟩
  ahead _ _ := rfl

/-- What follows a walk: its result is that of the exchange, or the rules behind the one
that was selected are tried. -/
theorem Ended.step {continued : Bool} (ended : Ended context evaluations continued position result exchange)
    (undisturbed : context.Undisturbed disabled exchange) (selected : result.rule = none ∨ result.rule = some position) :
    if (fallsThrough context.rules (context.settle result)).isSome then
      (context.step exchange).control = .walking ∧ (context.step exchange).continued ∧
        (context.step exchange).state.ruleIndex = position + 1 ∧
        Related context.rules (context.step exchange).state (carriedOver continued evaluations (context.settle result))
    else (context.step exchange).control = .finished (context.settle result) := by
  obtain ⟨isEnded, rfl, state, isState, isPosition, related⟩ := ended
  unfold Undisturbed at undisturbed
  rw [isEnded] at undisturbed
  simp only [WalkContext.step, isEnded, afterWalk]
  rw [show applyDNSFallback context.router context.metadata context.allowFakeIP context.rules result =
    context.settle result from rfl]
  cases falls : fallsThrough context.rules (context.settle result) with
  | none => rfl
  | some index =>
    have here : index = position := by
      have isRule := (context.settle_rule result).symm.trans (eq_of_fallsThrough falls)
      rcases selected with none | some
      · cases none.symm.trans isRule
      · cases some.symm.trans isRule
        rfl
    subst here
    cases wasContinued : exchange.continued with
    | false => exact ⟨rfl, rfl, rfl, Related.fresh ..⟩
    | true =>
      have untouched := undisturbed wasContinued (by rw [falls]; rfl)
      rw [isState] at untouched
      have unchanged := isState.trans (cancelDNSFutures_eq untouched)
      refine ⟨rfl, rfl, rfl, ?_⟩
      simp only [if_true, unchanged]
      exact related.moveTo (by omega)

end Steps

/-! ## Whole exchanges -/

section Runs

variable {context : WalkContext} {disabled : Nat → Bool}

/-- The exchange comes to an end with this result. -/
def Finishes (context : WalkContext) (result : ExchangeResult) (exchange : Exchange) : Prop :=
  Eventually context.step (fun later => later.control = .finished result) exchange

/-- The walk at some rule comes to the result of the interpreter from that rule on. -/
def FinishesFrom (context : WalkContext) (disabled : Nat → Bool) (rest : List DNSRule) : Prop :=
  ∀ (exchange : Exchange) (evaluations : Evaluations), exchange.control = .walking →
    Related context.rules exchange.state evaluations → context.rules.drop exchange.state.ruleIndex = rest →
    exchange.state.ruleIndex + rest.length = context.rules.length →
    Always context.step (context.Undisturbed disabled) exchange →
      Finishes context (context.sequential disabled exchange.continued exchange.state.ruleIndex rest evaluations) exchange

theorem Ended.finishes {continued : Bool} (ended : Ended context evaluations continued position result exchange)
    (selected : result.rule = none ∨ result.rule = some position)
    (always : Always context.step (context.Undisturbed disabled) exchange)
    (isRest : context.rules.drop (position + 1) = rest) (inside : position + 1 + rest.length = context.rules.length)
    (further : FinishesFrom context disabled rest) :
    Finishes context
      (if (fallsThrough context.rules (context.settle result)).isSome then
        context.sequential disabled true (position + 1) rest (carriedOver continued evaluations (context.settle result))
      else context.settle result) exchange := by
  have stepped := ended.step always.here selected
  apply Eventually.next
  split at stepped
  case isTrue falls =>
    obtain ⟨walking, isContinued, index, related⟩ := stepped
    rw [if_pos falls, ← isContinued, ← index]
    exact further _ _ walking related (index ▸ isRest) (index ▸ inside) always.next
  case isFalse stays =>
    rw [if_neg stays]
    exact .here stepped

theorem finishesFrom_nil : FinishesFrom context disabled [] := by
  intro exchange evaluations walking related isEnd inside always
  have outside : context.rules[exchange.state.ruleIndex]? = none := getElem?_eq_none (drop_eq_nil_iff.mp isEnd)
  have stepped : context.step exchange = { exchange with
      state := exchange.state.note (.final exchange.state.ruleIndex)
      control := .suspended (.pending {
        transport := context.router.defaultTransport, options := exchange.state.effectiveOptions }) } := by
    unfold step
    rw [walking]
    rw [outside]
    unfold endOfRules final
    rw [if_neg (by simpa using related.unarmed)]
    rfl
  have always := always.next
  apply Eventually.next
  rw [stepped] at always ⊢
  have ended := @ended_of_pending context (context.step exchange) evaluations _ (by rw [stepped]) rfl (by
    rw [stepped]
    exact related.note _)
  rw [stepped] at ended
  -- The default server is no rule, so there is nothing to fall back to.
  have finished := ended.step always.next.here (.inl rfl)
  have isDefault : context.sequential disabled exchange.continued exchange.state.ruleIndex [] evaluations =
      queryResult context.router.defaultTransport none exchange.state.effectiveOptions
        (context.askNow context.rules.length context.router.defaultTransport exchange.state.effectiveOptions) := by
    rw [related.options, ← inside]
    rfl
  rw [isDefault]
  exact .next (.next (.here finished))

section
variable (accepted : AcceptedRules context.rules) (steady : ∀ now, context.schedule.disabled now = disabled)
include accepted steady

theorem finishesFrom_cons {rule : DNSRule}
    (further : FinishesFrom context disabled rest) : FinishesFrom context disabled (rule :: rest) := by
  intro exchange
  induction remaining : exchange.state.remaining using Nat.strong_induction_on generalizing exchange with
  | _ remaining ih =>
    intro evaluations walking related isRest inside always
    have isRule : context.rules[exchange.state.ruleIndex]? = some rule := by
      rw [← head?_drop, isRest]
      rfl
    have isFurther : context.rules.drop (exchange.state.ruleIndex + 1) = rest := by
      rw [← tail_drop, isRest]
      rfl
    have insideFurther : exchange.state.ruleIndex + 1 + rest.length = context.rules.length := by
      rw [← inside, length_cons]
      omega
    have stepped : context.step exchange = WalkContext.outcome exchange (context.examine exchange.state rule) := by
      unfold WalkContext.step
      rw [walking]
      rw [isRule]
    have prompt := always.here
    unfold Undisturbed at prompt
    rw [walking] at prompt
    have simulated := examine_simulates related accepted isRule steady (prompt rule isRule)
    generalize isTurn : context.turn disabled exchange.state.ruleIndex rule evaluations = turn at simulated
    have later := always.next
    apply Eventually.next
    rw [stepped] at later ⊢
    generalize context.examine exchange.state rule = examined at simulated later ⊢
    cases simulated with
    | @next after evaluations' relatedAfter index =>
      have goesOn := further { exchange with state := after, control := .walking } evaluations' rfl relatedAfter
        (index ▸ isFurther) (index ▸ insideFurther) later
      rw [sequential, isTurn]
      exact index ▸ goesOn
    | @await future after turn relatedAfter passed unresolved =>
      refine Eventually.trans later (eventually_goesOn rfl relatedAfter) fun again always goesOn => ?_
      have passed := passed.trans goesOn.passed
      have walked := ih again.state.remaining (remaining ▸ passed.remaining_lt unresolved) again rfl
        evaluations goesOn.walking goesOn.related (passed.index ▸ isRest) (passed.index ▸ inside) always
      rw [passed.index, goesOn.continued] at walked
      exact walked
    | @pending pending after relatedAfter index unlaunched isPending =>
      have ended := @ended_of_pending context
        { exchange with state := after, control := .suspended (.pending pending) } evaluations _ rfl unlaunched relatedAfter
      have here : ({ exchange with state := after, control := .suspended (.pending pending) } : Exchange).state.ruleIndex =
          exchange.state.ruleIndex := index
      rw [here, isPending] at ended
      rw [sequential, isTurn, isPending]
      exact .next (ended.finishes (.inr rfl) later.next isFurther insideFurther further)
    | @done result after relatedAfter index =>
      have ended : Ended context evaluations exchange.continued exchange.state.ruleIndex result
          (WalkContext.outcome exchange (.done result after)) := ⟨rfl, rfl, after, rfl, index, relatedAfter⟩
      rw [sequential, isTurn]
      exact ended.finishes (context.turn_commit_rule isTurn) later isFurther insideFurther further

theorem finishesFrom (rest : List DNSRule) : FinishesFrom context disabled rest := by
  induction rest with
  | nil => exact finishesFrom_nil
  | cons rule rest ih => exact finishesFrom_cons accepted steady ih

theorem finishes_sequential (options : DNSQueryOptions)
    (always : Always context.step (context.Undisturbed disabled) (start options)) :
    Finishes context (context.sequential disabled false 0 context.rules { options }) (start options) :=
  finishesFrom accepted steady context.rules (start options) { options } rfl (Related.fresh ..) rfl (zero_add _) always

end

end Runs

/-! ## Speculative queries -/

/-- The action without its flag `speculative`. -/
def DNSRuleAction.unspeculative : DNSRuleAction → DNSRuleAction
  | .route server _ options => .route server false options
  | .evaluate server tag _ options => .evaluate server tag false options
  | action => action

theorem DNSRuleAction.isFinal_unspeculative (action : DNSRuleAction) :
    action.unspeculative.isFinal = action.isFinal := by
  cases action <;> rfl

def DNSRule.unspeculative (rule : DNSRule) : DNSRule :=
  { rule with
    action := rule.action.unspeculative
    race_binds := by
      rw [rule.action.isFinal_unspeculative]
      exact rule.race_binds }

namespace WalkContext

variable (context : WalkContext)

def unspeculative : WalkContext := { context with rules := context.rules.map DNSRule.unspeculative }

theorem turn_unspeculative (disabled : Nat → Bool) (position : Nat) (rule : DNSRule) (evaluations : Evaluations) :
    context.unspeculative.turn disabled position rule.unspeculative evaluations =
      context.turn disabled position rule evaluations := by
  have acts : context.unspeculative.actNow position rule.unspeculative evaluations =
      context.actNow position rule evaluations := by
    have flagless : rule.unspeculative.action = rule.action.unspeculative := rfl
    have respond : respondNow position rule.unspeculative evaluations = respondNow position rule evaluations := rfl
    unfold actNow
    rw [flagless, respond]
    cases rule.action <;> rfl
  unfold turn
  rw [acts]
  rfl

theorem settle_unspeculative (result : ExchangeResult) :
    context.unspeculative.settle result = context.settle result := by
  unfold settle applyDNSFallback unspeculative
  split
  · rfl
  · split
    · rfl
    case _ position _ =>
      rw [getElem?_map]
      cases context.rules[position]? <;> rfl

theorem fallsThrough_unspeculative (result : ExchangeResult) :
    fallsThrough context.unspeculative.rules result = fallsThrough context.rules result := by
  unfold fallsThrough unspeculative
  split
  · rfl
  case _ position _ =>
    rw [getElem?_map, length_map]
    cases context.rules[position]? <;> rfl

theorem sequential_unspeculative (disabled : Nat → Bool) (continued : Bool) (position : Nat) (rules : List DNSRule)
    (evaluations : Evaluations) :
    context.unspeculative.sequential disabled continued position (rules.map DNSRule.unspeculative) evaluations =
      context.sequential disabled continued position rules evaluations := by
  induction rules generalizing continued position evaluations with
  | nil => rfl
  | cons rule rules ih =>
    rw [map_cons, sequential, sequential, turn_unspeculative]
    cases context.turn disabled position rule evaluations with
    | next evaluations => exact ih ..
    | commit result =>
      dsimp only
      rw [settle_unspeculative, fallsThrough_unspeculative]
      split
      · exact ih ..
      · rfl

end WalkContext

/-! ## Determinism -/

/-- Rules that the router accepts, and whose flags stay as they are, have the result of the
interpreter, whenever the queries complete and whatever is sent speculatively. -/
theorem exchange_deterministic {lookup : String → Except String RuleSetMetadata} {ruleSets : String → Option RuleSet}
    {rawRules : List Options.DNSRule} {warnings : List String} {context : WalkContext} {disabled : Nat → Bool}
    (validated : validateLegacyDNSModeDisabledRules lookup rawRules = .ok warnings)
    (built : newDNSRules ruleSets 0 rawRules = .ok context.rules)
    (steady : ∀ now, context.schedule.disabled now = disabled) (options : DNSQueryOptions)
    (undisturbed : Always context.step (context.Undisturbed disabled) (start options)) :
    Finishes context
      (context.unspeculative.sequential disabled false 0 context.unspeculative.rules { options }) (start options) := by
  have result := context.sequential_unspeculative disabled false 0 context.rules { options }
  have accepted := acceptedRules_of_validated validated built
  change context.unspeculative.sequential disabled false 0 context.unspeculative.rules { options } = _ at result
  rw [result]
  exact finishes_sequential accepted steady options undisturbed

/-- A rule that evaluates, and one that responds with what was evaluated. -/
def askThenRespond : List Options.DNSRule := [
  .default {} { action := some (.evaluate "remote" "a" true {}) } [],
  .default { matchResponse := { enabled := true, tag := "a" }, responseRcode := some 0 } { action := some .respond } []]

def askThenRespondRules : List DNSRule := [
  { rule := .default {}, action := .evaluate "remote" "a" true {} },
  { rule := .default { items := [.responseRcode 0], matchResponse := true, matchResponseTag := "a" }, action := .respond }]

/-- The query of the first rule completes at this time. -/
def completesAt (time : Nat) : WalkContext where
  router := {
    defaultTransport := "local"
    exchange := fun query => { response := some { rcode := if query.transport = "remote" then 0 else 3 } } }
  rules := askThenRespondRules
  schedule := { completes := fun _ => time }

/-- The walk suspends at the second rule until the query has completed. -/
theorem undisturbed_suspended : Always (completesAt 9).step ((completesAt 9).Undisturbed fun _ => false) (start {}) := by
  refine @Always.of_rest _ _ _ _ 7 rfl fun index early => ?_
  match index, early with
  | 0, _ => rintro rule ⟨⟩ - ⟨⟩
  | 1, _ =>
    rintro rule ⟨⟩ - - (_ | index) future found ⟨⟩ ⟨⟩
    exact ⟨fun _ resolved => (by cases resolved), nofun⟩
  | 2, _ | 3, _ | 4, _ | 7, _ => trivial
  | 5, _ =>
    rintro rule ⟨⟩ - - (_ | index) future found ⟨⟩ ⟨⟩
    exact ⟨fun _ _ => rfl, nofun⟩
  | 6, _ => exact nofun

theorem exchange_deterministic_suspended :
    Finishes (completesAt 9) ((completesAt 9).unspeculative.sequential (fun _ => false) false 0
      (completesAt 9).unspeculative.rules {}) (start {}) :=
  @exchange_deterministic (fun _ => .ok {}) (fun _ => none) askThenRespond [
    "dns rule[0]: `speculative` has no effect without a preceding `race` rule"] (completesAt 9) (fun _ => false)
    rfl rfl (fun _ => rfl) {} undisturbed_suspended

theorem Finishes.unique {context : WalkContext} {other : ExchangeResult}
    (finishes : Finishes context result exchange) (again : Finishes context other exchange) : result = other := by
  have stays : ∀ {exchange : Exchange} {result : ExchangeResult}, exchange.control = .finished result →
      ∀ steps, context.step^[steps] exchange = exchange := by
    intro exchange result finished steps
    refine iterate_fixed ?_ steps
    unfold step
    rw [finished]
  obtain ⟨first, isResult⟩ := finishes
  obtain ⟨second, isOther⟩ := again
  have same : context.step^[first] exchange = context.step^[second] exchange := by
    rw [← stays isResult second, ← iterate_add_apply, Nat.add_comm, iterate_add_apply, stays isOther]
  cases isResult.symm.trans (same ▸ isOther)
  rfl

/-- The query completes after the responses were settled and before it is looked at: the
second rule does not find the response that it has not waited for. -/
theorem exchange_misses_response :
    validateLegacyDNSModeDisabledRules (fun _ => .ok {}) askThenRespond =
        .ok ["dns rule[0]: `speculative` has no effect without a preceding `race` rule"] ∧
      newDNSRules (fun _ => none) 0 askThenRespond = .ok (completesAt 4).rules ∧
      (∀ rule ∈ (completesAt 4).rules, rule.race = false) ∧
      ¬Finishes (completesAt 4) ((completesAt 4).sequential (fun _ => false) false 0 (completesAt 4).rules {})
        (start {}) := by
  refine ⟨rfl, rfl, by decide, fun finishes => ?_⟩
  have missed : Finishes (completesAt 4) { response := some { rcode := 3 }, transport := some "local" } (start {}) :=
    ⟨7, rfl⟩
  have same := congrArg ExchangeResult.rule (missed.unique finishes)
  have answered : ((completesAt 4).sequential (fun _ => false) false 0 (completesAt 4).rules {}).rule = some 1 := rfl
  cases same.trans answered

end SingBox
