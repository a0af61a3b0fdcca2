import SingBox.Dns.Router
import SingBox.Lib.Table

/-! # The walk over the DNS rules

`walkDNSRules`, `resumeExchangeWithRules` and `sweepArmedDNSRules`. Queries of `evaluate`
actions run beside the walk: it goes on to the next rule and is suspended where a rule needs
a response that is not there yet. A rule with `race` is armed instead, and swept when its
responses have come.

Queries complete at any time, also between two looks at the same future. The walk
therefore carries a clock that ticks whenever it looks at a future or at a flag, and the
schedule says at which time a query completes: every order in which completions and looks
can fall is that of some schedule.
-/

namespace SingBox

open Lib (assign)

/-! ## State -/

/-- `dnsEvaluatedFuture`. -/
structure Future where
  tag : String := ""
  transport : String
  /-- The time at which `done` is closed, with this answer. -/
  completes : Nat
  answer : DNSAnswer
  settled : Bool := false

namespace Future

variable (future : Future)

def resolved (now : Nat) : Bool := decide (future.completes ≤ now)

def view (now : Nat) : Option DnsMessage := if future.resolved now then future.answer.view else none

end Future

/-- `dnsArmedRule`; futures by their place in the list of all. -/
structure ArmedRule where
  ruleIndex : Nat
  rule : DNSRule
  futures : List Nat
  anonymousFuture : Option Nat
  bindsAnonymous : Bool
  options : DNSQueryOptions

/-- What an observer notes of the rules with `race` and of the final actions. -/
inductive RaceEvent where
  /-- The walk passed the rule, which binds futures that complete at these times. -/
  | armed (position : Nat) (bound : List Nat)
  /-- The rule was matched, and did not commit. -/
  | judged (position : Nat) (now : Nat)
  /-- The rule was disabled when its turn came. -/
  | dropped (position : Nat)
  | committed (position : Nat)
  /-- The final action of a rule without `race`, or of the default server. -/
  | final (position : Nat)
deriving DecidableEq, Repr

/-- `dnsRuleWalkState`, with the clock, the number of queries launched so far and the notes
of the observer. -/
structure WalkState where
  ruleIndex : Nat := 0
  effectiveOptions : DNSQueryOptions := {}
  anonymousFuture : Option Nat := none
  namedFutures : List (String × Nat) := []
  namedResponses : List (String × DnsMessage) := []
  namedTransports : List (String × String) := []
  futures : List Future := []
  armedRules : List ArmedRule := []
  /-- `terminalFuture` and `terminalIndex`. -/
  terminal : Option (Nat × Nat) := none
  now : Nat := 0
  launched : Nat := 0
  events : List RaceEvent := []
  /-- A query was cancelled while it ran. -/
  canceled : Bool := false

/-- `dnsPendingExchange`; no rule is the default server. -/
structure PendingExchange where
  transport : String
  options : DNSQueryOptions
  future : Option Nat := none
  rule : Option Nat := none

/-- `dnsWalkSuspension`. -/
inductive Suspension where
  | await (future : Nat)
  | drain
  | pending (exchange : PendingExchange)

/-- When the queries complete, in the order of their launch, and which rules are disabled
at which time. -/
structure Schedule where
  completes : Nat → Nat := fun _ => 0
  disabled : Nat → Nat → Bool := fun _ _ => false

structure WalkContext where
  router : DNSRouter := {}
  rules : List DNSRule
  metadata : InboundContext := {}
  allowFakeIP : Bool := true
  schedule : Schedule := {}

namespace WalkState

variable (state : WalkState)

def tick (looks : Nat) : WalkState := { state with now := state.now + looks }

def note (event : RaceEvent) : WalkState := { state with events := state.events ++ [event] }

def next : WalkState := { state with ruleIndex := state.ruleIndex + 1 }

def anonymousResponse : Option DnsMessage :=
  (state.anonymousFuture.bind fun future => state.futures[future]?).bind fun future => future.view state.now

/-- The futures that a rule binds, in the order in which they are looked at. -/
def bindings (rule : Rule) : List Nat :=
  (rule.matchResponseTags.filterMap fun tag => state.namedFutures.lookup tag) ++
    if rule.matchResponseAnonymous then state.anonymousFuture.toList else []

end WalkState

/-- The first of the futures that is not resolved when it is looked at. -/
def firstUnresolved (futures : List Future) : Nat → List Nat → Option Nat
  | _, [] => none
  | now, future :: rest =>
    if futures[future]?.all fun found => found.resolved now then firstUnresolved futures (now + 1) rest else some future

def unresolvedAmong (futures : List Future) : Nat → List Nat → List Nat
  | _, [] => []
  | now, future :: rest =>
    if futures[future]?.all fun found => found.resolved now then unresolvedAmong futures (now + 1) rest
    else future :: unresolvedAmong futures (now + 1) rest

/-! ## Settling -/

/-- `namedResponses` and `namedTransports`. A nil response reads like none. -/
structure NamedAnswers where
  responses : List (String × DnsMessage)
  transports : List (String × String)

def NamedAnswers.record (answers : NamedAnswers) (now : Nat) (future : Future) : NamedAnswers :=
  if future.tag = "" then answers
  else {
    responses := assign answers.responses future.tag (future.view now)
    transports := assign answers.transports future.tag (some future.transport) }

/-- The loop of `settleDNSFutures`. -/
def settleFrom : Nat → List Future → NamedAnswers → List Future × NamedAnswers
  | _, [], answers => ([], answers)
  | now, future :: futures, answers =>
    if future.settled || !future.resolved now then
      let (futures, answers) := settleFrom (now + 1) futures answers
      (future :: futures, answers)
    else
      let (futures, answers) := settleFrom (now + 1) futures (answers.record now future)
      ({ future with settled := true } :: futures, answers)

variable (state : WalkState)

def settleDNSFutures : WalkState :=
  let (futures, answers) := settleFrom state.now state.futures ⟨state.namedResponses, state.namedTransports⟩
  { state with
    futures
    namedResponses := answers.responses
    namedTransports := answers.transports
    now := state.now + state.futures.length }

def errCanceled : String := "context canceled"

/-- What cancelling its context makes of a future. -/
def Future.cancel (future : Future) : Future := { future with answer := { err := some errCanceled } }

variable (waited : Option Nat)

/-- The future runs, and is not the one that is still waited for. -/
def WalkState.cancels (index : Nat) (future : Future) : Bool :=
  !future.resolved state.now && waited != some index

/-- `cancelDNSFutures`, but for the future that is still waited for. -/
def cancelDNSFutures : WalkState :=
  { state with
    futures := state.futures.mapIdx fun index future =>
      if state.cancels waited index future then future.cancel else future
    canceled := state.canceled || (state.futures.mapIdx (state.cancels waited)).any id }

/-! ## Matching and final actions -/

namespace WalkContext

variable (context : WalkContext)

/-- The flag of a rule, at the time it is looked at. -/
def disabled (state : WalkState) (position : Nat) : Bool := context.schedule.disabled state.now position

variable (rule : DNSRule)

def ruleMatches (state : WalkState) (rule : DNSRule) (response : Option DnsMessage) : Bool :=
  (rule.rule.match context.router.env { context.metadata.resetRuleCache with
    dnsResponse := response
    namedDNSResponses := state.namedResponses
    destinationAddressMatchFromResponse := false }).1

/-- `launchDNSEvaluate` for the rule at hand: the state, and the new future. -/
def launchDNSEvaluate (state : WalkState) (tag transport : String) (options : DNSQueryOptions) : WalkState × Nat :=
  ({ state with
    futures := state.futures ++ [{
      tag, transport
      completes := max state.now (context.schedule.completes state.launched)
      answer := context.router.exchange {
        position := state.ruleIndex, transport, options := context.router.finalizeExchangeOptions options } }]
    launched := state.launched + 1 }, state.futures.length)

/-- How a rule, or the end of the rules, ends the walk. -/
inductive Commit where
  | result (result : ExchangeResult)
  | pending (exchange : PendingExchange)

/-! ## Armed rules -/

/-- What `respond` of an armed rule gives. -/
def respondArmed (armed : ArmedRule) : ExchangeResult :=
  let anonymous := (armed.anonymousFuture <|> state.anonymousFuture).bind fun future => state.futures[future]?
  if armed.rule.rule.matchResponseTag ≠ "" then
    respondResult armed.ruleIndex armed.options (state.namedResponses.lookup armed.rule.rule.matchResponseTag)
      (state.namedTransports.lookup armed.rule.rule.matchResponseTag)
  else respondResult armed.ruleIndex armed.options (anonymous.bind fun future => future.view state.now)
    (anonymous.map Future.transport)

/-- An armed rule whose futures are resolved. -/
def judgeArmed (state : WalkState) (armed : ArmedRule) : Option Commit :=
  let response := if armed.bindsAnonymous then
      (armed.anonymousFuture.bind fun future => state.futures[future]?).bind fun future => future.view state.now
    else state.anonymousResponse
  if context.ruleMatches state armed.rule response then
    match armed.rule.action with
    | .respond => some (.result (respondArmed state armed))
    | .route server _ routeOptions =>
      (context.router.resolveDNSRoute context.allowFakeIP server routeOptions armed.options).map fun options =>
        .pending { transport := server, options, rule := some armed.ruleIndex }
    | .reject rcode method => some (.result (context.router.rejectResult armed.ruleIndex armed.options rcode method))
    | .predefined response =>
      some (.result (context.router.predefinedResult armed.ruleIndex armed.options response))
    | .evaluate _ _ _ _ | .routeOptions _ => none
  else none

/-- The loop of `sweepArmedDNSRules`: the rules kept so far, and those still to look at. -/
def sweepFrom (kept : List ArmedRule) : List ArmedRule → WalkState → Option Commit × WalkState
  | [], state => (none, { state with armedRules := kept })
  | armed :: rest, state =>
    let unresolved := firstUnresolved state.futures state.now armed.futures
    let state := state.tick (armed.futures.length + 1)
    if unresolved.isSome then sweepFrom (kept ++ [armed]) rest state
    else if context.disabled state armed.ruleIndex then sweepFrom kept rest (state.note (.dropped armed.ruleIndex))
    else match context.judgeArmed state armed with
      | none => sweepFrom kept rest (state.note (.judged armed.ruleIndex state.now))
      | some commit => (some commit, { state.note (.committed armed.ruleIndex) with armedRules := kept ++ rest })

def sweepArmedDNSRules (state : WalkState) : Option Commit × WalkState := context.sweepFrom [] state.armedRules state

/-- The rule at hand is armed, and looks at the futures it binds. -/
def armRule : WalkState :=
  let bound := state.bindings rule.rule
  { state with
    armedRules := state.armedRules ++ [{
      ruleIndex := state.ruleIndex
      rule
      futures := unresolvedAmong state.futures state.now bound
      anonymousFuture := if rule.rule.matchResponseAnonymous then state.anonymousFuture else none
      bindsAnonymous := rule.rule.matchResponseAnonymous
      options := state.effectiveOptions }]
    now := state.now + bound.length
    events := state.events ++ [.armed state.ruleIndex
      (bound.filterMap fun future => state.futures[future]?.map Future.completes)] }

/-! ## One rule -/

/-- How the examination of a rule ends. -/
inductive Outcome where
  | next (state : WalkState)
  | suspend (suspension : Suspension) (state : WalkState)
  | done (result : ExchangeResult) (state : WalkState)

/-- A final action waits for the armed rules. -/
def final (commit : Commit) : Outcome :=
  if state.armedRules ≠ [] then .suspend .drain state
  else match commit with
    | .result result => .done result (state.note (.final state.ruleIndex))
    | .pending exchange => .suspend (.pending exchange) (state.note (.final state.ruleIndex))

def evaluate (state : WalkState) (server tag : String) (speculative : Bool) (routeOptions : RuleActionDNSRouteOptions) :
    Outcome :=
  match context.router.transport server with
  | none => .next (if tag = "" then { state with anonymousFuture := none } else state).next
  | some _ =>
    if !speculative && state.armedRules ≠ [] then .suspend .drain state
    else
      let (state, future) :=
        context.launchDNSEvaluate state tag server (applyDNSRouteOptions state.effectiveOptions routeOptions)
      .next (if tag = "" then { state with anonymousFuture := some future }
        else { state with namedFutures := assign state.namedFutures tag (some future) }).next

def respond : Outcome :=
  let anonymous := state.anonymousFuture.bind fun future => state.futures[future]?
  if rule.rule.matchResponseTag ≠ "" then
    final state (.result (respondResult state.ruleIndex state.effectiveOptions
      (state.namedResponses.lookup rule.rule.matchResponseTag)
      (state.namedTransports.lookup rule.rule.matchResponseTag)))
  else
    -- Only armed rules are waited for before the response is.
    match state.anonymousFuture with
    | some future =>
      if state.armedRules = [] ∧ !rule.rule.hasBindings ∧ anonymous.any fun found => !found.resolved state.now then
        .suspend (.await future) state
      else final state (.result (respondResult state.ruleIndex state.effectiveOptions state.anonymousResponse
        (anonymous.map Future.transport)))
    | none => final state (.result (respondResult state.ruleIndex state.effectiveOptions none none))

def route (state : WalkState) (server : String) (speculative : Bool) (routeOptions : RuleActionDNSRouteOptions) :
    Outcome :=
  match context.router.resolveDNSRoute context.allowFakeIP server routeOptions state.effectiveOptions with
  | none => .next state.next
  | some options =>
    if state.armedRules ≠ [] then
      -- A speculative query is sent at once, and once.
      if speculative && state.terminal.isNone then
        let (state, future) := context.launchDNSEvaluate state "" server options
        .suspend .drain { state with terminal := some (future, state.ruleIndex) }
      else .suspend .drain state
    else match state.terminal with
      | some (future, index) =>
        if index = state.ruleIndex then
          final state (.pending {
            transport := (state.futures[future]?.map Future.transport).getD server
            options, future := some future, rule := some state.ruleIndex })
        else final state (.pending { transport := server, options, rule := some state.ruleIndex })
      | none => final state (.pending { transport := server, options, rule := some state.ruleIndex })

/-- The action of a rule that matched. -/
def act (state : WalkState) (rule : DNSRule) : Outcome :=
  match rule.action with
  | .routeOptions routeOptions =>
    .next { state with effectiveOptions := applyDNSRouteOptions state.effectiveOptions routeOptions }.next
  | .evaluate server tag speculative routeOptions => context.evaluate state server tag speculative routeOptions
  | .respond => respond state rule
  | .route server speculative routeOptions => context.route state server speculative routeOptions
  | .reject rcode method =>
    final state (.result (context.router.rejectResult state.ruleIndex state.effectiveOptions rcode method))
  | .predefined response =>
    final state (.result (context.router.predefinedResult state.ruleIndex state.effectiveOptions response))

def matchAndAct (state : WalkState) (rule : DNSRule) : Outcome :=
  if context.ruleMatches state rule state.anonymousResponse then context.act (state.tick 1) rule
  else .next (state.tick 1).next

def examineRace (state : WalkState) (rule : DNSRule) : Outcome :=
  let pending := unresolvedAmong state.futures state.now (state.bindings rule.rule)
  let state := armRule state rule
  if pending ≠ [] then .next state.next
  else match context.sweepArmedDNSRules state with
    | (some (.pending exchange), state) => .suspend (.pending exchange) { state with armedRules := [] }
    | (some (.result result), state) => .done result state
    | (none, state) => .next state.next

/-- One iteration of `walkDNSRules`. -/
def examine (state : WalkState) (rule : DNSRule) : Outcome :=
  if context.disabled state state.ruleIndex then .next (state.tick 1).next
  else if !rule.rule.hasBindings then context.matchAndAct (state.tick 1) rule
  else
    let state := settleDNSFutures (state.tick 1)
    if rule.race then context.examineRace state rule
    else
      let bound := state.bindings rule.rule
      match firstUnresolved state.futures state.now bound with
      | some future => .suspend (.await future) (state.tick bound.length)
      | none => context.matchAndAct (state.tick bound.length) rule

/-- `walkDNSRules` behind the last rule. -/
def endOfRules (state : WalkState) : Outcome :=
  final state (.pending { transport := context.router.defaultTransport, options := state.effectiveOptions })

/-! ## The exchange -/

/-- Where the exchange is: in the loop of `walkDNSRules`, in that of
`resumeExchangeWithRules`, behind the walk, or at its end. -/
inductive Control where
  | walking
  | suspended (suspension : Suspension)
  | ended (result : ExchangeResult)
  | finished (result : ExchangeResult)

structure Exchange where
  state : WalkState := {}
  /-- Inside `continueDNSRulesAfterFallthrough`. -/
  continued : Bool := false
  control : Control := .walking

variable (exchange : Exchange)

def outcome : Outcome → Exchange
  | .next state => { exchange with state, control := .walking }
  | .suspend suspension state => { exchange with state, control := .suspended suspension }
  | .done result state => { exchange with state := cancelDNSFutures state none, control := .ended result }

def finishPendingExchange (state : WalkState) (pending : PendingExchange) : Exchange :=
  let state := cancelDNSFutures state pending.future
  match pending.future.bind fun future => state.futures[future]? with
  | some future => { exchange with
      state := cancelDNSFutures { state with now := max state.now future.completes } none
      control := .ended (queryResult pending.transport pending.rule pending.options
        { future.answer with response := future.answer.view }) }
  | none => { exchange with
      state
      control := .ended (queryResult pending.transport pending.rule pending.options
        (context.router.exchange {
          position := pending.rule.getD context.rules.length, transport := pending.transport
          options := context.router.finalizeExchangeOptions pending.options })) }

/-- One iteration of `resumeExchangeWithRules`, up to the walk. Being woken for nothing is
the same as waiting a little longer. -/
def resume (suspension : Suspension) : Exchange :=
  match context.sweepArmedDNSRules (settleDNSFutures exchange.state) with
  | (some (.pending pending), state) => context.finishPendingExchange exchange state pending
  | (some (.result result), state) => outcome exchange (.done result state)
  | (none, state) =>
    let waits : Bool := match suspension with
      | .await future => state.futures[future]?.any fun found => !found.resolved state.now
      | .drain => state.armedRules ≠ []
      | .pending _ => false
    match suspension with
    | .pending pending => context.finishPendingExchange exchange state pending
    | _ => { exchange with
        state := state.tick 1
        control := if waits then .suspended suspension else .walking }

/-- `runDNSRulesFrom` and `continueDNSRulesAfterFallthrough` behind a walk: the first time
the walk starts afresh, with the options of the failed result. -/
def afterWalk (result : ExchangeResult) : Exchange :=
  let result := applyDNSFallback context.router context.metadata context.allowFakeIP context.rules result
  match fallsThrough context.rules result with
  | none => { exchange with control := .finished result }
  | some position =>
    if exchange.continued then
      { exchange with state := { exchange.state with ruleIndex := position + 1 }, control := .walking }
    else {
      state := {
        ruleIndex := position + 1
        effectiveOptions := result.options
        now := exchange.state.now
        launched := exchange.state.launched
        events := exchange.state.events }
      continued := true
      control := .walking }

def step : Exchange :=
  match exchange.control with
  | .walking =>
    match context.rules[exchange.state.ruleIndex]? with
    | some rule => outcome exchange (context.examine exchange.state rule)
    | none => outcome exchange (context.endOfRules exchange.state)
  | .suspended suspension => context.resume exchange suspension
  | .ended result => context.afterWalk exchange result
  | .finished _ => exchange

/-- `exchangeWithRules`. -/
def start (options : DNSQueryOptions) : Exchange where
  state := { effectiveOptions := options }

end WalkContext

end SingBox
