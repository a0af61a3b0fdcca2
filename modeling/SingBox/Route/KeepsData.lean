import SingBox.Route.Handover

/-! # Sniffing and the data

A connection that is handed on must yield what the client has sent, although sniff actions
have read from it. Packets for an outbound are put back in the right order. Of a stream,
and of packets that are answered as DNS, several buffers come out in reverse, so that the
data are undisturbed if and only if there never are several
(`Router.handed_conn_undisturbed_iff`).
-/

open List Option

namespace SingBox

open Lib.Walk Lib.Stack PacketRead

namespace Router

variable (router : Router)

/-! ## What a step takes from the connection -/

/-- What a sniff action finds to read of a stream. -/
def sniffTakes (action : SniffAction) (state : MatchState) : List Octet :=
  match state.input with
  | .stream reads =>
    if sniffSkip state.metadata || state.metadata.protocol ≠ "" || sniffFailed action state.metadata then []
    else if action.streamSniffers = [] ∧ action.packetSniffers ≠ [] then []
    else (PeekStream router.sniffers action.streamKinds state.buffers reads state.metadata).buffer
  | .packets _ => []

variable (rule : RouteRule) (state : MatchState)

/-- The action of the rule, if it is enabled and matches, with the state in which it is
taken. -/
def taken : Option (RuleAction × MatchState) :=
  let (matched, metadata) := rule.rule.match router.env state.metadata.resetRuleCache
  if rule.disabled || !matched then none else some (rule.action, { state with metadata })

theorem matchStep_eq :
    (router.taken rule state = none ∧
        ∃ metadata, router.matchStep rule state = .next { state with metadata }) ∨
      ∃ metadata, router.taken rule state = some (rule.action, { state with metadata }) ∧
        router.matchStep rule state = router.takeAction { state with metadata } rule.action := by
  unfold taken matchStep
  dsimp only
  cases rule.disabled with
  | true => exact .inl ⟨rfl, state.metadata, rfl⟩
  | false =>
    cases (rule.rule.match router.env state.metadata.resetRuleCache).1 with
    | false => exact .inl ⟨rfl, _, rfl⟩
    | true => exact .inr ⟨_, rfl, rfl⟩

variable {router : Router} {rule : RouteRule} {state : MatchState}

/-- The state that a step leaves. -/
def stateAfter : Step MatchState MatchStop → MatchState
  | .next state => state
  | .halt stop => stop.state

/-- Nothing was taken from the connection. -/
structure SameData (state after : MatchState) : Prop where
  input : after.input = state.input
  buffers : after.buffers = state.buffers
  packetBuffers : after.packetBuffers = state.packetBuffers

theorem takeAction_sameData {action : RuleAction} (noSniff : ∀ sniff, action ≠ .sniff sniff) :
    SameData state (stateAfter (router.takeAction state action)) := by
  cases action with
  | sniff action => exact absurd rfl (noSniff action)
  | route | bypass | sniffOverrideDestination | resolve =>
    rw [takeAction]
    split <;> exact ⟨rfl, rfl, rfl⟩
  | routeOptions | direct | reject | hijackDNS => exact ⟨rfl, rfl, rfl⟩

/-! ### Streams -/

/-- The octets that a step takes from a stream. -/
def stepTakes (router : Router) (rule : RouteRule) (state : MatchState) : List Octet :=
  match router.taken rule state with
  | some (.sniff action, state) => router.sniffTakes action state
  | _ => []

/-- The octets taken from the front of the stream are kept in a buffer of their own. -/
structure TakesOctets (octets : List Octet) (state after : MatchState) : Prop where
  input : ∃ rest, after.input = .stream rest
  buffers : after.buffers = if octets = [] then state.buffers else state.buffers ++ [octets]
  sent : octets ++ after.input.octets = state.input.octets

variable {action : SniffAction} {after : MatchState} {reads : List StreamRead} {octets : List Octet}
  {cache : QUICSniffCache}

section
variable (isInput : state.input = .stream reads)
include isInput

theorem TakesOctets.nothing (same : SameData state after) : TakesOctets [] state after where
  input := ⟨reads, same.input.trans isInput⟩
  buffers := same.buffers
  sent := congrArg Input.octets same.input

theorem actionSniff_takes :
    ∃ after, router.actionSniff action state = (after, none) ∧
      TakesOctets (router.sniffTakes action state) state after := by
  unfold actionSniff sniffTakes
  rw [isInput]
  dsimp only
  split
  · exact ⟨state, rfl, .nothing isInput ⟨rfl, rfl, rfl⟩⟩
  · split
    · exact ⟨state, rfl, .nothing isInput ⟨rfl, rfl, rfl⟩⟩
    · refine ⟨_, rfl, ⟨_, rfl⟩, rfl, ?_⟩
      rw [isInput]
      have kept := peekStreamLoop_octets router.sniffers action.streamKinds state.buffers reads none [] state.metadata
      exact kept

theorem matchStep_takes :
    TakesOctets (router.stepTakes rule state) state (stateAfter (router.matchStep rule state)) ∧
      (router.stepTakes rule state ≠ [] → ∃ after, router.matchStep rule state = .next after) := by
  unfold stepTakes
  rcases router.matchStep_eq rule state with ⟨notTaken, metadata, goesOn⟩ | ⟨metadata, isTaken, acts⟩
  · rw [notTaken, goesOn]
    exact ⟨.nothing isInput ⟨rfl, rfl, rfl⟩, fun takes => absurd rfl takes⟩
  · rw [isTaken, acts]
    by_cases sniffs : ∃ action, rule.action = .sniff action
    · obtain ⟨action, isSniff⟩ := sniffs
      rw [isSniff, takeAction]
      obtain ⟨after, result, takes⟩ := @actionSniff_takes router { state with metadata } action reads isInput
      rw [result]
      exact ⟨⟨takes.input, takes.buffers, takes.sent⟩, fun _ => ⟨after, rfl⟩⟩
    · push Not at sniffs
      have same := @takeAction_sameData router { state with metadata } rule.action sniffs
      have takesNothing : (match some (rule.action, { state with metadata }) with
          | some (.sniff action, state) => router.sniffTakes action state
          | _ => []) = [] := by
        cases isAction : rule.action with
        | sniff action => exact absurd isAction (sniffs action)
        | _ => rfl
      rw [takesNothing]
      exact ⟨.nothing isInput ⟨same.input, same.buffers, same.packetBuffers⟩, fun takes => absurd rfl takes⟩

end

/-- What the steps taken so far keep of a stream: its octets in order, in buffers that
are not empty, and the reads to come. -/
structure KeepsOctets (sent : List Octet) (state : MatchState) : Prop where
  input : ∃ reads, state.input = .stream reads
  filled : ∀ buffer ∈ state.buffers, buffer ≠ []
  sent : state.buffers.flatten ++ state.input.octets = sent

variable {sent : List Octet} {network : Network} {handler : Handler} {start final : MatchState}

theorem KeepsOctets.step (keeps : KeepsOctets sent state)
    (takes : TakesOctets octets state after) : KeepsOctets sent after := by
  refine ⟨takes.input, ?_, ?_⟩
  · rw [takes.buffers]
    split
    · exact keeps.filled
    next filled =>
      intro buffer mem
      rcases mem_append.mp mem with mem | mem
      · exact keeps.filled buffer mem
      · rw [mem_singleton.mp mem]
        exact filled
  · rw [← keeps.sent, ← takes.sent, takes.buffers]
    split
    next nothing => rw [nothing, nil_append]
    next => rw [flatten_append, flatten_singleton, append_assoc]

theorem TakesOctets.length (takes : TakesOctets octets state after) :
    after.buffers.length = if octets = [] then state.buffers.length else state.buffers.length + 1 := by
  rw [takes.buffers]
  split
  · rfl
  · rw [length_append, length_singleton]

/-! ### Packets -/

/-- Packets are taken from the front of the connection and kept in order. -/
structure TakesPackets (state after : MatchState) : Prop where
  input : ∃ rest, after.input = .packets rest
  buffers : after.buffers = state.buffers
  sent : after.packetBuffers ++ after.input.packetList = state.packetBuffers ++ state.input.packetList

theorem TakesPackets.nothing {reads : List PacketRead} (isInput : state.input = .packets reads)
    (same : SameData state after) : TakesPackets state after where
  input := ⟨reads, same.input.trans isInput⟩
  buffers := same.buffers
  sent := by rw [same.packetBuffers, same.input]

theorem TakesPackets.trans {middle : MatchState} (takes : TakesPackets state middle) (same : SameData middle after) :
    TakesPackets state after where
  input := by
    rw [same.input]
    exact takes.input
  buffers := same.buffers.trans takes.buffers
  sent := by
    rw [same.packetBuffers, same.input]
    exact takes.sent

theorem sniffReads_packets (action : SniffAction) (reads : List PacketRead) (metadata : InboundContext)
    (packets : List Packet) :
    let sniffed := router.sniffReads action reads metadata packets
    sniffed.packetBuffers ++ PacketRead.packets sniffed.reads = packets ++ PacketRead.packets reads := by
  induction reads generalizing metadata packets with
  | nil => rfl
  | cons read reads ih =>
    cases read with
    | timeout | failed | canceled => rfl
    | packet sent =>
      have moved : packets ++ [sent] ++ PacketRead.packets reads =
          packets ++ PacketRead.packets (.packet sent :: reads) := by
        rw [append_assoc]
        rfl
      rw [← moved]
      dsimp only [sniffReads]
      split
      · exact ih _ _
      · rfl
      · rfl

theorem finishPackets_sameData (ending : PacketsEnd) : SameData state (finishPackets state ending).1 := by
  cases ending with
  | unrecognised | fatal => exact ⟨rfl, rfl, rfl⟩
  | recognised =>
    rw [finishPackets, recallQUIC]
    split
    · split
      · exact ⟨rfl, rfl, rfl⟩
      · split <;> exact ⟨rfl, rfl, rfl⟩
    · exact ⟨rfl, rfl, rfl⟩

theorem actionSniff_takesPackets {reads : List PacketRead} (isInput : state.input = .packets reads) :
    TakesPackets state (router.actionSniff action state).1 := by
  unfold actionSniff
  rw [isInput]
  dsimp only
  split
  · exact .nothing isInput ⟨rfl, rfl, rfl⟩
  · split
    · exact .nothing isInput ⟨rfl, rfl, rfl⟩
    · unfold actionSniffPackets
      split
      · refine TakesPackets.trans ?_ (finishPackets_sameData _)
        exact .nothing isInput ⟨rfl, rfl, rfl⟩
      next metadata _ =>
        refine TakesPackets.trans ?_ (finishPackets_sameData _)
        refine ⟨⟨_, rfl⟩, rfl, ?_⟩
        have kept := @sniffReads_packets router action reads metadata []
        dsimp only [Input.packetList] at kept ⊢
        rw [isInput, append_assoc, kept]
        rfl

theorem takeAction_sniff (action : SniffAction) :
    stateAfter (router.takeAction state (.sniff action)) = (router.actionSniff action state).1 := by
  rw [takeAction]
  rcases router.actionSniff action state with ⟨after, error⟩
  cases error <;> rfl

theorem matchStep_takesPackets {reads : List PacketRead} (isInput : state.input = .packets reads) :
    TakesPackets state (stateAfter (router.matchStep rule state)) := by
  rcases router.matchStep_eq rule state with ⟨-, metadata, goesOn⟩ | ⟨metadata, -, acts⟩
  · rw [goesOn]
    exact .nothing isInput ⟨rfl, rfl, rfl⟩
  · rw [acts]
    by_cases sniffs : ∃ action, rule.action = .sniff action
    · obtain ⟨action, isSniff⟩ := sniffs
      have takes := @actionSniff_takesPackets router { state with metadata } action reads isInput
      rw [isSniff, takeAction_sniff]
      exact ⟨takes.input, takes.buffers, takes.sent⟩
    · push Not at sniffs
      have same := @takeAction_sameData router { state with metadata } rule.action sniffs
      exact .nothing isInput ⟨same.input, same.buffers, same.packetBuffers⟩

/-! ## Whole runs -/

/-- Every step of `matchRule`, up to the one at which it stops, meets the condition. -/
def EveryStep (router : Router) (start : MatchState) (condition : RouteRule → MatchState → Prop) : Prop :=
  ∀ prepared, router.prepareMatchMetadata start.metadata = some prepared →
    ∀ position rule state, router.rules[position]? = some rule →
      comesTo router.matchStep router.rules position { start with metadata := prepared } = some state →
      condition rule state

/-- Every step from this state on meets the condition. -/
def StepsMeet (router : Router) (start : MatchState) (condition : RouteRule → MatchState → Prop) : Prop :=
  ∀ position rule state, router.rules[position]? = some rule →
    comesTo router.matchStep router.rules position start = some state → condition rule state

theorem everyStep_iff {prepared : InboundContext} (prepares : router.prepareMatchMetadata start.metadata = some prepared)
    (condition : RouteRule → MatchState → Prop) :
    router.EveryStep start condition ↔ router.StepsMeet { start with metadata := prepared } condition := by
  refine ⟨fun every => every prepared prepares, fun meets other isOther => ?_⟩
  obtain rfl : prepared = other := some.inj (prepares.symm.trans isOther)
  exact meets

/-- The state with which a connection is handed on: `matchRule` came to the end of the
list with it, or it was left by the rule that was selected. -/
def HandsOn (router : Router) (network : Network) (handler : Handler) (start final : MatchState) : Prop :=
  (comesTo router.matchStep router.rules router.rules.length start = some final ∧ handler ≠ .hijackDNS) ∨
    ∃ position rule before, router.rules[position]? = some rule ∧
      comesTo router.matchStep router.rules position start = some before ∧
      router.matchStep rule before = .halt ⟨final, none⟩ ∧ router.selectedHandler network rule = some handler

theorem outboundHandler_ne_hijackDNS {outbound : Option Outbound}
    (handled : outboundHandler network outbound = some handler) : handler ≠ .hijackDNS := by
  obtain ⟨destined, -, rfl⟩ := map_eq_some_iff.mp handled
  exact Handler.noConfusion

theorem handsOn_of_handlerOf
    (handled : (router.matchRule start).bind (router.handlerOf network) = some (handler, final)) :
    ∃ prepared, router.prepareMatchMetadata start.metadata = some prepared ∧
      router.HandsOn network handler { start with metadata := prepared } final := by
  obtain ⟨ending, matched, handled⟩ := bind_eq_some_iff.mp handled
  obtain ⟨prepared, prepares, walks⟩ := map_eq_some_iff.mp matched
  refine ⟨prepared, prepares, ?_⟩
  cases ending with
  | ended last =>
    obtain ⟨_, isHandler, same⟩ := map_eq_some_iff.mp handled
    cases same
    exact .inl ⟨comesTo_of_ended walks, outboundHandler_ne_hijackDNS isHandler⟩
  | halted position stop =>
    obtain ⟨rule, before, isRule, comes, halts⟩ := comesTo_of_halted walks
    rcases stop with ⟨state, fatalErr⟩
    cases fatalErr with
    | some error => cases handled
    | none =>
      obtain ⟨_, isHandler, same⟩ := map_eq_some_iff.mp handled
      cases same
      rw [isRule, bind_some] at isHandler
      exact .inr ⟨position, rule, before, isRule, comes, halts, isHandler⟩

/-- What every step preserves holds of the state with which the connection is handed on. -/
theorem HandsOn.invariant (handsOn : router.HandsOn network handler start final) {Invariant : MatchState → Prop}
    {condition : RouteRule → MatchState → Prop} (preserved : ∀ rule state, condition rule state → Invariant state →
      Invariant (stateAfter (router.matchStep rule state)))
    (meets : router.StepsMeet start condition) (initially : Invariant start) : Invariant final := by
  have alongTheWay : ∀ position state, comesTo router.matchStep router.rules position start = some state →
      Invariant state := by
    intro position state comes
    refine comesTo_invariant ?_ initially (fun earlier rule before _ => meets earlier rule before) comes
    intro rule before after holds invariant goesOn
    have further := preserved rule before holds invariant
    rwa [goesOn] at further
  rcases handsOn with ⟨comes, -⟩ | ⟨position, rule, before, isRule, comes, halts, -⟩
  · exact alongTheWay _ final comes
  · have further := preserved rule before (meets position rule before isRule comes) (alongTheWay position before comes)
    rwa [halts] at further

/-! ### Streams -/

/-- No sniff action finds more to read after an earlier one has kept something. -/
def SniffsOnce (router : Router) (rule : RouteRule) (state : MatchState) : Prop :=
  router.stepTakes rule state ≠ [] → state.buffers = []

theorem KeepsOctets.matchStep (keeps : KeepsOctets sent state) :
    KeepsOctets sent (stateAfter (router.matchStep rule state)) := by
  obtain ⟨reads, isInput⟩ := keeps.input
  exact keeps.step (matchStep_takes isInput).1

theorem KeepsOctets.comesTo {position : Nat} (keeps : KeepsOctets sent start)
    (comes : Lib.Walk.comesTo router.matchStep router.rules position start = some state) : KeepsOctets sent state := by
  refine comesTo_always ?_ keeps comes
  intro rule before after keeps goesOn
  have further : KeepsOctets sent (stateAfter (router.matchStep rule before)) := keeps.matchStep
  rwa [goesOn] at further

theorem buffers_grow (goesOn : router.matchStep rule state = .next after) :
    state.buffers.length ≤ after.buffers.length := by
  cases isInput : state.input with
  | stream reads =>
    have takes := (@matchStep_takes router rule state reads isInput).1
    rw [goesOn] at takes
    have length := takes.length
    dsimp only [stateAfter] at length
    split at length <;> omega
  | packets reads =>
    have takes := @matchStep_takesPackets router rule state reads isInput
    rw [goesOn] at takes
    exact (congrArg length takes.buffers).ge

section
variable (handsOn : router.HandsOn network handler start final)
include handsOn

/-- At most one buffer is kept if and only if no action reads after another one. -/
theorem HandsOn.one_buffer_iff (keeps : KeepsOctets sent start) (empty : start.buffers = []) :
    final.buffers.length ≤ 1 ↔ router.StepsMeet start router.SniffsOnce := by
  constructor
  · intro atMostOne position rule state isRule comes takes
    obtain ⟨reads, isInput⟩ := (KeepsOctets.comesTo keeps comes).input
    -- the step that reads goes on with one buffer more, and none is ever dropped
    obtain ⟨takesOctets, goesOn⟩ := @matchStep_takes router rule state reads isInput
    obtain ⟨after, goesOn⟩ := goesOn takes
    rw [goesOn] at takesOctets
    have length := takesOctets.length
    rw [if_neg takes] at length
    have comesAfter := comesTo_succ comes isRule goesOn
    have keptAtEnd : after.buffers.length ≤ final.buffers.length := by
      have growing := fun rule before after => @buffers_grow router rule before after
      rcases handsOn with ⟨comesToEnd, -⟩ | ⟨last, lastRule, before, isLast, comesLast, halts, -⟩
      · have inRange : position < router.rules.length := (List.getElem?_eq_some_iff.mp isRule).1
        exact comesTo_mono growing (by omega) comesAfter comesToEnd
      · have reached := comesTo_le_of_halt comesLast isLast halts comesAfter
        have untilLast := comesTo_mono growing reached comesAfter comesLast
        obtain ⟨lastReads, lastInput⟩ := (KeepsOctets.comesTo keeps comesLast).input
        have lastTakes := (@matchStep_takes router lastRule before lastReads lastInput).1.length
        rw [halts] at lastTakes
        dsimp only [stateAfter] at lastTakes
        split at lastTakes <;> omega
    exact length_eq_zero_iff.mp (by dsimp only [stateAfter] at length; omega)
  · intro once
    refine (@HandsOn.invariant router network handler start final handsOn
      (fun state => KeepsOctets sent state ∧ state.buffers.length ≤ 1) router.SniffsOnce ?_ once ⟨keeps, by simp [empty]⟩).2
    intro rule state sniffsOnce invariant
    obtain ⟨reads, isInput⟩ := invariant.1.input
    have takes := (@matchStep_takes router rule state reads isInput).1
    refine ⟨invariant.1.step takes, ?_⟩
    rw [takes.length]
    split
    · exact invariant.2
    next filled => rw [sniffsOnce filled, length_nil]

theorem HandsOn.keepsOctets (keeps : KeepsOctets sent start) : KeepsOctets sent final :=
  @HandsOn.invariant router network handler start final handsOn (KeepsOctets sent) (fun _ _ => True)
    (fun _ _ _ keeps => keeps.matchStep) (fun _ _ _ _ _ => trivial) keeps

end

/-! ### Packets -/

/-- The rule hijacks DNS. -/
def Hijacks (router : Router) (rule : RouteRule) (state : MatchState) : Prop :=
  (router.taken rule state).map Prod.fst = some .hijackDNS

/-- Of a packet connection that is hijacked at most one packet has been read. -/
def HijacksOne (router : Router) (rule : RouteRule) (state : MatchState) : Prop :=
  router.Hijacks rule state → state.packetBuffers.length ≤ 1

structure KeepsPackets (sent : List Packet) (state : MatchState) : Prop where
  input : ∃ reads, state.input = .packets reads
  sent : state.packetBuffers ++ state.input.packetList = sent

theorem KeepsPackets.matchStep {sent : List Packet} (keeps : KeepsPackets sent state) :
    KeepsPackets sent (stateAfter (router.matchStep rule state)) := by
  obtain ⟨reads, isInput⟩ := keeps.input
  have takes := @matchStep_takesPackets router rule state reads isInput
  exact ⟨takes.input, takes.sent.trans keeps.sent⟩

theorem matchStep_hijacks (hijacks : router.Hijacks rule state) :
    ∃ metadata, router.matchStep rule state = .halt ⟨{ state with metadata }, none⟩ ∧ rule.action = .hijackDNS := by
  unfold Hijacks at hijacks
  rcases router.matchStep_eq rule state with ⟨notTaken, -⟩ | ⟨metadata, isTaken, acts⟩
  · rw [notTaken] at hijacks
    cases hijacks
  · rw [isTaken, map_some, some.injEq] at hijacks
    have isHijack : rule.action = .hijackDNS := hijacks
    rw [acts, isHijack]
    exact ⟨metadata, rfl, rfl⟩

theorem hijacks_of_halt {stop : MatchStop} (halts : router.matchStep rule state = .halt stop)
    (isHijack : rule.action = .hijackDNS) : router.Hijacks rule state := by
  rcases router.matchStep_eq rule state with ⟨-, metadata, goesOn⟩ | ⟨metadata, isTaken, -⟩
  · rw [goesOn] at halts
    cases halts
  · rw [Hijacks, isTaken, map_some, isHijack]

section
variable {sent : List Packet} (handsOn : router.HandsOn network handler start final)
include handsOn

theorem HandsOn.keepsPackets (keeps : KeepsPackets sent start) : KeepsPackets sent final :=
  @HandsOn.invariant router network handler start final handsOn (KeepsPackets sent) (fun _ _ => True)
    (fun _ _ _ keeps => keeps.matchStep) (fun _ _ _ _ _ => trivial) keeps

/-- A hijacked connection is handed on by the rule that hijacks it, and by no other. -/
theorem HandsOn.of_hijacks {position : Nat} (isRule : router.rules[position]? = some rule)
    (comes : comesTo router.matchStep router.rules position start = some state)
    (hijacks : router.Hijacks rule state) : handler = .hijackDNS ∧ final.packetBuffers = state.packetBuffers := by
  obtain ⟨metadata, halts, isHijack⟩ := matchStep_hijacks hijacks
  rcases handsOn with ⟨comesToEnd, -⟩ | ⟨last, lastRule, before, isLast, comesLast, haltsLast, isHandler⟩
  · have beyond := comesTo_le_of_halt comes isRule halts comesToEnd
    have inRange : position < router.rules.length := (List.getElem?_eq_some_iff.mp isRule).1
    omega
  · obtain rfl : last = position :=
      Nat.le_antisymm (comesTo_le_of_halt comes isRule halts comesLast)
        (comesTo_le_of_halt comesLast isLast haltsLast comes)
    rw [isRule, some.injEq] at isLast
    rw [comes, some.injEq] at comesLast
    subst isLast comesLast
    rw [halts] at haltsLast
    cases haltsLast
    rw [selectedHandler, isHijack] at isHandler
    exact ⟨(some.inj isHandler).symm, rfl⟩

theorem HandsOn.hijacksOne_iff :
    (handler = .hijackDNS → final.packetBuffers.length ≤ 1) ↔ router.StepsMeet start router.HijacksOne := by
  constructor
  · intro atMostOne position rule state isRule comes hijacks
    obtain ⟨isHandler, same⟩ := handsOn.of_hijacks isRule comes hijacks
    rw [← same]
    exact atMostOne isHandler
  · rintro one rfl
    rcases id handsOn with ⟨-, other⟩ | ⟨position, rule, before, isRule, comes, halts, isHandler⟩
    · exact absurd rfl other
    · have isHijack : rule.action = .hijackDNS := by
        unfold selectedHandler at isHandler
        split at isHandler
        · exact absurd rfl (outboundHandler_ne_hijackDNS isHandler)
        · exact absurd rfl (outboundHandler_ne_hijackDNS isHandler)
        · assumption
        all_goals cases isHandler
      have hijacks := hijacks_of_halt halts isHijack
      rw [(handsOn.of_hijacks isRule comes hijacks).2]
      exact one position rule before isRule comes hijacks

end

/-! ## Connections handed on -/

theorem stackBackward_singles (packets rest : List Packet) :
    stackBackward (packets.map fun packet => [packet]) rest = packets ++ rest := by
  rw [stackBackward_eq]
  congr 1
  induction packets with
  | nil => rfl
  | cons packet packets ih =>
    rw [map_cons, flatten_cons, ih, singleton_append]

/-- The states in which the two start to match rules. -/
def streamStart (cache : QUICSniffCache) (metadata : InboundContext) (reads : List StreamRead) : MatchState :=
  { metadata := { metadata with network := .tcp }, input := .stream reads, quicSniffCache := cache }

def packetsStart (cache : QUICSniffCache) (metadata : InboundContext) (reads : List PacketRead) : MatchState :=
  { metadata := { metadata with network := .udp }, input := .packets reads, quicSniffCache := cache }

theorem routeConnection_iff {metadata : InboundContext} {handed : HandedConn} (distinct : (StreamRead.octets reads).Nodup)
    (routed : router.routeConnection cache metadata reads = some handed) :
    handed.conn = StreamRead.octets reads ↔
      isTunDNS metadata ∨ router.EveryStep (streamStart cache metadata reads) router.SniffsOnce := by
  unfold routeConnection at routed
  dsimp only at routed
  split at routed
  · cases routed
  · split at routed
    next isTun =>
      cases routed
      exact iff_of_true rfl (.inl isTun)
    next notTun =>
      obtain ⟨⟨handler, final⟩, handled, rfl⟩ := map_eq_some_iff.mp routed
      obtain ⟨prepared, prepares, handsOn⟩ :=
        @handsOn_of_handlerOf _ _ _ (streamStart cache metadata reads) _ handled
      have keeps : KeepsOctets (StreamRead.octets reads)
          { streamStart cache metadata reads with metadata := prepared } := ⟨⟨reads, rfl⟩, by simp [streamStart], rfl⟩
      have kept := handsOn.keepsOctets keeps
      rw [← kept.sent, stack_eq_iff kept.filled (kept.sent ▸ distinct), handsOn.one_buffer_iff keeps rfl,
        ← everyStep_iff prepares, or_iff_right (show ¬isTunDNS metadata from notTun)]

theorem routePacketConnection_iff {metadata : InboundContext} {reads : List PacketRead}
    {handed : HandedPacketConn} (distinct : (packets reads).Nodup)
    (routed : router.routePacketConnection cache metadata reads = some handed) :
    handed.read = (packets reads).map (rewriteReadDestination handed.nat) ↔
      isTunDNS metadata ∨ router.EveryStep (packetsStart cache metadata reads) router.HijacksOne := by
  unfold routePacketConnection at routed
  dsimp only at routed
  split at routed
  next isTun =>
    cases routed
    exact iff_of_true rfl (.inl isTun)
  next notTun =>
    obtain ⟨⟨handler, final⟩, handled, isHanded⟩ := map_eq_some_iff.mp routed
    obtain ⟨prepared, prepares, handsOn⟩ :=
      @handsOn_of_handlerOf _ _ _ (packetsStart cache metadata reads) _ handled
    have keeps : KeepsPackets (packets reads)
        { packetsStart cache metadata reads with metadata := prepared } := ⟨⟨reads, rfl⟩, rfl⟩
    have kept := handsOn.keepsPackets keeps
    rw [or_iff_right (show ¬isTunDNS metadata from notTun), everyStep_iff prepares, ← handsOn.hijacksOne_iff]
    cases handler with
    | outbound destined =>
      cases isHanded
      refine iff_of_true ?_ fun isHijack => Handler.noConfusion isHijack
      rw [HandedPacketConn.read, ← kept.sent]
      exact congrArg (map _) (stackBackward_singles final.packetBuffers final.input.packetList)
    | hijackDNS =>
      cases isHanded
      rw [← kept.sent] at distinct
      change (final.packetBuffers.reverse ++ final.input.packetList).map (rewriteReadDestination none) =
        (packets reads).map (rewriteReadDestination none) ↔ _
      rw [show rewriteReadDestination none = id from rfl, List.map_id, List.map_id, ← kept.sent, reverse_eq_iff distinct]
      exact ⟨fun one _ => one, fun one => one rfl⟩

/-- A connection that is handed on yields the client's octets from the first one on if and
only if no sniff action finds more to read after an earlier one has kept something. A
packet connection yields the client's packets, with their destinations as far as these
are not translated, if and only if it is not hijacked after several were read. -/
theorem handed_conn_undisturbed_iff (router : Router) (cache : QUICSniffCache) (metadata : InboundContext) :
    (∀ reads handed, (StreamRead.octets reads).Nodup → router.routeConnection cache metadata reads = some handed →
      (handed.conn = StreamRead.octets reads ↔
        isTunDNS metadata ∨ router.EveryStep (streamStart cache metadata reads) router.SniffsOnce)) ∧
    (∀ reads handed, (PacketRead.packets reads).Nodup →
      router.routePacketConnection cache metadata reads = some handed →
      (handed.read = (PacketRead.packets reads).map (rewriteReadDestination handed.nat) ↔
        isTunDNS metadata ∨ router.EveryStep (packetsStart cache metadata reads) router.HijacksOne)) :=
  ⟨fun _ _ distinct routed => routeConnection_iff distinct routed,
    fun _ _ distinct routed => routePacketConnection_iff distinct routed⟩

/-- Two sniff actions. What does not begin with `S` is not SSH, and what does not begin
with a 3 is not RDP. -/
def sniffingTwice : Router where
  rules := [
    { rule := .default {}, action := .sniff { snifferNames := ["ssh"], streamSniffers := [.ssh] } },
    { rule := .default {}, action := .sniff { snifferNames := ["rdp"], streamSniffers := [.rdp] } }]
  defaultOutbound := .leaf { tag := "direct" }

/-- A client that sends an `h`, and an `i` later. -/
def twoReads : List StreamRead := [.data [⟨104, 0⟩], .data [⟨105, 1⟩]]

/-- The outbound reads the second octet before the first. -/
theorem handed_conn_disturbed :
    (sniffingTwice.routeConnection (fun _ _ => none) {} twoReads).map HandedConn.conn = some [⟨105, 1⟩, ⟨104, 0⟩] ∧
      StreamRead.octets twoReads = [⟨104, 0⟩, ⟨105, 1⟩] := by
  decide +kernel

theorem handed_conn_undisturbed_iff_twice :
    ¬sniffingTwice.EveryStep (streamStart (fun _ _ => none) {} twoReads) sniffingTwice.SniffsOnce := by
  have routed : (sniffingTwice.routeConnection (fun _ _ => none) {} twoReads).map HandedConn.conn =
      some [⟨105, 1⟩, ⟨104, 0⟩] := by decide +kernel
  obtain ⟨handed, routed, isConn⟩ := map_eq_some_iff.mp routed
  intro once
  have undisturbed := ((handed_conn_undisturbed_iff sniffingTwice (fun _ _ => none) {}).1 twoReads handed (by decide)
    routed).mpr (.inr once)
  rw [isConn] at undisturbed
  exact absurd undisturbed (by decide)

end Router

end SingBox
