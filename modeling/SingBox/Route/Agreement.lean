import SingBox.Route.Essence

/-! # Pre-match decides where routing would decide

The two interpreters of the rule list are compared by a simulation. As long as nothing
happens of what only one of them does, `matchRule` comes to wherever `preMatch` comes,
with metadata of the same essence, and stops at the rule at which `preMatch` gives a
verdict (`Router.PreMatch_decides_where_matchRule_stops`).
-/

open List Option

namespace SingBox

open Lib.Walk InboundContext

/-! ## Outbounds that a flow cannot use -/

namespace Outbound

variable {balancing : Balancing} {metadata : InboundContext}

theorem selectPreMatchList_eq_map (depth : Nat) (outbounds : List Outbound) :
    selectPreMatchList balancing metadata depth outbounds =
      outbounds.map (selectPreMatchOutbound balancing metadata depth) := by
  induction outbounds with
  | nil => rfl
  | cons outbound outbounds ih => rw [selectPreMatchList, ih, map_cons]

theorem selectPreMatchOutbound_selector {group : Selector} {members : List Outbound} {depth : Nat}
    (unable : ∀ index outbound, group.selected = some index → members[index]? = some outbound →
      outbound.selectPreMatchOutbound balancing metadata (depth + 1) = none) :
    (Outbound.selector group members).selectPreMatchOutbound balancing metadata depth = none := by
  rw [selectPreMatchOutbound, selectPreMatchList_eq_map]
  split
  · rfl
  · cases isSelected : group.selected with
    | none => rfl
    | some index =>
      rw [bind_some, getElem?_map]
      cases isMember : members[index]? with
      | none => rfl
      | some outbound =>
        rw [map_some, unable index outbound isSelected isMember]
        rfl

theorem selectPreMatchOutbound_uncarried (session : metadata.network ≠ .icmp) (outbound : Outbound)
    (uncarried : outbound.member.networks.contains metadata.network = false) (depth : Nat) :
    outbound.selectPreMatchOutbound balancing metadata depth = none := by
  have both : ([.tcp, .udp] : List Network).contains metadata.network := by
    cases network : metadata.network with
    | tcp | udp => rfl
    | icmp => exact absurd network session
  induction outbound using Outbound.induction generalizing depth with
  | leaf outbound =>
    exact if_pos (.inr uncarried)
  | urlTest group members => exact absurd both (Bool.eq_false_iff.mp uncarried)
  | loadBalance group members => exact absurd both (Bool.eq_false_iff.mp uncarried)
  | selector group members ih =>
    rw [member] at uncarried
    unfold Selector.networks at uncarried
    split at uncarried
    · exact absurd both (Bool.eq_false_iff.mp uncarried)
    · apply selectPreMatchOutbound_selector
      intro index outbound isSelected isMember
      rw [isSelected, bind_some, memberList_eq_map, getElem?_map, isMember] at uncarried
      exact ih outbound (mem_of_getElem? isMember) uncarried (depth + 1)

theorem selectPreMatchOutbound_pass {outbound : Leaf} (isPass : outbound.isPass) (depth : Nat) :
    (Outbound.leaf outbound).selectPreMatchOutbound balancing metadata depth = none := by
  rw [selectPreMatchOutbound, Leaf.flowAction, outbound.passIsNoFlow isPass]
  exact ite_self none

theorem selectPreMatchOutbound_passes (session : metadata.network ≠ .icmp) {outbound : Outbound}
    (passes : outbound.passes metadata.network) (depth : Nat) :
    outbound.selectPreMatchOutbound balancing metadata depth = none := by
  cases outbound with
  | leaf outbound => exact selectPreMatchOutbound_pass passes depth
  | urlTest | loadBalance => cases passes
  | selector group members =>
    apply selectPreMatchOutbound_selector
    intro index outbound isSelected isMember
    by_cases delegates : metadata.network = .udp ∧ group.udpOutbound ≠ .unset ∧
        group.selectedSupportsUDP (memberList members) = false
    · -- UDP goes to the delegate because the selected member does not carry it
      obtain ⟨isUDP, -, unsupported⟩ := delegates
      rw [Selector.selectedSupportsUDP, isSelected, bind_some, memberList_eq_map, getElem?_map, isMember]
        at unsupported
      exact selectPreMatchOutbound_uncarried session outbound (isUDP ▸ unsupported) (depth + 1)
    · rw [Outbound.passes, Selector.Selected, if_neg delegates, isSelected, bind_some, isMember] at passes
      cases outbound with
      | leaf outbound => exact selectPreMatchOutbound_pass passes (depth + 1)
      | selector | urlTest | loadBalance => cases passes

end Outbound

/-! ## The simulation -/

/-- Where `matchRule` stands when `preMatch` stands before some rule: with metadata of
the same essence, and of a UDP session it has read the first packet or is about to. -/
structure Follows (cache : QUICSniffCache) (first : Packet) (before : PreMatchState) (state : MatchState) : Prop where
  alike : before.metadata.Alike state.metadata
  queries : state.queries = before.queries
  session : before.metadata.network ≠ .icmp
  packets : before.metadata.network = .udp → ∃ reads, state.input = .packets reads ∧
    (state.packetBuffers = [first] ∨ state.packetBuffers = [] ∧ ∃ rest, reads = .packet first :: rest)
  notWaiting : before.metadata.sniffError ≠ some .needMoreData
  unused : before.metadata.protocol = "" → state.quicSniffCache = cache

/-- What only a sniff action changes, of what the simulation needs. -/
structure SameSniff (metadata other : InboundContext) : Prop where
  network : metadata.network = other.network
  protocol : metadata.protocol = other.protocol
  sniffError : metadata.sniffError = other.sniffError

theorem Follows.update {cache : QUICSniffCache} {first : Packet} {before : PreMatchState} {state : MatchState}
    (follows : Follows cache first before state) {metadata metadata' : InboundContext} {queries queries' : Nat}
    (alike : metadata.Alike metadata') (same : SameSniff metadata before.metadata) (counted : queries' = queries) :
    Follows cache first { metadata, queries } { state with metadata := metadata', queries := queries' } where
  alike := alike
  queries := counted
  session := same.network ▸ follows.session
  packets isUDP := follows.packets (same.network ▸ isUDP)
  notWaiting := same.sniffError ▸ follows.notWaiting
  unused unnamed := follows.unused (same.protocol ▸ unnamed)

namespace Router

variable {router : Router} {cache : QUICSniffCache} {first : Packet} {before : PreMatchState} {state : MatchState}

/-! ### Sniffing -/

/-- A sniff action that does not show the packet to any sniffer. -/
def SniffsNothing (action : SniffAction) (metadata : InboundContext) : Prop :=
  sniffSkip metadata ∨ metadata.protocol ≠ "" ∨ (action.packetSniffers = [] ∧ action.streamSniffers ≠ []) ∨
    (metadata.snifferNames = action.snifferNames ∧ metadata.sniffError ≠ none)

/-- The metadata after the first packet was shown to the sniffers of an action. -/
def sniffed (router : Router) (action : SniffAction) (payload : List UInt8) (metadata : InboundContext) :
    InboundContext :=
  afterPeek router.sniffers action.packetKinds action.snifferNames payload metadata

variable {payload : List UInt8} {after : PreMatchState} {other : InboundContext}

variable {action : SniffAction} {stop : PreMatchStop} {metadata prepared : InboundContext}

theorem preMatchSniff_next (sess : before.metadata.network ≠ .icmp)
    (taken : router.preMatchSniff payload action before = .next after) :
    before.metadata.network = .udp ∧
      ((SniffsNothing action before.metadata ∧ after = before) ∨
        (¬SniffsNothing action before.metadata ∧
          after = { before with metadata := router.sniffed action payload before.metadata } ∧
          after.metadata.sniffError ≠ some .needMoreData)) := by
  unfold preMatchSniff at taken
  dsimp only at taken
  rw [if_neg sess] at taken
  split at taken
  · cases taken
  next carried =>
    have isUDP : before.metadata.network = .udp := by tauto
    refine ⟨isUDP, ?_⟩
    split at taken
    next skips =>
      cases taken
      refine .inl ⟨?_, rfl⟩
      simp only [Bool.or_eq_true, decide_eq_true_eq] at skips
      tauto
    next shows =>
      split at taken
      next unsuited =>
        cases taken
        exact .inl ⟨.inr (.inr (.inl unsuited)), rfl⟩
      next suited =>
        split at taken
        next failed =>
          cases taken
          exact .inl ⟨.inr (.inr (.inr failed)), rfl⟩
        next asks =>
          split at taken
          · cases taken
          next enough =>
            cases taken
            refine .inr ⟨?_, rfl, enough⟩
            simp only [Bool.or_eq_true, decide_eq_true_eq] at shows
            unfold SniffsNothing
            tauto

/-- A sniff action only ever stops for lack of data. -/
theorem preMatchSniff_halt (taken : router.preMatchSniff payload action before = .halt stop) :
    stop.result.action = .continue := by
  unfold preMatchSniff at taken
  dsimp only at taken
  split at taken
  · cases taken
  · split at taken
    · cases taken
      rfl
    · split at taken
      · cases taken
      · split at taken
        · cases taken
        · split at taken
          · cases taken
          · split at taken
            · cases taken
              rfl
            · cases taken

theorem sniffPacket_eq (notWaiting : metadata.sniffError ≠ some .needMoreData) :
    router.sniffPacket action metadata payload =
      (router.sniffed action payload metadata, (router.sniffed action payload metadata).sniffError) := by
  unfold sniffPacket
  dsimp only
  rw [if_neg fun waiting => notWaiting waiting.2]
  rfl

/-- How the sniffing of a packet that needs no other ends. -/
def endingOf (error : Option SniffError) : PacketsEnd := if error = none then .recognised else .unrecognised

/-- The first packet is shown to the sniffers, whether it was read before or is read now. -/
theorem actionSniffPackets_first {reads : List PacketRead}
    (held : state.packetBuffers = [first] ∨ state.packetBuffers = [] ∧ ∃ rest, reads = .packet first :: rest)
    (isInput : state.input = .packets reads) (notWaiting : state.metadata.sniffError ≠ some .needMoreData)
    (enough : (router.sniffed action first.payload state.metadata).sniffError ≠ some .needMoreData) :
    ∃ rest, router.actionSniffPackets action state reads = finishPackets
      { state with
        metadata := router.sniffed action first.payload state.metadata
        input := .packets rest
        packetBuffers := [first] }
      (endingOf (router.sniffed action first.payload state.metadata).sniffError) := by
  unfold actionSniffPackets
  rcases held with held | ⟨nothing, rest, rfl⟩
  · refine ⟨reads, ?_⟩
    rw [held, sniffHeld, sniffPacket_eq notWaiting]
    cases error : (router.sniffed action first.payload state.metadata).sniffError with
    | none => rw [← held, ← isInput]; rfl
    | some reason =>
      cases reason with
      | needMoreData => exact absurd error enough
      | failed => rw [← held, ← isInput]; rfl
  · refine ⟨rest, ?_⟩
    rw [nothing, sniffHeld]
    dsimp only
    rw [sniffReads, sniffPacket_eq notWaiting]
    cases error : (router.sniffed action first.payload state.metadata).sniffError with
    | none => rfl
    | some reason =>
      cases reason with
      | needMoreData => exact absurd error enough
      | failed => rfl

theorem recallQUIC_of_unknown (state : MatchState)
    (unknown : state.metadata.protocol = protocolQUIC → state.metadata.sniffHost = "" →
      state.quicSniffCache state.metadata.source state.metadata.destination = none) :
    ∃ quicSniffCache, recallQUIC state = { state with quicSniffCache } ∧
      (state.metadata.protocol = "" → quicSniffCache = state.quicSniffCache) := by
  unfold recallQUIC
  dsimp only
  split
  next isQUIC =>
    have named : state.metadata.protocol ≠ "" := by
      rw [isQUIC]
      decide
    split
    next => exact ⟨_, rfl, fun unnamed => absurd unnamed named⟩
    next hostless =>
      rw [unknown isQUIC (not_not.mp hostless)]
      exact ⟨_, rfl, fun _ => rfl⟩
  next => exact ⟨_, rfl, fun _ => rfl⟩

/-- A QUIC packet without a host, for which a host was sniffed earlier. -/
def Recalls (router : Router) (cache : QUICSniffCache) (payload : List UInt8) (action : SniffAction)
    (metadata : InboundContext) : Prop :=
  let sniffed := router.sniffed action payload metadata
  metadata.network = .udp ∧ ¬SniffsNothing action metadata ∧ sniffed.sniffError = none ∧
    sniffed.protocol = protocolQUIC ∧ sniffed.sniffHost = "" ∧
    cache metadata.source metadata.destination ≠ none

theorem SniffsNothing.congr (alike : metadata.Alike other) :
    SniffsNothing action metadata ↔ SniffsNothing action other := by
  unfold SniffsNothing
  rw [sniffSkip, sniffSkip, alike.destination, alike.protocol, alike.snifferNames, alike.sniffError]

section Input

variable {action : SniffAction} {reads : List PacketRead} (isInput : state.input = .packets reads)
include isInput

theorem actionSniff_nothing (notWaiting : state.metadata.sniffError ≠ some .needMoreData)
    (nothing : SniffsNothing action state.metadata) : router.actionSniff action state = (state, none) := by
  unfold actionSniff
  split
  · rfl
  next shows =>
    rw [isInput]
    simp only [Bool.or_eq_true, decide_eq_true_eq, sniffFailed, not_or, not_and] at shows
    have unsuited : action.packetSniffers = [] ∧ action.streamSniffers ≠ [] := by
      unfold SniffsNothing at nothing
      -- an error that is there and does not wait is a failure
      have failed : state.metadata.sniffError ≠ none → state.metadata.sniffError = some .failed := by
        intro present
        cases error : state.metadata.sniffError with
        | none => exact absurd error present
        | some reason =>
          cases reason with
          | needMoreData => exact absurd error notWaiting
          | failed => rfl
      tauto
    exact if_pos unsuited

theorem actionSniff_shows (shows : ¬SniffsNothing action state.metadata) :
    router.actionSniff action state = router.actionSniffPackets action state reads := by
  unfold SniffsNothing at shows
  push Not at shows
  obtain ⟨noSkip, noProtocol, suited, notFailed⟩ := shows
  unfold actionSniff
  rw [if_neg, isInput]
  · exact if_neg fun unsuited => unsuited.2 (suited unsuited.1)
  · simp only [Bool.or_eq_true, decide_eq_true_eq, sniffFailed, not_or, not_and]
    refine ⟨⟨noSkip, not_not.mpr noProtocol⟩, fun sameNames failed => ?_⟩
    rw [notFailed sameNames] at failed
    cases failed

end Input

theorem actionSniff_follows (follows : Follows cache first before state)
    (taken : router.preMatchSniff first.payload action before = .next after)
    (fresh : ¬router.Recalls cache first.payload action before.metadata) :
    ∃ after', router.actionSniff action state = (after', none) ∧ Follows cache first after after' := by
  obtain ⟨isUDP, nothing | shows⟩ := preMatchSniff_next follows.session taken
  all_goals
    obtain ⟨reads, isInput, held⟩ := follows.packets isUDP
    have notWaiting : state.metadata.sniffError ≠ some .needMoreData := by
      rw [← follows.alike.sniffError]
      exact follows.notWaiting
  · obtain ⟨nothing, rfl⟩ := nothing
    exact ⟨state, actionSniff_nothing isInput notWaiting ((SniffsNothing.congr follows.alike).mp nothing), follows⟩
  · obtain ⟨shows, rfl, enough⟩ := shows
    have alike : (router.sniffed action first.payload before.metadata).Alike
        (router.sniffed action first.payload state.metadata) := afterPeek_alike _ follows.alike
    have noProtocol : before.metadata.protocol = "" := by
      unfold SniffsNothing at shows
      tauto
    have enough' : (router.sniffed action first.payload state.metadata).sniffError ≠ some .needMoreData := by
      rw [← alike.sniffError]
      exact enough
    obtain ⟨rest, result⟩ := @actionSniffPackets_first router first state action reads held isInput notWaiting enough'
    rw [actionSniff_shows isInput ((SniffsNothing.congr follows.alike).not.mp shows), result]
    -- whichever way the sniffers answered, only the cache is left to be compared
    have follows' : ∀ quicSniffCache, ((router.sniffed action first.payload state.metadata).protocol = "" →
          quicSniffCache = state.quicSniffCache) →
        Follows cache first { before with metadata := router.sniffed action first.payload before.metadata }
          { state with
            metadata := router.sniffed action first.payload state.metadata
            input := .packets rest
            packetBuffers := [first]
            quicSniffCache } := by
      intro quicSniffCache unchanged
      refine ⟨alike, follows.queries, follows.session, fun _ => ⟨rest, rfl, .inl rfl⟩, enough, fun unnamed => ?_⟩
      rw [← follows.unused noProtocol]
      exact unchanged (alike.protocol ▸ unnamed)
    cases error : (router.sniffed action first.payload state.metadata).sniffError with
    | some reason => exact ⟨_, rfl, follows' state.quicSniffCache fun _ => rfl⟩
    | none =>
      obtain ⟨quicSniffCache, recalled, unchanged⟩ := recallQUIC_of_unknown { state with
        metadata := router.sniffed action first.payload state.metadata
        input := .packets rest
        packetBuffers := [first] } (by
          intro isQUIC hostless
          by_contra known
          refine fresh ⟨isUDP, shows, alike.sniffError.trans error, alike.protocol.trans isQUIC,
            alike.sniffHost.trans hostless, ?_⟩
          rw [← follows.unused noProtocol, follows.alike.source, follows.alike.destination]
          exact known)
      exact ⟨_, congrArg (·, none) recalled, follows' quicSniffCache unchanged⟩

/-! ### The other actions -/

theorem applyRouteOptionsOverride_sameSniff (metadata : InboundContext) (options : RouteOptions) :
    SameSniff (router.applyRouteOptionsOverride metadata options) metadata := by
  unfold applyRouteOptionsOverride
  split <;> split <;> split <;> exact ⟨rfl, rfl, rfl⟩

theorem actionSniffOverrideDestination_sameSniff (metadata : InboundContext) (ofPackets : Bool) :
    SameSniff (router.actionSniffOverrideDestination metadata ofPackets) metadata := by
  unfold actionSniffOverrideDestination
  split
  · split <;> exact ⟨rfl, rfl, rfl⟩
  · exact ⟨rfl, rfl, rfl⟩

theorem actionResolve_sameSniff {query : Nat} {after : InboundContext} {action : ResolveAction}
    (resolved : router.actionResolve query metadata action = some after) : SameSniff after metadata := by
  unfold actionResolve at resolved
  split at resolved
  · split at resolved
    · cases resolved
    · obtain ⟨addresses, -, rfl⟩ := map_eq_some_iff.mp resolved
      unfold withResolved
      split <;> split <;> try (split <;> try split)
      all_goals exact ⟨rfl, rfl, rfl⟩
  · cases resolved
    exact ⟨rfl, rfl, rfl⟩

/-- Nothing of what only one of the two interpreters does: `preMatch` keeps the addresses
that were resolved for an overridden destination, applies the overrides of a bypass
rule without outbound, and does not recall hosts of QUIC connections. -/
def RegularAction (router : Router) (cache : QUICSniffCache) (payload : List UInt8) (metadata : InboundContext) :
    RuleAction → Prop
  | .route _ options | .routeOptions options =>
    router.env.isValid options.overrideAddress → metadata.destinationAddresses = []
  | .bypass outbound options =>
    if outbound = "" then (router.applyRouteOptionsOverride metadata options).destination = metadata.destination
    else router.env.isValid options.overrideAddress → metadata.destinationAddresses = []
  | .sniff action => ¬router.Recalls cache payload action metadata
  | .sniffOverrideDestination | .resolve _ | .direct | .reject _ | .hijackDNS => True

theorem Recalls.of_alike (recalls : router.Recalls cache payload action metadata) (alike : metadata.Alike other) :
    router.Recalls cache payload action other := by
  have sniffedAlike : (router.sniffed action payload metadata).Alike (router.sniffed action payload other) :=
    afterPeek_alike _ alike
  obtain ⟨isUDP, shows, recognised, isQUIC, hostless, known⟩ := recalls
  refine ⟨alike.network ▸ isUDP, (SniffsNothing.congr alike).not.mp shows, sniffedAlike.sniffError ▸ recognised,
    sniffedAlike.protocol ▸ isQUIC, sniffedAlike.sniffHost ▸ hostless, ?_⟩
  rw [← alike.source, ← alike.destination]
  exact known

theorem RegularAction.of_alike {action : RuleAction}
    (regular : router.RegularAction cache payload metadata action) (alike : metadata.Alike other) :
    router.RegularAction cache payload other action := by
  cases action with
  | route | routeOptions =>
    intro overrides
    rw [← alike.destinationAddresses]
    exact regular overrides
  | bypass outbound options =>
    rw [RegularAction] at regular ⊢
    rw [← alike.destination, ← alike.destinationAddresses,
      ← (applyRouteOptionsOverride_alike options alike).destination]
    exact regular
  | sniff action => exact fun recalls => regular (recalls.of_alike alike.symm)
  | _ => trivial

theorem takeAction_follows (follows : Follows cache first before state) {action : RuleAction}
    {packetDest : Socksaddr} (regular : router.RegularAction cache first.payload before.metadata action)
    (taken : router.preMatchAction packetDest first.payload before action = .next after) :
    ∃ after', router.takeAction state action = .next after' ∧ Follows cache first after after' := by
  cases action with
  | route | bypass | reject | hijackDNS | direct => cases taken
  | routeOptions options =>
    cases taken
    exact ⟨_, rfl, follows.update (applyRouteOptions_alike follows.alike regular)
      (applyRouteOptionsOverride_sameSniff before.metadata options) follows.queries⟩
  | sniff action =>
    obtain ⟨after', result, followsAfter⟩ := actionSniff_follows follows taken regular
    refine ⟨after', ?_, followsAfter⟩
    rw [takeAction, result]
  | sniffOverrideDestination =>
    rw [preMatchAction] at taken
    rw [takeAction, ← follows.alike.sniffHost]
    by_cases unnamed : before.metadata.sniffHost = ""
    · rw [if_pos unnamed] at taken ⊢
      cases taken
      exact ⟨state, rfl, follows⟩
    · rw [if_neg unnamed] at taken ⊢
      cases taken
      exact ⟨_, rfl, follows.update (actionSniffOverrideDestination_alike state.input.ofPackets follows.alike)
        (actionSniffOverrideDestination_sameSniff before.metadata true) follows.queries⟩
  | resolve action =>
    rw [preMatchAction] at taken
    rw [takeAction, follows.queries]
    rcases @actionResolve_alike router _ _ before.queries action follows.alike with
      ⟨failed, -⟩ | ⟨metadata, metadata', resolved, resolved', alike⟩
    · rw [failed] at taken
      cases taken
    · rw [resolved] at taken
      rw [resolved']
      cases taken
      exact ⟨_, rfl, follows.update alike (actionResolve_sameSniff resolved) rfl⟩

/-- At this rule nothing happens that only one of the interpreters does. That includes
a disabled rule that matches, which `preMatch` does not pass over. -/
def Regular (router : Router) (cache : QUICSniffCache) (payload : List UInt8) (rule : RouteRule)
    (before : PreMatchState) : Prop :=
  (rule.rule.match router.env before.metadata.resetRuleCache).1 →
    rule.disabled = false ∧ router.RegularAction cache payload before.metadata rule.action

/-- No `preferred_by` item of the rule names a bridge. -/
def Unbridged (router : Router) (rule : RouteRule) : Prop := rule.rule.Leaves (DefaultRule.Unbridged router.env)

section Rules

variable {rule : RouteRule} {packetDest : Socksaddr}

theorem Follows.matched (follows : Follows cache first before state) :
    Follows cache first
      { before with metadata := (rule.rule.match router.env before.metadata.resetRuleCache).2 }
      { state with metadata := (rule.rule.match router.env state.metadata.resetRuleCache).2 } := by
  have here : (rule.rule.match router.env before.metadata.resetRuleCache).2.Alike before.metadata :=
    rule.rule.match_alike before.metadata
  have there : (rule.rule.match router.env state.metadata.resetRuleCache).2.Alike state.metadata :=
    rule.rule.match_alike state.metadata
  exact follows.update (here.trans (follows.alike.trans there.symm))
    ⟨here.network, here.protocol, here.sniffError⟩ follows.queries

theorem matchStep_follows (unbridged : router.Unbridged rule) (regular : router.Regular cache first.payload rule before)
    (follows : Follows cache first before state)
    (taken : router.preMatchStep packetDest first.payload rule before = .next after) :
    ∃ after', router.matchStep rule state = .next after' ∧ Follows cache first after after' := by
  have followsMatched := @Follows.matched router cache first before state rule follows
  have sameAnswer := rule.rule.matched_alike unbridged follows.alike
  rw [preMatchStep] at taken
  rw [matchStep]
  dsimp only at taken ⊢
  cases matched : (rule.rule.match router.env before.metadata.resetRuleCache).1 with
  | false =>
    rw [matched] at taken sameAnswer
    cases taken
    cases rule.disabled with
    | true =>
      have here : (rule.rule.match router.env before.metadata.resetRuleCache).2.Alike before.metadata :=
        rule.rule.match_alike before.metadata
      exact ⟨state, rfl, follows.update (here.trans follows.alike) ⟨here.network, here.protocol, here.sniffError⟩
        follows.queries⟩
    | false =>
      rw [← sameAnswer]
      exact ⟨_, rfl, followsMatched⟩
  | true =>
    obtain ⟨enabled, regularAction⟩ := regular matched
    rw [matched, if_pos rfl] at taken
    rw [← sameAnswer, matched, enabled, if_neg Bool.false_ne_true, if_pos rfl]
    exact takeAction_follows followsMatched (regularAction.of_alike (rule.rule.match_alike before.metadata).symm) taken

/-- The metadata that both interpreters must have come to. -/
structure Agrees (metadata other : InboundContext) : Prop where
  destination : metadata.destination = other.destination
  destinationAddresses : metadata.destinationAddresses = other.destinationAddresses
  protocol : metadata.protocol = other.protocol
  sniffHost : metadata.sniffHost = other.sniffHost

theorem Agrees.of_alike (alike : metadata.Alike other) : Agrees metadata other :=
  ⟨alike.destination, alike.destinationAddresses, alike.protocol, alike.sniffHost⟩

/-- The overrides of a rule that leave the destination leave everything that counts. -/
theorem applyRouteOptionsOverride_agrees {options : RouteOptions}
    (same : (router.applyRouteOptionsOverride metadata options).destination = metadata.destination) :
    Agrees (router.applyRouteOptionsOverride metadata options) metadata := by
  refine ⟨same, ?_, ?_, ?_⟩
  all_goals
    unfold applyRouteOptionsOverride
    split <;> split <;> split <;> rfl

theorem preMatchFlow_passes {queries : Nat} {outbound : String} (sess : metadata.network ≠ .icmp)
    (passes : (router.outbound outbound).any (Outbound.passes metadata.network)) :
    (router.preMatchFlow queries metadata packetDest outbound).action = .continue := by
  unfold preMatchFlow
  have tagged : outbound ≠ "" := by
    rintro rfl
    rw [router.outbound_empty] at passes
    cases passes
  rw [if_neg tagged]
  cases loaded : router.outbound outbound with
  | none => rfl
  | some target =>
    rw [loaded] at passes
    dsimp only
    rw [Outbound.selectPreMatchOutbound_passes sess passes]

/-- Where `preMatch` gives a verdict, `matchRule` stops, or it passes over a bypass rule
without outbound. -/
theorem takeAction_stops (follows : Follows cache first before state) {action : RuleAction}
    (regular : router.RegularAction cache first.payload before.metadata action)
    (taken : router.preMatchAction packetDest first.payload before action = .halt stop)
    (final : stop.result.action ≠ .continue) :
    (∃ options, action = .bypass "" options ∧ router.takeAction state action = .next state ∧
        Agrees stop.metadata state.metadata) ∨
      ∃ stop', router.takeAction state action = .halt stop' ∧ Agrees stop.metadata stop'.state.metadata := by
  have agrees := Agrees.of_alike follows.alike
  cases action with
  | routeOptions => cases taken
  | direct =>
    cases taken
    exact absurd rfl final
  | reject =>
    cases taken
    exact .inr ⟨_, rfl, agrees⟩
  | hijackDNS =>
    cases taken
    exact .inr ⟨_, rfl, agrees⟩
  | route outbound options =>
    cases taken
    rw [takeAction, if_neg]
    · exact .inr ⟨_, rfl, .of_alike (applyRouteOptions_alike follows.alike regular)⟩
    · intro passes
      have frame := router.applyRouteOptionsOverride_sameSniff before.metadata options
      refine final (preMatchFlow_passes (frame.network ▸ follows.session) ?_)
      rw [frame.network, follows.alike.network]
      exact passes
  | bypass outbound options =>
    cases taken
    rw [RegularAction] at regular
    rw [takeAction]
    by_cases untagged : outbound = ""
    · subst untagged
      have kept := applyRouteOptionsOverride_agrees regular
      exact .inl ⟨options, rfl, rfl, kept.destination.trans agrees.destination,
        kept.destinationAddresses.trans agrees.destinationAddresses, kept.protocol.trans agrees.protocol,
        kept.sniffHost.trans agrees.sniffHost⟩
    · rw [if_neg untagged] at regular ⊢
      exact .inr ⟨_, rfl, .of_alike (applyRouteOptions_alike follows.alike regular)⟩
  | sniffOverrideDestination =>
    rw [preMatchAction] at taken
    split at taken <;> cases taken
  | sniff action =>
    exact absurd (preMatchSniff_halt taken) final
  | resolve action =>
    rw [preMatchAction] at taken
    rw [takeAction, follows.queries]
    rcases @actionResolve_alike router _ _ before.queries action follows.alike with
      ⟨failed, failed'⟩ | ⟨metadata, metadata', resolved, -, -⟩
    · rw [failed] at taken
      rw [failed']
      cases taken
      exact .inr ⟨_, rfl, agrees⟩
    · rw [resolved] at taken
      cases taken

theorem matchStep_stops (unbridged : router.Unbridged rule) (regular : router.Regular cache first.payload rule before)
    (follows : Follows cache first before state)
    (taken : router.preMatchStep packetDest first.payload rule before = .halt stop)
    (final : stop.result.action ≠ .continue) :
    (∃ options after', rule.action = .bypass "" options ∧ router.matchStep rule state = .next after' ∧
        Agrees stop.metadata after'.metadata) ∨
      ∃ stop', router.matchStep rule state = .halt stop' ∧ Agrees stop.metadata stop'.state.metadata := by
  have followsMatched := @Follows.matched router cache first before state rule follows
  have sameAnswer := rule.rule.matched_alike unbridged follows.alike
  rw [preMatchStep] at taken
  dsimp only at taken
  cases matched : (rule.rule.match router.env before.metadata.resetRuleCache).1 with
  | false =>
    rw [matched] at taken
    cases taken
  | true =>
    obtain ⟨enabled, regularAction⟩ := regular matched
    rw [matched, if_pos rfl] at taken
    rw [matchStep]
    dsimp only
    rw [← sameAnswer, matched, enabled, if_neg Bool.false_ne_true, if_pos rfl]
    rcases takeAction_stops followsMatched (regularAction.of_alike (rule.rule.match_alike before.metadata).symm) taken
      final with ⟨options, isBypass, goesOn, agrees⟩ | stops
    · exact .inl ⟨options, _, isBypass, goesOn, agrees⟩
    · exact .inr stops

end Rules

/-! ## Whole runs -/

/-- What is routed: a stream, or a packet connection that begins with the first packet. -/
def BeginsWith (network : Network) (first : Packet) : Input → Prop
  | .stream _ => network = .tcp
  | .packets reads => network = .udp ∧ ∃ rest, reads = .packet first :: rest

/-- `matchRule` stops at the position, the end of the list being one, in the state. -/
def StopsAt (router : Router) (start : MatchState) (position : Nat) (reached : MatchState) : Prop :=
  (∃ fatalErr, router.matchRule start = some (.halted position ⟨reached, fatalErr⟩)) ∨
    position = router.rules.length ∧ router.matchRule start = some (.ended reached)

/-- At the position there is a bypass rule without outbound, which `matchRule` leaves in
the state. -/
def PassesOver (router : Router) (start : MatchState) (position : Nat) (reached : MatchState) : Prop :=
  ∃ rule options prepared, router.rules[position]? = some rule ∧ rule.action = .bypass "" options ∧
    router.prepareMatchMetadata start.metadata = some prepared ∧
    comesTo router.matchStep router.rules (position + 1) { start with metadata := prepared } = some reached

/-- Up to the rule at a position, nothing happens that only one of the interpreters does. -/
def RegularUntil (router : Router) (cache : QUICSniffCache) (metadata : InboundContext) (payload : List UInt8)
    (position : Nat) : Prop :=
  ∀ prepared, router.prepareMatchMetadata (markPreMatch metadata) = some prepared →
    MeetsUntil (router.preMatchStep metadata.destination payload) (router.Regular cache payload) router.rules
      (position + 1) { metadata := prepared }

section
variable (prepares : router.prepareMatchMetadata metadata = some prepared)
include prepares

theorem prepareMatchMetadata_sameSniff : SameSniff prepared metadata := by
  have searched : SameSniff (router.searchProcessInfo metadata) metadata := by
    unfold searchProcessInfo
    split
    · exact ⟨rfl, rfl, rfl⟩
    · split <;> exact ⟨rfl, rfl, rfl⟩
  have neighbored : SameSniff (router.searchNeighbor (router.searchProcessInfo metadata)) metadata := by
    unfold searchNeighbor
    split
    · split <;> exact { searched with }
    · exact searched
  obtain ⟨restored, restores, rfl⟩ := map_eq_some_iff.mp prepares
  have same : SameSniff restored metadata := by
    unfold restoreDomain at restores
    split at restores
    · split at restores
      · cases restores
      · cases restores
        split
        · exact neighbored
        · exact { neighbored with }
    · split at restores
      · split at restores
        · cases restores
          exact neighbored
        · cases restores
          exact { neighbored with }
      · cases restores
        exact neighbored
  unfold setIPVersion
  split
  · exact ⟨same.network, same.protocol, same.sniffError⟩
  · split
    · exact ⟨same.network, same.protocol, same.sniffError⟩
    · exact same

theorem follows_start {input : Input}
    (begins : BeginsWith metadata.network first input) (fresh : metadata.sniffError ≠ some .needMoreData) :
    Follows cache first { metadata := markPreMatch prepared }
      { metadata := prepared, input, quicSniffCache := cache } := by
  have same := prepareMatchMetadata_sameSniff prepares
  refine ⟨markPreMatch_alike prepared, rfl, ?_, ?_, ?_, fun _ => rfl⟩
  · change prepared.network ≠ .icmp
    rw [same.network]
    cases input with
    | stream reads => rw [begins]; decide
    | packets reads => rw [begins.1]; decide
  · intro isUDP
    change prepared.network = .udp at isUDP
    rw [same.network] at isUDP
    cases input with
    | stream reads => rw [isUDP] at begins; cases begins
    | packets reads => exact ⟨reads, rfl, .inr ⟨rfl, begins.2⟩⟩
  · change prepared.sniffError ≠ _
    rw [same.sniffError]
    exact fresh

end

/-- A verdict of `preMatch` other than to continue falls at the rule, or behind the last
one, at which `matchRule` stops, which is given the same metadata and reads the same
first packet; only a bypass rule without outbound does `matchRule` pass over. -/
theorem PreMatch_decides_where_matchRule_stops (router : Router) (cache : QUICSniffCache) (metadata : InboundContext)
    (first : Packet) (input : Input) (verdict : PreMatchVerdict)
    (unbridged : ∀ rule ∈ router.rules, router.Unbridged rule) (begins : BeginsWith metadata.network first input)
    (fresh : metadata.sniffError ≠ some .needMoreData)
    (judged : router.PreMatch metadata first.payload = some verdict) (final : verdict.result.action ≠ .continue)
    (regular : router.RegularUntil cache metadata first.payload verdict.position) :
    let start : MatchState := { metadata, input, quicSniffCache := cache }
    ∃ reached, Agrees verdict.metadata reached.metadata ∧
      (router.StopsAt start verdict.position reached ∨ router.PassesOver start verdict.position reached) := by
  intro start
  obtain ⟨ending, runs, isVerdict⟩ := map_eq_some_iff.mp judged
  obtain ⟨marked, preparesMarked, walks⟩ := map_eq_some_iff.mp runs
  have unmarked := preparesMarked
  change router.prepareMatchMetadata (markPreMatch metadata) = some marked at preparesMarked unmarked
  rw [prepareMatchMetadata_markPreMatch] at unmarked
  obtain ⟨prepared, prepares, rfl⟩ := map_eq_some_iff.mp unmarked
  have meets := regular _ preparesMarked
  have routed : router.matchRule start = some (walk router.matchStep router.rules { start with metadata := prepared }) := by
    rw [matchRule, prepares]
    rfl
  -- `matchRule` comes to every position to which `preMatch` comes
  have comesToo : ∀ position before, position ≤ verdict.position →
      comesTo (router.preMatchStep metadata.destination first.payload) router.rules position
        { metadata := markPreMatch prepared } = some before →
      ∃ state, comesTo router.matchStep router.rules position { start with metadata := prepared } = some state ∧
        Follows cache first before state := by
    intro position before reaches comes
    have meetsBefore : MeetsUntil (router.preMatchStep metadata.destination first.payload)
        (fun rule before => router.Unbridged rule ∧ router.Regular cache first.payload rule before) router.rules position
        { metadata := markPreMatch prepared } := by
      intro earlier rule before isEarlier isRule comesEarlier
      exact ⟨unbridged rule (mem_of_getElem? isRule), meets earlier rule before (by omega) isRule comesEarlier⟩
    refine comesTo_simulated ?_ (follows_start prepares begins fresh) meetsBefore comes
    intro rule before state after condition follows taken
    exact matchStep_follows condition.1 condition.2 follows taken
  cases ending with
  | ended last =>
    cases isVerdict
    obtain ⟨state, comes, follows⟩ := comesToo _ last le_rfl (comesTo_of_ended walks)
    exact ⟨state, .of_alike follows.alike, .inl (.inr ⟨rfl, routed.trans (congrArg some (walkFrom_of_comesTo_length comes))⟩)⟩
  | halted position stop =>
    cases isVerdict
    obtain ⟨rule, before, isRule, comesBefore, halts⟩ := comesTo_of_halted walks
    obtain ⟨state, comes, follows⟩ := comesToo position before le_rfl comesBefore
    have regularHere := meets position rule before (Nat.lt_succ_self position) isRule comesBefore
    rcases matchStep_stops (unbridged rule (mem_of_getElem? isRule)) regularHere follows halts final with
      ⟨options, after, isBypass, goesOn, agrees⟩ | ⟨stop', halts', agrees⟩
    · exact ⟨after, agrees, .inr ⟨rule, options, prepared, isRule, isBypass, prepares, comesTo_succ comes isRule goesOn⟩⟩
    · have walks := congrArg some (walk_of_comesTo comes isRule halts')
      exact ⟨stop'.state, agrees, .inl (.inl ⟨stop'.fatalErr, routed.trans walks⟩)⟩

/-- A query for the name `a`. -/
def dnsQuery : List UInt8 := [0, 1, 1, 0, 0, 1, 0, 0, 0, 0, 0, 0, 1, 97, 0, 0, 1, 0, 1]

/-- Everything is sniffed, and DNS is hijacked. -/
def hijackingRouter : Router where
  sniffers.packet kind record payload :=
    if kind = .domainNameQuery ∧ payload = dnsQuery then ({ record with protocol := "dns" }, none)
    else (record, some .failed)
  rules := [
    { rule := .default {}, action := .sniff {} },
    { rule := .default { items := [.protocol ["dns"]] }, action := .hijackDNS }]
  defaultOutbound := .leaf { tag := "direct" }

def dnsServer : Socksaddr := .ofAddr (.v4 0x08080808) 53

theorem PreMatch_decides_where_matchRule_stops_hijacked :
    let metadata : InboundContext := { network := .udp, destination := dnsServer }
    let start : MatchState := { metadata, input := .packets [.packet ⟨dnsQuery, dnsServer, 0⟩] }
    ∃ verdict reached, hijackingRouter.PreMatch metadata dnsQuery = some verdict ∧
      verdict.result.action = .hijackDNS ∧ verdict.position = 1 ∧ Agrees verdict.metadata reached.metadata ∧
      (hijackingRouter.StopsAt start 1 reached ∨ hijackingRouter.PassesOver start 1 reached) := by
  intro metadata start
  have regular : ∀ position, hijackingRouter.RegularUntil (fun _ _ => none) metadata dnsQuery position := by
    intro position prepared _ earlier rule before _ isRule _ _
    rcases mem_pair.mp (mem_of_getElem? isRule) with rfl | rfl
    · exact ⟨rfl, fun recalls => recalls.2.2.2.2.2 rfl⟩
    · exact ⟨rfl, trivial⟩
  have unbridged : ∀ rule ∈ hijackingRouter.rules, hijackingRouter.Unbridged rule := by
    intro rule isRule
    rcases mem_pair.mp isRule with rfl | rfl
    · intro item isItem
      cases isItem
    · intro item isItem
      cases mem_singleton.mp isItem
      trivial
  have hijacked : (hijackingRouter.PreMatch metadata dnsQuery).map
      (fun verdict => (verdict.result.action, verdict.position)) = some (.hijackDNS, 1) := by decide +kernel
  obtain ⟨verdict, judged, isHijacked⟩ := map_eq_some_iff.mp hijacked
  obtain ⟨isHijack, isSecond⟩ := Prod.mk.inj isHijacked
  obtain ⟨reached, agrees, stops⟩ := PreMatch_decides_where_matchRule_stops hijackingRouter (fun _ _ => none) metadata
    ⟨dnsQuery, dnsServer, 0⟩ (.packets [.packet ⟨dnsQuery, dnsServer, 0⟩]) verdict unbridged ⟨rfl, [], rfl⟩ (by decide)
    judged (by rw [isHijack]; decide) (regular verdict.position)
  rw [isSecond] at stops
  exact ⟨verdict, reached, judged, isHijack, isSecond, agrees, stops⟩

/-- Everything that the bridge can carry goes to it. -/
def bridgingRouter : Router where
  env.preferredAddress tag _ preMatch _ := tag == "bridge" && preMatch
  rules := [
    { rule := .default { items := [.preferredBy ["bridge"] .asIs] }, action := .route "bridge" {} }]
  outbound tag := if tag = "bridge" then some (.leaf { tag, preMatchFlow := some fun _ _ => .flow }) else none
  defaultOutbound := .leaf { tag := "direct" }

/-- The rule that prefers a bridge decides in a pre-match, and is passed over when the
same connection is routed. -/
theorem bridge_only_before_connection :
    let metadata : InboundContext := { network := .udp, destination := dnsServer }
    let start : MatchState := { metadata, input := .packets [.packet ⟨dnsQuery, dnsServer, 0⟩] }
    (∃ verdict, bridgingRouter.PreMatch metadata dnsQuery = some verdict ∧ verdict.result.action = .flow ∧
        verdict.position = 0) ∧
      ¬∃ reached, bridgingRouter.StopsAt start 0 reached ∨ bridgingRouter.PassesOver start 0 reached := by
  intro metadata start
  have flows : (bridgingRouter.PreMatch metadata dnsQuery).map
      (fun verdict => (verdict.result.action, verdict.position)) = some (.flow, 0) := by decide +kernel
  obtain ⟨verdict, judged, isFlow⟩ := map_eq_some_iff.mp flows
  obtain ⟨isFlow, isFirst⟩ := Prod.mk.inj isFlow
  refine ⟨⟨verdict, judged, isFlow, isFirst⟩, ?_⟩
  have passesBy : ∃ last, bridgingRouter.matchRule start = some (.ended last) := ⟨_, rfl⟩
  obtain ⟨last, ends⟩ := passesBy
  rintro ⟨reached, (⟨fatalErr, stops⟩ | ⟨atEnd, -⟩) | ⟨rule, options, prepared, isRule, isBypass, -⟩⟩
  · rw [ends] at stops
    cases stops
  · exact absurd atEnd (by decide)
  · cases isRule
    cases isBypass

end Router

end SingBox
