import SingBox.Route.MatchRule

/-! # Matching a packet before there is a connection

`preMatch` is the second interpreter of the rule list. It is asked with the first packet
of a flow, and answers whether the flow can be forwarded, rejected or left alone as it is;
`PreMatchAction.continue` sends it on to be routed as a connection.
-/

namespace SingBox

open Lib.Walk

structure PreMatchResult where
  action : PreMatchAction
  outbound : Option Leaf := none
  destination : Option (Addr × UInt16) := none
  udpTimeout : Nat := 0

structure PreMatchState where
  metadata : InboundContext
  queries : Nat := 0

/-- The result and the metadata with which the rule was left. -/
structure PreMatchStop where
  metadata : InboundContext
  result : PreMatchResult

/-! ## Choosing an outbound -/

/-- `PreMatchFlow` of a `FlowOutbound`. -/
def Leaf.flowAction (outbound : Leaf) (network : Network) (destination : Option Addr) : Option PreMatchAction :=
  outbound.preMatchFlow.map fun answer => answer network destination

mutual
/-- `selectPreMatchOutbound`: the leaf that a flow would use and what it says to it.
A selector does not ask its UDP delegate here. -/
def Outbound.selectPreMatchOutbound (balancing : Balancing) (metadata : InboundContext) (depth : Nat) :
    Outbound → Option (Leaf × PreMatchAction)
  | .leaf outbound =>
    if depth > 8 ∨ outbound.networks.contains metadata.network = false then none
    else match outbound.flowAction metadata.network metadata.destination.addr with
      | none | some .continue => none
      | some action => some (outbound, action)
  | .selector group members =>
    if depth > 8 then none
    else group.selected.bind fun index =>
      (Outbound.selectPreMatchList balancing metadata (depth + 1) members)[index]?.join
  | .urlTest group members =>
    if depth > 8 then none
    else
      let network := if metadata.network = .icmp then .tcp else metadata.network
      ((group.latched network).or (group.select (Outbound.memberList members) network)).bind fun index =>
        (Outbound.selectPreMatchList balancing metadata (depth + 1) members)[index]?.join
  | .loadBalance group members =>
    if depth > 8 then none
    else
      let results := Outbound.selectPreMatchList balancing metadata (depth + 1) members
      let matcher := fun index => (results[index]?.join).isSome
      (group.UnwrapPreMatch (Outbound.memberList members) balancing metadata matcher).1.bind fun index =>
        results[index]?.join
def Outbound.selectPreMatchList (balancing : Balancing) (metadata : InboundContext) (depth : Nat) :
    List Outbound → List (Option (Leaf × PreMatchAction))
  | [] => []
  | outbound :: outbounds =>
    outbound.selectPreMatchOutbound balancing metadata depth ::
      Outbound.selectPreMatchList balancing metadata depth outbounds
end

def second : Nat := 1000000000

def portProtocols (port : UInt16) : Option String :=
  [(53, "dns"), (123, "ntp"), (3478, "stun"), (443, protocolQUIC)].lookup port

/-- `ProtocolTimeouts`; the zero duration for any other protocol. -/
def protocolTimeouts (protocol : String) : Nat :=
  ([("dns", 10 * second), ("ntp", 10 * second), ("stun", 10 * second), (protocolQUIC, 30 * second),
    ("dtls", 30 * second)].lookup protocol).getD 0

variable (metadata : InboundContext)

/-- The timeout of a UDP flow: that of a rule, or that of its protocol. -/
def flowUDPTimeout : Nat :=
  if metadata.network ≠ .udp then 0
  else if metadata.udpTimeout > 0 then metadata.udpTimeout
  else if metadata.protocol ≠ "" then protocolTimeouts metadata.protocol
  else ((portProtocols metadata.destination.port).map protocolTimeouts).getD 0

namespace Router

variable (router : Router) (queries : Nat)

/-- The addresses to which a flow with a domain could be sent; `none` is a failed lookup. -/
def flowAddresses (metadata : InboundContext) (outbound : Leaf) : Option (List Addr) :=
  if metadata.destinationAddresses ≠ [] then some metadata.destinationAddresses
  else match outbound.flowDomainResolveOptions with
    | none => some []
    | some options => router.lookup queries metadata.destination.fqdn options

/-- A domain is replaced by an address of the family that the packet was sent to. -/
def preMatchDomain (metadata : InboundContext) (packetDestination : Socksaddr) (outbound : Leaf) : PreMatchResult :=
  match router.flowAddresses queries metadata outbound with
  | none => { action := .reject }
  | some addresses =>
    match addresses.find? fun address => address.is4 == packetDestination.isIPv4 with
    | none => { action := .reject }
    | some newDestination =>
      match outbound.flowAction metadata.network newDestination with
      | none => { action := .continue }
      | some .flow =>
        { action := .flow, outbound, destination := (newDestination, metadata.destination.port)
          udpTimeout := flowUDPTimeout metadata }
      | some action => { action, outbound }

def preMatchFlow (metadata : InboundContext) (packetDestination : Socksaddr) (outboundTag : String) : PreMatchResult :=
  match if outboundTag = "" then some router.defaultOutbound else router.outbound outboundTag with
  | none => { action := .continue }
  | some outbound =>
    match outbound.selectPreMatchOutbound router.balancing metadata 0 with
    | none => { action := .continue }
    | some (outbound, .flow) =>
      if router.env.isDomain metadata.destination then
        if !metadata.fakeIP && !metadata.destOverride then { action := .continue }
        else router.preMatchDomain queries metadata packetDestination outbound
      else
        let destination := if metadata.destination = packetDestination then none
          else metadata.destination.addr.map fun addr => (addr, metadata.destination.port)
        { action := .flow, outbound, destination, udpTimeout := flowUDPTimeout metadata }
    | some (outbound, action) => { action, outbound }

/-! ## The interpreter -/

section Interpreter

variable (packetDestination : Socksaddr) (firstPacket : List UInt8)

/-- The sniff action. Once a sniff has failed, the same sniffers are not asked again. -/
def preMatchSniff (action : SniffAction) (state : PreMatchState) : Step PreMatchState PreMatchStop :=
  let metadata := state.metadata
  if metadata.network = .icmp then .next state
  else if metadata.network ≠ .udp ∨ firstPacket = [] then .halt ⟨metadata, { action := .continue }⟩
  else if sniffSkip metadata || metadata.protocol ≠ "" then .next state
  else if action.packetSniffers = [] ∧ action.streamSniffers ≠ [] then .next state
  else if metadata.snifferNames = action.snifferNames ∧ metadata.sniffError ≠ none then .next state
  else
    let (metadata, error) := PeekPacket router.sniffers action.packetKinds metadata firstPacket
    let metadata := { metadata with snifferNames := action.snifferNames, sniffError := error }
    if error = some .needMoreData then .halt ⟨metadata, { action := .continue }⟩
    else .next { state with metadata }

variable (state : PreMatchState)

/-- The bypass action, with the overrides of its own options applied. -/
def preMatchBypass (outbound : String) : PreMatchResult :=
  let metadata := state.metadata
  let redirected := router.env.isDomain metadata.destination ∨ metadata.destination ≠ packetDestination
  if outbound = "" then { action := if redirected then .continue else .bypass }
  else
    let result := router.preMatchFlow state.queries metadata packetDestination outbound
    if redirected then result
    else if result.action = .flow then { result with action := .bypass }
    else { action := .bypass }

def preMatchReject (action : RejectAction) : PreMatchResult :=
  match action.error with
  | none => { action := if metadata.network = .icmp then .continue else .reject }
  | some .drop => { action := .drop }
  | some .reset => { action := .reject }

def preMatchAction : RuleAction → Step PreMatchState PreMatchStop
  | .sniff action => router.preMatchSniff firstPacket action state
  | .sniffOverrideDestination =>
    if state.metadata.sniffHost = "" then .next state
    else .next { state with metadata := router.actionSniffOverrideDestination state.metadata true }
  | .routeOptions options => .next { state with metadata := router.applyRouteOptionsOverride state.metadata options }
  | .route outbound options =>
    let metadata := router.applyRouteOptionsOverride state.metadata options
    .halt ⟨metadata, router.preMatchFlow state.queries metadata packetDestination outbound⟩
  | .bypass outbound options =>
    let metadata := router.applyRouteOptionsOverride state.metadata options
    .halt ⟨metadata, router.preMatchBypass packetDestination { state with metadata } outbound⟩
  | .reject action => .halt ⟨state.metadata, preMatchReject state.metadata action⟩
  | .hijackDNS =>
    .halt ⟨state.metadata, { action := if state.metadata.network = .udp then .hijackDNS else .continue }⟩
  | .resolve action =>
    match router.actionResolve state.queries state.metadata action with
    | none => .halt ⟨state.metadata, { action := .reject }⟩
    | some metadata => .next { metadata, queries := state.queries + 1 }
  | .direct => .halt ⟨state.metadata, { action := .continue }⟩

def preMatchStep (rule : RouteRule) (state : PreMatchState) : Step PreMatchState PreMatchStop :=
  let (matched, metadata) := rule.rule.match router.env state.metadata.resetRuleCache
  if matched then router.preMatchAction packetDestination firstPacket { state with metadata } rule.action
  else .next { state with metadata }

end Interpreter

variable (firstPacket : List UInt8)

/-- The walk of `preMatch`. `none` is the error of `prepareMatchMetadata`. -/
def preMatch (metadata : InboundContext) (firstPacket : List UInt8) : Option (Ending PreMatchState PreMatchStop) :=
  (router.prepareMatchMetadata { metadata with preMatch := true }).map fun prepared =>
    walk (router.preMatchStep metadata.destination firstPacket) router.rules { metadata := prepared }

/-- The verdict, the position of the rule at which it fell and the metadata there. -/
structure PreMatchVerdict where
  position : Nat
  metadata : InboundContext
  result : PreMatchResult

def PreMatch (metadata : InboundContext) (firstPacket : List UInt8) : Option PreMatchVerdict :=
  (router.preMatch metadata firstPacket).map fun
    | .halted position stop => ⟨position, stop.metadata, stop.result⟩
    | .ended state => ⟨router.rules.length, state.metadata,
        router.preMatchFlow state.queries state.metadata metadata.destination ""⟩

end Router

end SingBox
