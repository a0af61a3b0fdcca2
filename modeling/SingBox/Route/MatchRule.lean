import SingBox.Lib.Walk
import SingBox.Route.Action

/-! # Matching a connection

`matchRule` takes the rules one after the other and applies the actions of those that
match, until one of them decides where the connection goes. Sniff actions read from the
connection on the way; what they have read is returned with the rule.
-/

namespace SingBox

open Lib.Walk

/-- The client's side of what is being routed, as the reads that are still to come. -/
inductive Input where
  | stream (reads : List StreamRead)
  | packets (reads : List PacketRead)

namespace Input

def ofPackets : Input → Bool
  | .stream _ => false
  | .packets _ => true

/-- What reading the connection will still yield. -/
def octets : Input → List Octet
  | .stream reads => StreamRead.octets reads
  | .packets _ => []

def packetList : Input → List Packet
  | .stream _ => []
  | .packets reads => PacketRead.packets reads

end Input

/-- Hosts that were sniffed from QUIC, by source and destination. -/
abbrev QUICSniffCache := Socksaddr → Socksaddr → Option String

def QUICSniffCache.store (cache : QUICSniffCache) (source destination : Socksaddr) (sniffHost : String) :
    QUICSniffCache :=
  fun otherSource otherDestination =>
    if otherSource = source ∧ otherDestination = destination then some sniffHost else cache otherSource otherDestination

structure MatchState where
  metadata : InboundContext
  input : Input
  buffers : List (List Octet) := []
  packetBuffers : List Packet := []
  quicSniffCache : QUICSniffCache := fun _ _ => none
  queries : Nat := 0

inductive MatchError where
  | canceled
  | read
  | resolve
deriving DecidableEq, Repr

structure MatchStop where
  state : MatchState
  fatalErr : Option MatchError

def defaultStreamSniffers : List StreamSniffer :=
  [.tlsClientHello, .httpHost, .streamDomainNameQuery, .bitTorrent, .ssh, .rdp]

def defaultPacketSniffers : List PacketSniffer :=
  [.domainNameQuery, .quicClientHello, .quicShortHeader, .stunMessage, .utp, .udpTracker, .dtlsRecord, .ntp]

namespace SniffAction

variable (action : SniffAction)

def streamKinds : List StreamSniffer :=
  if action.streamSniffers ≠ [] then action.streamSniffers else defaultStreamSniffers

def packetKinds : List PacketSniffer :=
  if action.packetSniffers ≠ [] then action.packetSniffers else defaultPacketSniffers

end SniffAction

def protocolQUIC : String := "quic"

/-- `RuleActionRoute` to the pass outbound, or to a selector that has selected it, is
passed over. A selector without a selection does not occur once it has started. -/
def Outbound.passes (network : Network) : Outbound → Bool
  | .leaf outbound => outbound.isPass
  | .selector group members =>
    match (group.Selected (Outbound.memberList members) network).bind (members[·]?) with
    | some (.leaf outbound) => outbound.isPass
    | _ => false
  | .urlTest _ _ | .loadBalance _ _ => false

namespace Router

variable (router : Router)

/-! ## Route options -/

/-- The destination before the first override. -/
def keepOriginalDestination (metadata : InboundContext) (options : RouteOptions) : InboundContext :=
  if (router.env.isValid options.overrideAddress || options.overridePort > 0) &&
      !router.env.isValid metadata.routeOriginalDestination then
    { metadata with routeOriginalDestination := metadata.destination }
  else metadata

/-- Addresses that were resolved for the old destination are dropped. -/
def dropAddresses (metadata : InboundContext) (options : RouteOptions) : InboundContext :=
  if router.env.isValid options.overrideAddress then { metadata with destinationAddresses := [] } else metadata

/-- The options for dialling. -/
def applyDialOptions (metadata : InboundContext) (options : RouteOptions) : InboundContext :=
  { metadata with
    networkStrategy := options.networkStrategy.or metadata.networkStrategy
    networkType := if options.networkType ≠ [] then options.networkType else metadata.networkType
    fallbackNetworkType :=
      if options.fallbackNetworkType ≠ [] then options.fallbackNetworkType else metadata.fallbackNetworkType
    fallbackDelay := if options.fallbackDelay ≠ 0 then options.fallbackDelay else metadata.fallbackDelay
    udpDisableDomainUnmapping := options.udpDisableDomainUnmapping || metadata.udpDisableDomainUnmapping
    udpConnect := options.udpConnect || metadata.udpConnect
    udpTimeout := if options.udpTimeout > 0 then options.udpTimeout else metadata.udpTimeout
    tlsFragment := options.tlsFragment || metadata.tlsFragment
    tlsFragmentFallbackDelay :=
      if options.tlsFragment then options.tlsFragmentFallbackDelay else metadata.tlsFragmentFallbackDelay
    tlsRecordFragment := options.tlsRecordFragment || metadata.tlsRecordFragment
    tlsSpoof := if options.tlsSpoof ≠ "" then options.tlsSpoof else metadata.tlsSpoof
    tlsSpoofMethod := if options.tlsSpoof ≠ "" then options.tlsSpoofMethod else metadata.tlsSpoofMethod }

/-- What `matchRule` does with the options of a rule. -/
def applyRouteOptions (metadata : InboundContext) (options : RouteOptions) : InboundContext :=
  let metadata := router.keepOriginalDestination metadata options
  let metadata := router.dropAddresses metadata options
  applyDialOptions (router.applyRouteOptionsOverride metadata options) options

/-! ## Sniffing -/

/-- How the sniffing of packets ends. -/
inductive PacketsEnd where
  | recognised
  | unrecognised
  | fatal (error : MatchError)
deriving DecidableEq, Repr

variable (action : SniffAction)

/-- One packet is shown to the sniffers: only to that for QUIC, when the packet before it
was the beginning of a client hello. -/
def sniffPacket (metadata : InboundContext) (payload : List UInt8) : InboundContext × Option SniffError :=
  let quicMoreData := metadata.snifferNames = action.snifferNames ∧ metadata.sniffError = some .needMoreData
  let kinds := if quicMoreData then [.quicClientHello] else action.packetKinds
  let (metadata, error) := PeekPacket router.sniffers kinds metadata payload
  ({ metadata with snifferNames := action.snifferNames, sniffError := error }, error)

/-- The packets that earlier actions have read. `none` when all of them need more. -/
def sniffHeld (action : SniffAction) : List Packet → InboundContext → InboundContext × Option PacketsEnd
  | [], metadata => (metadata, none)
  | held :: packets, metadata =>
    match router.sniffPacket action metadata held.payload with
    | (metadata, some .needMoreData) => sniffHeld action packets metadata
    | (metadata, some .failed) => (metadata, some .unrecognised)
    | (metadata, none) => (metadata, some .recognised)

/-- What reading packets comes to. -/
structure SniffedPackets where
  metadata : InboundContext
  ending : PacketsEnd
  packetBuffers : List Packet
  reads : List PacketRead

/-- New packets, as long as the sniffers need more. A connection from which nothing
comes any more runs into the deadline. -/
def sniffReads (action : SniffAction) : List PacketRead → InboundContext → List Packet → SniffedPackets
  | [], metadata, packets => ⟨metadata, .unrecognised, packets, []⟩
  | .timeout :: reads, metadata, packets => ⟨metadata, .unrecognised, packets, reads⟩
  | .failed :: reads, metadata, packets => ⟨metadata, .fatal .read, packets, reads⟩
  | .canceled :: reads, metadata, packets => ⟨metadata, .fatal .canceled, packets, reads⟩
  | .packet sent :: reads, metadata, packets =>
    match router.sniffPacket action metadata sent.payload with
    | (metadata, some .needMoreData) => sniffReads action reads metadata (packets ++ [sent])
    | (metadata, some .failed) => ⟨metadata, .unrecognised, packets ++ [sent], reads⟩
    | (metadata, none) => ⟨metadata, .recognised, packets ++ [sent], reads⟩

variable (state : MatchState)

/-- A host sniffed from QUIC is remembered, and a packet without one gets the host that
was remembered. -/
def recallQUIC : MatchState :=
  let metadata := state.metadata
  if metadata.protocol = protocolQUIC then
    if metadata.sniffHost ≠ "" then
      { state with
        quicSniffCache := state.quicSniffCache.store metadata.source metadata.destination metadata.sniffHost }
    else match state.quicSniffCache metadata.source metadata.destination with
      | none => state
      | some sniffHost => { state with metadata := { metadata with sniffHost } }
  else state

/-- The end of `actionSniff` for packets. -/
def finishPackets : PacketsEnd → MatchState × Option MatchError
  | .recognised => (recallQUIC state, none)
  | .unrecognised => (state, none)
  | .fatal error => (state, some error)

def actionSniffStream (reads : List StreamRead) : MatchState :=
  let peeked := PeekStream router.sniffers action.streamKinds state.buffers reads state.metadata
  { state with
    metadata := { peeked.metadata with snifferNames := action.snifferNames, sniffError := peeked.error }
    input := .stream peeked.reads
    buffers := if peeked.buffer = [] then state.buffers else state.buffers ++ [peeked.buffer] }

def actionSniffPackets (reads : List PacketRead) : MatchState × Option MatchError :=
  match router.sniffHeld action state.packetBuffers state.metadata with
  | (metadata, some ending) => finishPackets { state with metadata } ending
  | (metadata, none) =>
    let sniffed := router.sniffReads action reads metadata []
    finishPackets
      { state with
        metadata := sniffed.metadata
        input := .packets sniffed.reads
        packetBuffers := state.packetBuffers ++ sniffed.packetBuffers }
      sniffed.ending

/-- The same sniffers have failed already. -/
def sniffFailed (metadata : InboundContext) : Bool :=
  decide (metadata.snifferNames = action.snifferNames ∧ metadata.sniffError = some .failed)

def actionSniff : MatchState × Option MatchError :=
  if sniffSkip state.metadata || state.metadata.protocol ≠ "" || sniffFailed action state.metadata then (state, none)
  else match state.input with
    | .stream reads =>
      if action.streamSniffers = [] ∧ action.packetSniffers ≠ [] then (state, none)
      else (router.actionSniffStream action state reads, none)
    | .packets reads =>
      if action.packetSniffers = [] ∧ action.streamSniffers ≠ [] then (state, none)
      else router.actionSniffPackets action state reads

/-! ## The interpreter -/

def takeAction : RuleAction → Step MatchState MatchStop
  | .route outbound options =>
    if (router.outbound outbound).any (Outbound.passes state.metadata.network) then .next state
    else .halt ⟨{ state with metadata := router.applyRouteOptions state.metadata options }, none⟩
  | .routeOptions options => .next { state with metadata := router.applyRouteOptions state.metadata options }
  | .bypass outbound options =>
    if outbound = "" then .next state
    else .halt ⟨{ state with metadata := router.applyRouteOptions state.metadata options }, none⟩
  | .direct => .next state
  | .reject _ | .hijackDNS => .halt ⟨state, none⟩
  | .sniff action =>
    match router.actionSniff action state with
    | (state, none) => .next state
    | (state, some error) => .halt ⟨state, some error⟩
  | .sniffOverrideDestination =>
    if state.metadata.sniffHost = "" then .next state
    else .next { state with
      metadata := router.actionSniffOverrideDestination state.metadata state.input.ofPackets }
  | .resolve action =>
    match router.actionResolve state.queries state.metadata action with
    | none => .halt ⟨{ state with queries := state.queries + 1 }, some .resolve⟩
    | some metadata => .next { state with metadata, queries := state.queries + 1 }

def matchStep (rule : RouteRule) (state : MatchState) : Step MatchState MatchStop :=
  if rule.disabled then .next state
  else
    let (matched, metadata) := rule.rule.match router.env state.metadata.resetRuleCache
    if matched then router.takeAction { state with metadata } rule.action
    else .next { state with metadata }

/-- `matchRule` halts at a rule or ends behind the last one. `none` is the error of
`prepareMatchMetadata`. -/
def matchRule : Option (Ending MatchState MatchStop) :=
  (router.prepareMatchMetadata state.metadata).map fun metadata =>
    walk router.matchStep router.rules { state with metadata }

end Router

end SingBox
