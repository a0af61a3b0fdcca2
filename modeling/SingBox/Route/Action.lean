import SingBox.Group.Dial
import SingBox.Route.Sniff
import SingBox.Rule.Abstract

/-! # Route rules and the router

The actions of route rules, the router with everything it asks, and what the actions do
to the metadata. Both interpreters of the rule list use the functions of this module:
`matchRule` for a connection, `preMatch` for a packet before there is one.
-/

namespace SingBox

/-! ## Actions -/

/-- `RuleActionRouteOptions`. -/
structure RouteOptions where
  overrideAddress : Socksaddr := {}
  overridePort : UInt16 := 0
  networkStrategy : Option NetworkStrategy := none
  networkType : List InterfaceType := []
  fallbackNetworkType : List InterfaceType := []
  fallbackDelay : Nat := 0
  udpDisableDomainUnmapping : Bool := false
  udpConnect : Bool := false
  udpTimeout : Nat := 0
  tlsFragment : Bool := false
  tlsFragmentFallbackDelay : Nat := 0
  tlsRecordFragment : Bool := false
  tlsSpoof : String := ""
  tlsSpoofMethod : SpoofMethod := .wrongSequence

inductive RejectMethod where
  | default
  | drop
  | reply
deriving DecidableEq, Repr

inductive RejectError where
  | reset
  | drop
deriving DecidableEq, Repr

/-- `RuleActionReject`. `flooded` is whether it has rejected more than fifty
connections within the last half minute. -/
structure RejectAction where
  method : RejectMethod := .default
  noDrop : Bool := false
  flooded : Bool := false
deriving DecidableEq, Repr

def RejectAction.error (action : RejectAction) : Option RejectError :=
  match action.method with
  | .drop => some .drop
  | .reply => none
  | .default => if !action.noDrop && action.flooded then some .drop else some .reset

/-- `RuleActionSniff`. No sniffers at all stand for the default ones. -/
structure SniffAction where
  snifferNames : List String := []
  streamSniffers : List StreamSniffer := []
  packetSniffers : List PacketSniffer := []
deriving DecidableEq, Repr

structure ResolveAction where
  server : String := ""
  strategy : DomainStrategy := .asIs
  disableCache : Bool := false
  disableOptimisticCache : Bool := false
  rewriteTTL : Option UInt32 := none
  timeout : Nat := 0
  clientSubnet : Prefix := ⟨none, none⟩
  matchOnly : Bool := false

/-- `DNSQueryOptions` of a resolve action. -/
def ResolveAction.options (action : ResolveAction) : DNSQueryOptions where
  transport := if action.server = "" then none else some action.server
  strategy := action.strategy
  disableCache := action.disableCache
  disableOptimisticCache := action.disableOptimisticCache
  rewriteTTL := action.rewriteTTL
  timeout := action.timeout
  clientSubnet := action.clientSubnet

inductive RuleAction where
  | route (outbound : String) (options : RouteOptions)
  | routeOptions (options : RouteOptions)
  | bypass (outbound : String) (options : RouteOptions)
  | direct
  | reject (action : RejectAction)
  | hijackDNS
  | sniff (action : SniffAction)
  | sniffOverrideDestination
  | resolve (action : ResolveAction)

/-- A rule of the route, with what `SetDisabled` has set. -/
structure RouteRule where
  rule : Rule
  action : RuleAction
  disabled : Bool := false

/-! ## The router -/

theorem noOutbound : (none : Option Outbound) = none := rfl

/-- The router and what it asks: rules, outbounds, the process searcher, the neighbours,
the FakeIP store, the reverse mapping and the DNS router. `lookup` may answer each
query of a run differently; its number is that of the queries before it. -/
structure Router where
  env : Environment := {}
  sniffers : Sniffers := {}
  balancing : Balancing := {}
  rules : List RouteRule := []
  /-- Names that stand for multiplexing protocols. -/
  isReserved : String → Bool := fun _ => false
  outbound : String → Option Outbound := fun _ => none
  /-- An outbound without a tag is given its number as one. -/
  outbound_empty : outbound "" = none := by first | exact SingBox.noOutbound | rfl
  defaultOutbound : Outbound
  isLocalSource : Option Addr → Bool := fun _ => false
  findProcessInfo : Network → Socksaddr → Option Socksaddr → Option ConnectionOwner := fun _ _ _ => none
  lookupMAC : Addr → Option String := fun _ => none
  lookupHostname : Addr → Option String := fun _ => none
  fakeIPContains : Addr → Bool := fun _ => false
  fakeIPLookup : Addr → Option String := fun _ => none
  lookupReverseMapping : Option Addr → Option String := fun _ => none
  hasTransport : String → Bool := fun _ => false
  lookup : Nat → String → DNSQueryOptions → Option (List Addr) := fun _ _ _ => none

def Environment.isValid (env : Environment) (address : Socksaddr) : Bool := address.isIP || env.isDomain address

namespace Router

variable (router : Router) (metadata : InboundContext)

/-- The destination by which the process searcher finds a connection. -/
def processDestination : Option Socksaddr :=
  if router.env.isValid metadata.originDestination then some metadata.originDestination
  else if metadata.destination.isIP then some metadata.destination
  else none

def searchProcessInfo : InboundContext :=
  if metadata.processInfo.isSome || !router.isLocalSource metadata.source.addr then metadata
  else match router.findProcessInfo metadata.network metadata.source (router.processDestination metadata) with
    | none => metadata
    | some processInfo => { metadata with processInfo := some processInfo }

/-- The neighbour of the source, looked up unless its MAC address is known. -/
def searchNeighbor : InboundContext :=
  match metadata.sourceMACAddress, metadata.source.addr with
  | none, some addr =>
    let metadata := { metadata with sourceMACAddress := router.lookupMAC addr }
    match router.lookupHostname addr with
    | none => metadata
    | some hostname => { metadata with sourceHostname := hostname }
  | _, _ => metadata

/-- The domain behind a FakeIP address, or that of the reverse mapping. `none` is a
FakeIP address without a record. -/
def restoreDomain : Option InboundContext :=
  if metadata.destination.addr.any router.fakeIPContains then
    match metadata.destination.addr.bind router.fakeIPLookup with
    | none => none
    | some domain => some (if domain = "" then metadata else
        { metadata with
          originDestination := metadata.destination
          destination := .ofFqdn domain metadata.destination.port
          fakeIP := true })
  else if metadata.domain = "" then
    match router.lookupReverseMapping metadata.destination.addr with
    | none => some metadata
    | some domain => some { metadata with domain }
  else some metadata

/-- The family of a destination that is an address. -/
def setIPVersion : InboundContext :=
  if metadata.destination.isIPv4 then { metadata with ipVersion := 4 }
  else if metadata.destination.isIPv6 then { metadata with ipVersion := 6 }
  else metadata

def prepareMatchMetadata : Option InboundContext :=
  (router.restoreDomain (router.searchNeighbor (router.searchProcessInfo metadata))).map setIPVersion

/-! ## What actions do to the metadata -/

def withDestination (destination : Socksaddr) : InboundContext :=
  { metadata with destination }

def applyRouteOptionsOverride (options : RouteOptions) : InboundContext :=
  let metadata := if router.env.isValid options.overrideAddress then
      withDestination metadata (options.overrideAddress.withPort metadata.destination.port)
    else metadata
  let metadata := if options.overridePort > 0 then
      withDestination metadata (metadata.destination.withPort options.overridePort)
    else metadata
  if options.udpTimeout > 0 then { metadata with udpTimeout := options.udpTimeout } else metadata

/-- A destination that the replies must be sent from. -/
def withOriginDestination (originDestination : Socksaddr) : InboundContext :=
  { metadata with originDestination, destOverride := true }

/-- `actionSniffOverrideDestination`. Only for packets is the old destination kept. -/
def actionSniffOverrideDestination (ofPackets : Bool) : InboundContext :=
  if !router.env.isDomain metadata.destination && router.env.isDomainName metadata.sniffHost then
    let overridden := withDestination metadata (.ofFqdn metadata.sniffHost metadata.destination.port)
    if ofPackets then withOriginDestination overridden metadata.destination else overridden
  else metadata

/-- The addresses of a name, and the family they all are of. -/
def withResolved (addresses : List Addr) (matchOnly : Bool) : InboundContext :=
  let metadata := if matchOnly then { metadata with cacheIPs := addresses }
    else { metadata with destinationAddresses := addresses }
  if addresses.isEmpty then metadata
  else if addresses.all Addr.is4 then { metadata with ipVersion := 4 }
  else if addresses.all Addr.is6 then { metadata with ipVersion := 6 }
  else metadata

/-- `actionResolve`; `none` is its error. Each resolve action counts as one query. -/
def actionResolve (query : Nat) (metadata : InboundContext) (action : ResolveAction) : Option InboundContext :=
  if router.env.isDomain metadata.destination then
    if action.server ≠ "" ∧ router.hasTransport action.server = false then none
    else (router.lookup query metadata.destination.fqdn action.options).map fun addresses =>
      withResolved metadata addresses action.matchOnly
  else some metadata

end Router

end SingBox
