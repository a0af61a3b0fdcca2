import SingBox.Common.Netip

/-! # Connection metadata

`adapter.InboundContext` is what a rule looks at and what a rule action changes.
Matching a rule also uses it as scratch memory: three fields at its end, which
the source calls the rule cache, are overwritten and restored around every
nested match.
-/

namespace SingBox

/-! ## Enumerations of `constant` -/

inductive Network where
  | tcp
  | udp
  | icmp
deriving DecidableEq, Repr

def Network.name : Network → String
  | .tcp => "tcp"
  | .udp => "udp"
  | .icmp => "icmp"

inductive InterfaceType where
  | wifi
  | cellular
  | ethernet
  | other
  /-- A byte without a name, which a rule-set file may hold. -/
  | unnamed (value : UInt8)
deriving DecidableEq, Repr

inductive NetworkStrategy where
  | default
  | fallback
  | hybrid
deriving DecidableEq, Repr

/-- `tlsspoof.Method`. -/
inductive SpoofMethod where
  | wrongSequence
  | wrongChecksum
  | wrongAcknowledgment
  | wrongMD5Sig
  | wrongTimestamp
deriving DecidableEq, Repr

/-! ## DNS queries and responses -/

inductive SvcbValue where
  | ipv4Hint (hint : List (List UInt8))
  | ipv6Hint (hint : List (List UInt8))
  | other (key : UInt16) (value : List UInt8)
deriving DecidableEq, Repr

/-- A resource record: those that carry addresses, and the rest. -/
inductive DnsRecord where
  | a (ip : List UInt8)
  | aaaa (ip : List UInt8)
  | https (values : List SvcbValue)
  | other (type : UInt16) (data : List UInt8)
deriving DecidableEq, Repr

/-- The parts of `dns.Msg` that rules look at. -/
structure DnsMessage where
  rcode : Nat := 0
  answer : List DnsRecord := []
  ns : List DnsRecord := []
  extra : List DnsRecord := []
deriving DecidableEq, Repr

inductive DomainStrategy where
  | asIs
  | preferIPv4
  | preferIPv6
  | ipv4Only
  | ipv6Only
deriving DecidableEq, Repr

/-- `DNSQueryOptions`; the transport by its tag. -/
structure DNSQueryOptions where
  transport : Option String := none
  strategy : DomainStrategy := .asIs
  lookupStrategy : DomainStrategy := .asIs
  disableCache : Bool := false
  disableOptimisticCache : Bool := false
  rewriteTTL : Option UInt32 := none
  timeout : Nat := 0
  clientSubnet : Prefix := ⟨none, none⟩
  removeClientSubnet : Bool := false

def rcodeSuccess : Nat := 0

def SvcbValue.addresses : SvcbValue → List Addr
  | .ipv4Hint hint => hint.filterMap fun ip => (Addr.ofSlice ip).map Addr.unmap
  | .ipv6Hint hint => hint.filterMap Addr.ofSlice
  | .other _ _ => []

def DnsRecord.addresses : DnsRecord → List Addr
  | .a ip => (Addr.ofSlice ip).toList
  | .aaaa ip => (Addr.ofSlice ip).toList
  | .https values => values.flatMap SvcbValue.addresses
  | .other _ _ => []

def dnsResponseAddresses : Option DnsMessage → List Addr
  | none => []
  | some response => if response.rcode ≠ rcodeSuccess then [] else response.answer.flatMap DnsRecord.addresses

/-! ## Metadata -/

/-- `ConnectionOwner`, without the process id. -/
structure ConnectionOwner where
  userId : Int := -1
  userName : String := ""
  processPaths : List String := []
  packageNames : List String := []
deriving DecidableEq, Repr

/-- `qCryptoFragment`: what the QUIC sniffer keeps between packets. -/
structure CryptoFragment where
  offset : Nat
  length : Nat
  payload : List UInt8
deriving DecidableEq, Repr

/-- The errors of the sniffers, as far as their callers tell them apart. -/
inductive SniffError where
  | needMoreData
  | failed
deriving DecidableEq, Repr

structure InboundContext where
  inbound : String := ""
  inboundType : String := ""
  ipVersion : UInt8 := 0
  network : Network := .tcp
  source : Socksaddr := {}
  destination : Socksaddr := {}
  user : String := ""
  outbound : String := ""
  -- sniffer
  protocol : String := ""
  sniffHost : String := ""
  client : String := ""
  sniffContext : List CryptoFragment := []
  snifferNames : List String := []
  sniffError : Option SniffError := none
  -- cache
  cacheIPs : List Addr := []
  domain : String := ""
  originDestination : Socksaddr := {}
  routeOriginalDestination : Socksaddr := {}
  udpDisableDomainUnmapping : Bool := false
  udpConnect : Bool := false
  udpTimeout : Nat := 0
  tlsFragment : Bool := false
  tlsFragmentFallbackDelay : Nat := 0
  tlsRecordFragment : Bool := false
  tlsSpoof : String := ""
  tlsSpoofMethod : SpoofMethod := .wrongSequence
  networkStrategy : Option NetworkStrategy := none
  networkType : List InterfaceType := []
  fallbackNetworkType : List InterfaceType := []
  fallbackDelay : Nat := 0
  destinationAddresses : List Addr := []
  dnsResponse : Option DnsMessage := none
  namedDNSResponses : List (String × DnsMessage) := []
  destinationAddressMatchFromResponse : Bool := false
  processInfo : Option ConnectionOwner := none
  sourceMACAddress : Option String := none
  sourceHostname : String := ""
  queryType : UInt16 := 0
  queryClientSubnet : Prefix := ⟨none, none⟩
  queryDNSSEC : Bool := false
  fakeIP : Bool := false
  preMatch : Bool := false
  destOverride : Bool := false
  -- rule cache
  ipCidrMatchSource : Bool := false
  ipCidrAcceptEmpty : Bool := false
  deferredIPCIDRMatchGroups : UInt8 := 0
  ignoreDestinationIPCIDRMatch : Bool := false

namespace InboundContext

variable (metadata : InboundContext)

def resetRuleMatchCache : InboundContext :=
  { metadata with deferredIPCIDRMatchGroups := 0 }

def resetRuleCache : InboundContext :=
  resetRuleMatchCache { metadata with ipCidrMatchSource := false, ipCidrAcceptEmpty := false }

def dnsResponseAddressesForMatch : List Addr :=
  dnsResponseAddresses metadata.dnsResponse

end InboundContext

end SingBox
