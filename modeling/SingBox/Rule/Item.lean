import Mathlib.Data.List.Infix
import SingBox.Adapter.Inbound
import SingBox.Common.Ipset

/-! # Rule items

A default rule is made of items, each of which looks at the metadata of one
connection or DNS query. Items that name an address or a port belong to one of
the four groups of a rule and are alternatives within it; all others must match
one by one. The groups are kept apart by type, so that a port item cannot stand
among the address items of a rule.
-/

namespace SingBox

/-! ## Surroundings -/

structure NetworkInterface where
  name : String
  type : InterfaceType
  addresses : List Prefix := []
  expensive : Bool := false
  constrained : Bool := false
deriving Repr

structure WIFIState where
  ssid : String := ""
  bssid : String := ""
deriving Repr

/-- What `adapter.NetworkManager` answers. -/
structure NetworkManager where
  /-- `InterfaceFinder().Interfaces()`: name and addresses. -/
  interfaces : List (String × List Prefix) := []
  networkInterfaces : List NetworkInterface := []
  defaultNetworkInterface : Option NetworkInterface := none
  /-- The addresses of `InterfaceMonitor().DefaultInterface()`. -/
  defaultInterface : Option (List Prefix) := none
  myInterfaces : List String := []
  wifiState : WIFIState := {}

theorem bne_empty : ("" != "") = false := rfl

/-- Everything an item consults besides the metadata: functions of the libraries,
and the state of the system while one connection is matched. -/
structure Environment where
  isDomainName : String → Bool := fun host => host != ""
  isDomainName_empty : isDomainName "" = false := by first | exact SingBox.bne_empty | rfl
  toLower : String → String := id
  equalFold : String → String → Bool := fun a b => a == b
  isPublicAddr : Option Addr → Bool := fun _ => true
  filepathBase : String → String := id
  canonicalName : String → String := id
  android : Bool := false
  /-- `none` without a Clash mode manager. -/
  clashMode : Option String := none
  networkManager : NetworkManager := {}
  serverAddresses : String → List Addr := fun _ => []
  searchDomains : String → List String := fun _ => []
  transportPreferredDomain : String → String → Bool := fun _ _ => false
  preferredDomain : String → String → Bool := fun _ _ => false
  /-- The bridge outbound answers only before a connection exists. -/
  preferredAddress : String → Network → (preMatch : Bool) → Addr → Bool := fun _ _ _ _ => false

variable (env : Environment)

def Environment.isDomain (address : Socksaddr) : Bool := env.isDomainName address.fqdn

/-! ## Domain items -/

inductive DomainMatchStrategy where
  | asIs
  | preferFQDN
  | preferSniffHost
  | fqdnOnly
  | sniffHostOnly
deriving DecidableEq, Repr

/-- The name that the domain items and `preferred_by` look at. -/
def domainHost (strategy : DomainMatchStrategy) (metadata : InboundContext) : String :=
  match strategy with
  | .preferFQDN =>
    if env.isDomain metadata.destination then metadata.destination.fqdn
    else if metadata.sniffHost ≠ "" then metadata.sniffHost
    else metadata.domain
  | .fqdnOnly => if env.isDomain metadata.destination then metadata.destination.fqdn else ""
  | .sniffHostOnly => metadata.sniffHost
  | .asIs | .preferSniffHost =>
    if metadata.sniffHost ≠ "" then metadata.sniffHost
    else if env.isDomain metadata.destination then metadata.destination.fqdn
    else metadata.domain

inductive DestinationAddressItem where
  | domain (matcher : String → Bool) (strategy : DomainMatchStrategy)
  | domainKeyword (keywords : List String) (strategy : DomainMatchStrategy)
  | domainRegex (matchers : List (String → Bool)) (strategy : DomainMatchStrategy)
  | adGuardDomain (matcher : String → Bool) (strategy : DomainMatchStrategy)

namespace DestinationAddressItem

def strategy : DestinationAddressItem → DomainMatchStrategy
  | .domain _ strategy | .domainKeyword _ strategy | .domainRegex _ strategy | .adGuardDomain _ strategy => strategy

/-- What the item says of a name that has been put in lower case. -/
def accepts : DestinationAddressItem → String → Bool
  | .domain matcher _, host => matcher host
  | .domainKeyword keywords _, host => keywords.any fun keyword => decide (keyword.toList <:+: host.toList)
  | .domainRegex matchers _, host => matchers.any fun matcher => matcher host
  | .adGuardDomain matcher _, host => matcher host

def «match» (item : DestinationAddressItem) (metadata : InboundContext) : Bool :=
  let host := domainHost env item.strategy metadata
  if host = "" then false else item.accepts (env.toLower host)

end DestinationAddressItem

/-! ## Address items -/

/-- `IPCIDRItem.Match`. -/
def ipCIDRItemMatch (ipSet : Ipset.Set) (isSource : Bool) (metadata : InboundContext) : Bool :=
  if isSource || metadata.ipCidrMatchSource then ipSet.contains metadata.source.addr
  else if metadata.destinationAddressMatchFromResponse then
    match metadata.dnsResponseAddressesForMatch with
    | [] => metadata.ipCidrAcceptEmpty
    | addresses => addresses.any fun addr => ipSet.contains (some addr)
  else if metadata.destination.isIP then ipSet.contains metadata.destination.addr
  else if metadata.destinationAddresses ≠ [] then
    metadata.destinationAddresses.any fun addr => ipSet.contains (some addr)
  else if metadata.cacheIPs ≠ [] then metadata.cacheIPs.any fun addr => ipSet.contains (some addr)
  else metadata.ipCidrAcceptEmpty

/-- `IPIsPrivateItem.Match`. -/
def ipIsPrivateItemMatch (isSource : Bool) (metadata : InboundContext) : Bool :=
  let isPrivate := fun addr => !env.isPublicAddr (some addr)
  if isSource then !env.isPublicAddr metadata.source.addr
  else if metadata.destinationAddressMatchFromResponse then metadata.dnsResponseAddressesForMatch.any isPrivate
  else match metadata.destination.addr with
    | some addr => isPrivate addr
    | none => metadata.destinationAddresses.any isPrivate || metadata.cacheIPs.any isPrivate

/-- `IPAcceptAnyItem.Match`. -/
def ipAcceptAnyItemMatch (metadata : InboundContext) : Bool :=
  if metadata.destinationAddressMatchFromResponse then metadata.dnsResponseAddressesForMatch ≠ []
  else metadata.destinationAddresses ≠ []

inductive SourceAddressItem where
  | ipCidr (ipSet : Ipset.Set)
  | ipIsPrivate

def SourceAddressItem.match (item : SourceAddressItem) (metadata : InboundContext) : Bool :=
  match item with
  | .ipCidr ipSet => ipCIDRItemMatch ipSet true metadata
  | .ipIsPrivate => ipIsPrivateItemMatch env true metadata

inductive DestinationIPCIDRItem where
  | ipCidr (ipSet : Ipset.Set)
  | ipIsPrivate
  | ipAcceptAny

namespace DestinationIPCIDRItem

def «match» (item : DestinationIPCIDRItem) (metadata : InboundContext) : Bool :=
  match item with
  | .ipCidr ipSet => ipCIDRItemMatch ipSet false metadata
  | .ipIsPrivate => ipIsPrivateItemMatch env false metadata
  | .ipAcceptAny => ipAcceptAnyItemMatch metadata

def isIPCIDR : DestinationIPCIDRItem → Bool
  | .ipCidr _ => true
  | .ipIsPrivate | .ipAcceptAny => false

end DestinationIPCIDRItem

/-! ## Port items -/

inductive PortItem where
  | port (ports : List UInt16)
  | portRange (ranges : List (UInt16 × UInt16))

def PortItem.match (item : PortItem) (isSource : Bool) (metadata : InboundContext) : Bool :=
  let value := if isSource then metadata.source.port else metadata.destination.port
  match item with
  | .port ports => ports.contains value
  | .portRange ranges => ranges.any fun range => range.1 ≤ value && value ≤ range.2

/-! ## All other items -/

inductive DnsSection where
  | answer
  | ns
  | extra
deriving DecidableEq, Repr

def DnsSection.of (part : DnsSection) (response : DnsMessage) : List DnsRecord :=
  match part with
  | .answer => response.answer
  | .ns => response.ns
  | .extra => response.extra

/-- The items of `abstractDefaultRule.items`. A regular expression is the set of
strings it matches, and a condition on a record the set of records. -/
inductive RuleItem where
  | queryType (types : List UInt16)
  | network (networks : List String)
  | processName (processes : List String)
  | processPath (processes : List String)
  | processPathRegex (matchers : List (String → Bool))
  | packageName (packageNames : List String)
  | packageNameRegex (matchers : List (String → Bool))
  | networkType (types : List InterfaceType)
  | networkIsExpensive
  | networkIsConstrained
  | wifiSSID (ssids : List String)
  | wifiBSSID (bssids : List String)
  | networkInterfaceAddress (addresses : List (InterfaceType × List Prefix))
  | defaultInterfaceAddress (addresses : List Prefix)
  | inbound (inbounds : List String)
  | ipVersion (isIPv6 : Bool)
  | authUser (users : List String)
  | protocol (protocols : List String)
  | client (clients : List String)
  | user (users : List String)
  | userId (userIds : List Int)
  | clashMode (modes : List String)
  | interfaceAddress (addresses : List (String × List Prefix))
  | sourceMACAddress (addresses : List String)
  | sourceHostname (hostnames : List String)
  | preferredBy (outbounds : List String) (strategy : DomainMatchStrategy)
  | preferredByDNS (transports : List String)
  | dnsServerAddress (addresses : List (String × List Prefix))
  | dnsSearchDomain (domains : List (String × List String))
  | queryClientSubnet (prefixes : List Prefix)
  | queryDNSSEC
  | outbound (outbounds : List String)
  | responseRcode (rcode : Nat)
  | responseRecord (part : DnsSection) (records : List (DnsRecord → Bool))

namespace RuleItem

/-- `PreferredByItem.Match`. -/
def preferredByMatch (outbounds : List String) (strategy : DomainMatchStrategy) (metadata : InboundContext) : Bool :=
  let host := domainHost env strategy metadata
  let prefers := fun addr => outbounds.any fun tag =>
    env.preferredAddress tag metadata.network metadata.preMatch addr
  (host ≠ "" && outbounds.any fun tag => env.preferredDomain tag host) ||
    metadata.destination.addr.any prefers ||
    metadata.destinationAddresses.any prefers || metadata.cacheIPs.any prefers

/-- `InterfaceAddressItem.Match`. -/
def interfaceAddressMatch (addresses : List (String × List Prefix)) : Bool :=
  addresses.all fun (name, expected) =>
    match env.networkManager.interfaces.find? fun interface => interface.1 == name with
    | some interface => interface.1 ≠ "" &&
        expected.any fun network => interface.2.any fun address => network.overlaps address
    | none => false

/-- `NetworkInterfaceAddressItem.Match`. -/
def networkInterfaceAddressMatch (addresses : List (InterfaceType × List Prefix)) : Bool :=
  addresses.all fun (type, expected) => env.networkManager.networkInterfaces.any fun interface =>
    !env.networkManager.myInterfaces.contains interface.name && interface.type == type &&
      interface.addresses.any fun address => expected.any fun network => network.overlaps address

def «match» (item : RuleItem) (metadata : InboundContext) : Bool :=
  match item with
  | .queryType types => metadata.queryType ≠ 0 && types.contains metadata.queryType
  | .network networks => networks.contains metadata.network.name
  | .processName processes => metadata.processInfo.any fun info =>
      info.processPaths.any fun path => processes.contains (env.filepathBase path)
  | .processPath processes => metadata.processInfo.any fun info =>
      info.processPaths.any processes.contains || (env.android && info.packageNames.any processes.contains)
  | .processPathRegex matchers => metadata.processInfo.any fun info =>
      matchers.any fun matcher => info.processPaths.any matcher
  | .packageName packageNames => metadata.processInfo.any fun info => info.packageNames.any packageNames.contains
  | .packageNameRegex matchers => metadata.processInfo.any fun info =>
      matchers.any fun matcher => info.packageNames.any matcher
  | .networkType types =>
    if env.android && env.networkManager.networkInterfaces.isEmpty then
      types.contains .wifi && env.networkManager.wifiState.ssid ≠ ""
    else env.networkManager.defaultNetworkInterface.any fun interface => types.contains interface.type
  | .networkIsExpensive => env.networkManager.defaultNetworkInterface.any NetworkInterface.expensive
  | .networkIsConstrained => env.networkManager.defaultNetworkInterface.any NetworkInterface.constrained
  | .wifiSSID ssids => ssids.contains env.networkManager.wifiState.ssid
  | .wifiBSSID bssids => bssids.contains env.networkManager.wifiState.bssid
  | .networkInterfaceAddress addresses => networkInterfaceAddressMatch env addresses
  | .defaultInterfaceAddress addresses => env.networkManager.defaultInterface.any fun own =>
      addresses.all fun network => own.any fun address => network.overlaps address
  | .inbound inbounds => inbounds.contains metadata.inbound
  | .ipVersion isIPv6 =>
    (metadata.ipVersion ≠ 0 && (metadata.ipVersion == 6) == isIPv6) ||
      (metadata.destination.isIP && metadata.destination.isIPv6 == isIPv6)
  | .authUser users => users.contains metadata.user
  | .protocol protocols => protocols.contains metadata.protocol
  | .client clients => clients.contains metadata.client
  | .user users => metadata.processInfo.any fun info => info.userName ≠ "" && users.contains info.userName
  | .userId userIds => metadata.processInfo.any fun info => info.userId ≠ -1 && userIds.contains info.userId
  | .clashMode modes => env.clashMode.any fun current => modes.any fun mode => env.equalFold current mode
  | .interfaceAddress addresses => interfaceAddressMatch env addresses
  | .sourceMACAddress addresses => metadata.sourceMACAddress.any addresses.contains
  | .sourceHostname hostnames => metadata.sourceHostname ≠ "" && hostnames.contains metadata.sourceHostname
  | .preferredBy outbounds strategy => preferredByMatch env outbounds strategy metadata
  | .preferredByDNS transports =>
    let host := if metadata.domain ≠ "" then metadata.domain else metadata.destination.fqdn
    host ≠ "" && transports.any fun tag => env.transportPreferredDomain tag (env.canonicalName host)
  | .dnsServerAddress addresses => addresses.all fun (tag, prefixes) =>
      (env.serverAddresses tag).any fun address => prefixes.any fun network => network.contains address.unmap
  | .dnsSearchDomain domains => domains.all fun (tag, expected) =>
      (env.searchDomains tag).any fun domain => expected.contains (env.canonicalName domain)
  | .queryClientSubnet prefixes =>
    match metadata.queryClientSubnet with
    | ⟨some addr, some bits⟩ => prefixes.any fun network =>
        network.bits.all (· ≤ bits) && network.contains addr
    | _ => false
  | .queryDNSSEC => metadata.queryDNSSEC
  | .outbound outbounds =>
    if outbounds.contains "any" then metadata.outbound ≠ "" else outbounds.contains metadata.outbound
  | .responseRcode rcode => metadata.dnsResponse.any fun response => response.rcode == rcode
  | .responseRecord part records => metadata.dnsResponse.any fun response =>
      records.any fun expected => (part.of response).any expected

/-- The items that a headless rule can hold (`NewDefaultHeadlessRule`). -/
def isHeadless : RuleItem → Bool
  | .queryType _ | .network _ | .processName _ | .processPath _ | .processPathRegex _ | .packageName _
  | .packageNameRegex _ | .networkType _ | .networkIsExpensive | .networkIsConstrained | .wifiSSID _
  | .wifiBSSID _ | .networkInterfaceAddress _ | .defaultInterfaceAddress _ => true
  | _ => false

/-- The `response_*` items, which look at the DNS response itself. -/
def isResponse : RuleItem → Bool
  | .responseRcode _ | .responseRecord _ _ => true
  | _ => false

end RuleItem

end SingBox
