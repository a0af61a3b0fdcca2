import SingBox.Ebpf.Policy

/-! # The TC program

The control entry and the maps that `newTCBackend` fills from a compiled policy, the two
updates at run time, and the selection of `tc.bpf.c`: `local_selected` for packets of the
host's own sockets and `shared_selected` for packets of other devices.
-/

namespace SingBox

variable (address : Addr)

def Addr.byteAt (index : Nat) : UInt8 := address.asSlice.getD index 0

namespace Ebpf

open Lib.Lpm Lib.Guard Lib.Mask

/-! ## Flags -/

/-- The bits of the control entry, the same in `tc.bpf.c` and in the Go code. -/
inductive TcFlag where
  | ipv4
  | localIPv6
  | tcp
  | udp
  | uidPolicy
  | uidDefaultBypass
  | localBypassPrivate
  | sharedBypassPrivate
  | bypassIPv4
  | bypassIPv6
  | mustInterceptIPv4
  | mustInterceptIPv6
  | includeSource
  | excludeSource
  | includeSourceMAC
  | excludeSourceMAC
  | hostIPv4
  | hostIPv6
  | sharedIPv6
  | localBypassPort
  | sharedBypassPort
deriving DecidableEq, Repr

def TcFlag.bit : TcFlag → Nat
  | .ipv4 => 0
  | .localIPv6 => 1
  | .tcp => 2
  | .udp => 3
  | .uidPolicy => 4
  | .uidDefaultBypass => 5
  | .localBypassPrivate => 6
  | .sharedBypassPrivate => 7
  | .bypassIPv4 => 8
  | .bypassIPv6 => 9
  | .mustInterceptIPv4 => 10
  | .mustInterceptIPv6 => 11
  | .includeSource => 12
  | .excludeSource => 13
  | .includeSourceMAC => 14
  | .excludeSourceMAC => 15
  | .hostIPv4 => 16
  | .hostIPv6 => 17
  | .sharedIPv6 => 18
  | .localBypassPort => 20
  | .sharedBypassPort => 21

/-- The part of `TCConfig` that the flags are made of. -/
structure TCConfig where
  enableIPv4 : Bool
  enableLocalIPv6 : Bool
  enableSharedIPv6 : Bool
  enableTCP : Bool
  enableUDP : Bool
  policy : CompiledPolicy

def BypassCIDRPolicy.isEmpty (prefixes : BypassCIDRPolicy) : Bool := prefixes.ipv4.isEmpty && prefixes.ipv6.isEmpty

variable (config : TCConfig)

/-- `tcFlags`, through the policy vector. -/
def tcFlags : BitVec 32 :=
  let policy := config.policy
  let flags := withFlag 0#32 config.enableIPv4 TcFlag.ipv4.bit
  let flags := withFlag flags config.enableLocalIPv6 TcFlag.localIPv6.bit
  let flags := withFlag flags config.enableSharedIPv6 TcFlag.sharedIPv6.bit
  let flags := withFlag flags config.enableTCP TcFlag.tcp.bit
  let flags := withFlag flags config.enableUDP TcFlag.udp.bit
  let flags := withFlag flags (!policy.uidEntries.isEmpty || policy.uidDefaultBypass) TcFlag.uidPolicy.bit
  let flags := withFlag flags policy.uidDefaultBypass TcFlag.uidDefaultBypass.bit
  let flags := withFlag flags policy.local.bypassPrivateAddress TcFlag.localBypassPrivate.bit
  let flags := withFlag flags policy.sharedBypassPrivate TcFlag.sharedBypassPrivate.bit
  let flags := withFlag flags (!policy.mustInterceptIPv4.isEmpty) TcFlag.mustInterceptIPv4.bit
  let flags := withFlag flags (!policy.mustInterceptIPv6.isEmpty) TcFlag.mustInterceptIPv6.bit
  let flags := withFlag flags (!policy.includeSource.isEmpty) TcFlag.includeSource.bit
  let flags := withFlag flags (!policy.excludeSource.isEmpty) TcFlag.excludeSource.bit
  let flags := withFlag flags (!policy.includeSourceMAC.isEmpty) TcFlag.includeSourceMAC.bit
  let flags := withFlag flags (!policy.excludeSourceMAC.isEmpty) TcFlag.excludeSourceMAC.bit
  let flags := withFlag flags (!policy.localBypassPortEntries.isEmpty) TcFlag.localBypassPort.bit
  withFlag flags (!policy.sharedBypassPortEntries.isEmpty) TcFlag.sharedBypassPort.bit

/-! ## Control entry and maps -/

structure TcControl where
  flags : BitVec 32
  localDNSMode : DNSMode
  sharedDNSMode : DNSMode

def TcControl.has (control : TcControl) (flag : TcFlag) : Bool := hasFlag control.flags flag.bit

structure TcMaps where
  uidPolicy : List (Key 32)
  localBypassPort : List PortKey
  sharedBypassPort : List PortKey
  mustInterceptIPv4 : List (Key 32)
  mustInterceptIPv6 : List (Key 128)
  includeSourceIPv4 : List (Key 32)
  includeSourceIPv6 : List (Key 128)
  excludeSourceIPv4 : List (Key 32)
  excludeSourceIPv6 : List (Key 128)
  includeSourceMAC : List MACAddress
  excludeSourceMAC : List MACAddress
  bypassIPv4 : List (Key 32) := []
  bypassIPv6 : List (Key 128) := []
  hostIPv4 : List (BitVec 32) := []
  hostIPv6 : List (BitVec 128) := []

structure TCBackend where
  control : TcControl
  maps : TcMaps

variable (prefixes : List Prefix)

/-- The keys of IPv4 prefixes. -/
def cidrKeys4 : List (Key 32) :=
  prefixes.filterMap fun
    | ⟨some (.v4 value), some bits⟩ => some ⟨bits, value⟩
    | _ => none

/-- The keys of IPv6 prefixes. -/
def cidrKeys6 : List (Key 128) :=
  prefixes.filterMap fun
    | ⟨some (.v6 value), some bits⟩ => some ⟨bits, value⟩
    | _ => none

/-- The source sets the last six flags a second time. -/
def newTCBackend : TCBackend :=
  let policy := config.policy
  { control := { flags := tcFlags config, localDNSMode := policy.local.dnsMode, sharedDNSMode := policy.sharedDNSMode }
    maps :=
      { uidPolicy := policy.uidEntries
        localBypassPort := policy.localBypassPortEntries
        sharedBypassPort := policy.sharedBypassPortEntries
        mustInterceptIPv4 := cidrKeys4 policy.mustInterceptIPv4
        mustInterceptIPv6 := cidrKeys6 policy.mustInterceptIPv6
        includeSourceIPv4 := cidrKeys4 policy.includeSource.ipv4
        includeSourceIPv6 := cidrKeys6 policy.includeSource.ipv6
        excludeSourceIPv4 := cidrKeys4 policy.excludeSource.ipv4
        excludeSourceIPv6 := cidrKeys6 policy.excludeSource.ipv6
        includeSourceMAC := policy.includeSourceMAC
        excludeSourceMAC := policy.excludeSourceMAC } }

/-- Sets the flag, or clears it. -/
def setFlag (flags : BitVec 32) (on : Bool) (flag : TcFlag) : BitVec 32 :=
  if on then withFlag flags true flag.bit else withoutFlag flags flag.bit

def maxBypassCIDRPolicyEntries : Nat := 65536

def maxHostAddressPolicyEntries : Nat := 4096

variable (backend : TCBackend)

/-- `UpdateCompiledBypassCIDR`, with the map operations successful. -/
def TCBackend.updateCompiledBypassCIDR (policy : BypassCIDRPolicy) : Except String TCBackend := do
  ensure (policy.ipv4.length ≤ maxBypassCIDRPolicyEntries ∧ policy.ipv6.length ≤ maxBypassCIDRPolicyEntries)
    "TC eBPF bypass CIDR policy exceeds map capacity"
  let flags := setFlag backend.control.flags (!policy.ipv4.isEmpty) .bypassIPv4
  let flags := setFlag flags (!policy.ipv6.isEmpty) .bypassIPv6
  return { control := { backend.control with flags }
           maps := { backend.maps with bypassIPv4 := cidrKeys4 policy.ipv4, bypassIPv6 := cidrKeys6 policy.ipv6 } }

/-- `UpdateHostAddresses`, with the map operations successful. -/
def TCBackend.updateHostAddresses (addresses : List Addr) : Except String TCBackend := do
  let (hostIPv4, hostIPv6) := compileHostAddresses addresses
  ensure (hostIPv4.length ≤ maxHostAddressPolicyEntries ∧ hostIPv6.length ≤ maxHostAddressPolicyEntries)
    "TC eBPF host address policy exceeds map capacity"
  let flags := setFlag backend.control.flags (!hostIPv4.isEmpty) .hostIPv4
  let flags := setFlag flags (!hostIPv6.isEmpty) .hostIPv6
  return { control := { backend.control with flags }, maps := { backend.maps with hostIPv4, hostIPv6 } }

/-! ## Selection -/

/-- What is read of a packet. Both addresses are of the packet's IP version. -/
structure Flow where
  protocol : Transport
  source : Addr
  destination : Addr
  sourcePort : UInt16
  destinationPort : UInt16
  sameFamily : source.is4 = destination.is4

variable (flow : Flow)

/-- `service_port`: DHCP and DHCPv6. -/
def servicePort : Bool :=
  flow.protocol == .udp &&
    (([67, 68, 546, 547] : List UInt16).contains flow.sourcePort ||
      ([67, 68, 546, 547] : List UInt16).contains flow.destinationPort)

/-- `sb_ebpf_ipv4_safety_bypass` and `sb_ebpf_ipv6_safety_bypass`: the destinations that are
never intercepted. -/
def safetyBypass : Addr → Bool
  | .v4 value =>
    let first := (Addr.v4 value).byteAt 0
    first == 0 || first == 127 || decide (224 ≤ first)
  | .v6 value =>
    let byte := (Addr.v6 value).byteAt
    if value = 0 ∨ byte 0 = 0xff then true
    else if value.toNat / 2 ^ 32 ≠ 0 then false
    else if byte 12 = 0 ∧ byte 13 = 0 ∧ byte 14 = 0 ∧ byte 15 = 1 then true
    else byte 12 == 0xff

/-- `sb_ebpf_ipv4_private_address`. -/
def ipv4PrivateAddress : Bool :=
  let first := address.byteAt 0
  let second := address.byteAt 1
  if first = 0 ∨ first = 10 ∨ first = 127 ∨ 224 ≤ first then true
  else if first = 100 ∧ second &&& 0xc0 = 0x40 then true
  else if first = 169 ∧ second = 254 then true
  else if first = 172 ∧ second &&& 0xf0 = 0x10 then true
  else decide (first = 192 ∧ second = 168)

/-- `sb_ebpf_ipv6_private_address`. -/
def ipv6PrivateAddress : Bool :=
  let first := address.byteAt 0
  let second := address.byteAt 1
  if first = 0xff ∨ first &&& 0xfe = 0xfc then true else decide (first = 0xfe ∧ second &&& 0xc0 = 0x80)

def dnsSelected (mode : DNSMode) : Bool := decide (flow.destinationPort = 53 ∧ mode = .hijack)

def dnsBypassed (mode : DNSMode) : Bool := decide (flow.destinationPort = 53 ∧ mode = .off)

/-- Bits of the metadata of a socket. -/
def socketMetadataPolicyBypass : Nat := 1

def socketMetadataPolicyIntercept : Nat := 2

namespace TCBackend

variable (backend : TCBackend)

def uidBypassed (uid : UInt32) : Bool :=
  if backend.control.has .uidPolicy then
    uidTrieBypassed backend.maps.uidPolicy (backend.control.has .uidDefaultBypass) uid
  else false

def portBypassed (flow : Flow) (shared : Bool) : Bool :=
  if backend.control.has (if shared then .sharedBypassPort else .localBypassPort) then
    let key : PortKey := ⟨flow.protocol, flow.destinationPort⟩
    if shared then backend.maps.sharedBypassPort.contains key else backend.maps.localBypassPort.contains key
  else false

def privateDestination : Bool :=
  if flow.destination.is4 then ipv4PrivateAddress flow.destination else ipv6PrivateAddress flow.destination

def mustInterceptDestination (flow : Flow) : Bool :=
  match flow.destination with
  | .v4 value => if backend.control.has .mustInterceptIPv4 then found backend.maps.mustInterceptIPv4 value else false
  | .v6 value => if backend.control.has .mustInterceptIPv6 then found backend.maps.mustInterceptIPv6 value else false

def bypassDestination (flow : Flow) : Bool :=
  match flow.destination with
  | .v4 value => if backend.control.has .bypassIPv4 then found backend.maps.bypassIPv4 value else false
  | .v6 value => if backend.control.has .bypassIPv6 then found backend.maps.bypassIPv6 value else false

def sourceAddressSelected (flow : Flow) : Bool :=
  match flow.source with
  | .v4 value =>
    if backend.control.has .excludeSource && found backend.maps.excludeSourceIPv4 value then false
    else !backend.control.has .includeSource || found backend.maps.includeSourceIPv4 value
  | .v6 value =>
    if backend.control.has .excludeSource && found backend.maps.excludeSourceIPv6 value then false
    else !backend.control.has .includeSource || found backend.maps.includeSourceIPv6 value

def hostDestination (flow : Flow) : Bool :=
  match flow.destination with
  | .v4 value => if backend.control.has .hostIPv4 then backend.maps.hostIPv4.contains value else false
  | .v6 value => if backend.control.has .hostIPv6 then backend.maps.hostIPv6.contains value else false

variable (sourceMAC : MACAddress)

def sourceMACSelected : Bool :=
  if backend.control.has .excludeSourceMAC && backend.maps.excludeSourceMAC.contains sourceMAC then false
  else !backend.control.has .includeSourceMAC || backend.maps.includeSourceMAC.contains sourceMAC

/-- `metadata` is what the socket is known by, 0 for a socket that is not. -/
def localSelected (flow : Flow) (uid : UInt32) (metadata : BitVec 32) : Bool :=
  let mode := backend.control.localDNSMode
  if backend.mustInterceptDestination flow then true
  else if dnsBypassed flow mode then false
  else if dnsSelected flow mode then true
  else if hasFlag metadata socketMetadataPolicyBypass then false
  else if !hasFlag metadata socketMetadataPolicyIntercept && backend.uidBypassed uid then false
  else if flow.destinationPort = 53 ∧ mode = .respectPolicy then true
  else if backend.portBypassed flow false then false
  else if backend.hostDestination flow then false
  else if backend.control.has .localBypassPrivate && privateDestination flow then false
  else !backend.bypassDestination flow

def sharedSelected (flow : Flow) (sourceMAC : MACAddress) : Bool :=
  let mode := backend.control.sharedDNSMode
  if backend.mustInterceptDestination flow then true
  else if dnsBypassed flow mode then false
  else if dnsSelected flow mode then true
  else if !backend.sourceAddressSelected flow || !backend.sourceMACSelected sourceMAC then false
  else if flow.destinationPort = 53 ∧ mode = .respectPolicy then true
  else if backend.portBypassed flow true then false
  else if backend.hostDestination flow then false
  else if backend.control.has .sharedBypassPrivate && privateDestination flow then false
  else !backend.bypassDestination flow

end TCBackend

end Ebpf

end SingBox
