import SingBox.Ebpf.Classifier

/-! # The policy check of `pre_match`

`preMatchPolicyBypass` of `protocol/ebpf`: the decision of the TC program made once more in
Go, for the packets that the NFQUEUE handler sees. It reads the inbound's own fields, not the
maps. The constructor's normalisation of FakeIP ranges and source prefixes and the collection
of the host's addresses are modelled with it.
-/

namespace SingBox

namespace Addr

def isUnspecified : Addr → Bool
  | .v4 value => value == 0
  | .v6 value => value == 0

def isLoopback : Addr → Bool
  | .v4 value => value.toNat / 2 ^ 24 == 127
  | .v6 value => value == 1

end Addr

namespace Ebpf

open Lib.Guard

/-! ## Normalisation -/

/-- `normalizeSourceCIDR`: each prefix once. -/
def normalizeSourceCIDR (name : String) (prefixes : List Prefix) : Except String (List Prefix) := do
  ensure (prefixes.all Prefix.isValid) ("invalid shared." ++ name)
  return (prefixes.map unmapPrefix).eraseDups

def prefixesOverlap (left right : Prefix) : Bool :=
  if left.isValid = false ∨ right.isValid = false ∨ left.is4 ≠ right.is4 then false
  else
    match left.masked.addr, right.masked.addr with
    | some leftAddr, some rightAddr => left.masked.contains rightAddr || right.masked.contains leftAddr
    | _, _ => false

def fakeIPSafetyIPv4Prefixes : List Prefix :=
  [⟨some (.v4 0x00000000), some 8⟩, ⟨some (.v4 0x7f000000), some 8⟩, ⟨some (.v4 0xe0000000), some 4⟩]

def fakeIPSafetyIPv6Prefixes : List Prefix :=
  [⟨some (.v6 0), some 128⟩, ⟨some (.v6 1), some 128⟩, ⟨some (.v6 0xff0000000000), some 104⟩,
    ⟨some (.v6 0xff000000000000000000000000000000), some 8⟩]

/-- One round of `normalizeFakeIPPrefixes`; the texts of errors leave out the prefixes. -/
def normalizeFakeIPPrefix (name : String) (network : Prefix) (ipv4 : Bool) (safety : List Prefix) :
    Except String Prefix :=
  if network.isValid = false then .ok network
  else do
    let network := network.masked
    ensure (network.is4 = ipv4 ∧ network.addr.any Addr.is4In6 = false)
      ("invalid " ++ name ++ " FakeIP range for eBPF inbound")
    ensure (safety.all fun safetyPrefix => !prefixesOverlap network safetyPrefix)
      (name ++ " FakeIP range overlaps mandatory eBPF safety bypass")
    return network

/-- `collectHostAddresses`, on the addresses of all interfaces. The result is sorted and
compacted; only which addresses it has is read. -/
def collectHostAddresses (addresses : List Prefix) : List Addr :=
  (addresses.filterMap fun network =>
    if network.isValid then
      (network.addr.map Addr.unmap).filter fun address => !address.isUnspecified && !address.isLoopback
    else none).eraseDups

/-! ## The inbound -/

/-- The fields of `Inbound` that the check reads. The DNS mode of the local policy is the
inbound's. -/
structure Inbound where
  localEnabled : Bool
  sharedEnabled : Bool
  enableTCP : Bool
  enableUDP : Bool
  fakeIPIPv4Prefix : Prefix
  fakeIPIPv6Prefix : Prefix
  bypassExcludeIPv4 : List Prefix
  bypassExcludeIPv6 : List Prefix
  localPolicy : LocalPolicy
  sharedDNSMode : DNSMode
  includeSourceCIDR : List Prefix
  excludeSourceCIDR : List Prefix
  sharedIncludeMAC : List MACAddress
  sharedExcludeMAC : List MACAddress
  localBypassPort : List PortRange
  sharedBypassPort : List PortRange
  sharedBypassPrivate : Bool
  preMatchHostAddresses : List Addr
  bypassRuleSetPolicy : BypassCIDRPolicy

namespace Inbound

variable (inbound : Inbound)

def localDNSMode : DNSMode := inbound.localPolicy.dnsMode

/-- What `Start` hands to `CompilePolicy`. -/
def policyConfig : PolicyConfig where
  enableTCP := inbound.enableTCP
  enableUDP := inbound.enableUDP
  «local» := inbound.localPolicy
  sharedDNSMode := inbound.sharedDNSMode
  sharedBypassPrivate := inbound.sharedBypassPrivate
  fakeIPIPv4 := inbound.fakeIPIPv4Prefix
  fakeIPIPv6 := inbound.fakeIPIPv6Prefix
  forceInterceptIPv4 := inbound.bypassExcludeIPv4
  forceInterceptIPv6 := inbound.bypassExcludeIPv6
  includeSourceCIDR := inbound.includeSourceCIDR
  excludeSourceCIDR := inbound.excludeSourceCIDR
  includeSourceMAC := inbound.sharedIncludeMAC
  excludeSourceMAC := inbound.sharedExcludeMAC
  localBypassPort := inbound.localBypassPort
  sharedBypassPort := inbound.sharedBypassPort

end Inbound

/-- The attributes of a queued packet that the check reads. -/
structure Attribute where
  hook : Option Nat
  uid : Option UInt32
  hwAddr : Option (List UInt8)

/-- The first six bytes of a hardware address. -/
def macAddress (bytes : List UInt8) : Option MACAddress :=
  if long : 6 ≤ bytes.length then some ⟨(bytes.take 6).toArray, by simp [long]⟩ else none

variable (address : Addr)

def preMatchPrivateAddress : Bool :=
  let address := address.unmap
  let first := address.byteAt 0
  let second := address.byteAt 1
  if address.is4 then
    first == 0 || first == 10 || first == 127 || decide (first ≥ 224) || (first == 100 && second &&& 0xc0 == 0x40) ||
      (first == 169 && second == 254) || (first == 172 && second &&& 0xf0 == 0x10) || (first == 192 && second == 168)
  else first == 0xff || first &&& 0xfe == 0xfc || (first == 0xfe && second &&& 0xc0 == 0x80)

namespace Inbound

variable (inbound : Inbound)

def preMatchFakeIP (address : Addr) : Bool :=
  let address := address.unmap
  (inbound.fakeIPIPv4Prefix.isValid && address.is4 && inbound.fakeIPIPv4Prefix.contains address) ||
    (inbound.fakeIPIPv6Prefix.isValid && address.is6 && inbound.fakeIPIPv6Prefix.contains address)

def preMatchSourceSelected (address : Addr) : Bool :=
  let address := address.unmap
  if inbound.excludeSourceCIDR.any (·.contains address) then false
  else if inbound.includeSourceCIDR.isEmpty then true
  else inbound.includeSourceCIDR.any (·.contains address)

variable (attr : Attribute)

def preMatchMACSelected : Bool :=
  if inbound.sharedIncludeMAC.isEmpty && inbound.sharedExcludeMAC.isEmpty then true
  else
    match attr.hwAddr.bind macAddress with
    | none => false
    | some address =>
      if inbound.sharedExcludeMAC.contains address then false
      else if inbound.sharedIncludeMAC.isEmpty then true
      else inbound.sharedIncludeMAC.contains address

/-- The part of the check that asks who sent the packet: the UID on the local hook, the source
addresses on the shared one. -/
def preMatchSenderBypassed (isLocal : Bool) (attr : Attribute) (flow : Flow) : Bool :=
  if isLocal then
    match attr.uid with
    | none => inbound.localPolicy.includeUIDConfigured
    | some uid =>
      containsUID inbound.localPolicy.excludeUID uid ||
        (inbound.localPolicy.includeUIDConfigured && !containsUID inbound.localPolicy.includeUID uid)
  else !inbound.preMatchSourceSelected flow.source || !inbound.preMatchMACSelected attr

/-- The check for a packet of the local or the shared hook. -/
def preMatchHookBypass (isLocal : Bool) (attr : Attribute) (flow : Flow) : Bool :=
  if inbound.preMatchFakeIP flow.destination then false
  else
    let dnsMode := if isLocal then inbound.localDNSMode else inbound.sharedDNSMode
    if flow.destinationPort = 53 ∧ dnsMode = .off then true
    else if flow.destinationPort = 53 ∧ dnsMode = .hijack then false
    else if inbound.preMatchSenderBypassed isLocal attr flow then true
    else if flow.destinationPort = 53 ∧ dnsMode = .respectPolicy then false
    else if containsPort (if isLocal then inbound.localBypassPort else inbound.sharedBypassPort) flow.destinationPort then
      true
    else if inbound.preMatchHostAddresses.contains flow.destination then true
    else if inbound.localPolicy.bypassPrivateAddress && isLocal && preMatchPrivateAddress flow.destination then true
    else if inbound.sharedBypassPrivate && !isLocal && preMatchPrivateAddress flow.destination then true
    else inbound.bypassRuleSetPolicy.contains flow.destination

/-- Hook 3 is the output hook, hook 0 the one before routing. -/
def preMatchPolicyBypass (flow : Flow) : Bool :=
  match attr.hook with
  | none => true
  | some hook =>
    let isLocal := hook == 3
    if !isLocal && hook != 0 then true
    else if isLocal && !inbound.localEnabled || !isLocal && !inbound.sharedEnabled then true
    else inbound.preMatchHookBypass isLocal attr flow

end Inbound

end Ebpf

end SingBox
