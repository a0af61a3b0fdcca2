import SingBox.Common.Netip
import SingBox.Ebpf.UidPolicy
import SingBox.Lib.Mask

/-! # The compiled policy

`CompilePolicy` of `common/ebpf`: what the data planes are given of an inbound's
configuration. Prefixes become the keys of tries, ranges of ports the keys of hash maps.
`IPSetBuilder` is the interface of `netipx` that joins prefixes; the lemmas at the end say
what its use means for one address.
-/

namespace SingBox

namespace Prefix

def is4 (network : Prefix) : Bool := network.addr.any Addr.is4

/-! ## Masked prefixes -/

theorem shiftRight_shiftLeft_shiftRight {width : Nat} (value : BitVec width) (amount : Nat) :
    value >>> amount <<< amount >>> amount = value >>> amount := by
  apply BitVec.eq_of_getLsbD_eq
  intro index bound
  by_cases inside : amount + index < width
  · simp [inside]
  · have outside : value.getLsbD (amount + index) = false := BitVec.getLsbD_of_ge _ _ (by omega)
    simp [outside]

variable {network : Prefix}

/-- A proper prefix is invalid, or an address of one family with the bits for it. -/
theorem Proper.cases (proper : network.Proper) :
    network.bits = none ∨ (∃ value bits, network = ⟨some (.v4 value), some bits⟩ ∧ bits ≤ 32) ∨
      ∃ value bits, network = ⟨some (.v6 value), some bits⟩ ∧ bits ≤ 128 := by
  obtain ⟨addr, _ | bits⟩ := network
  · exact .inl rfl
  · obtain ⟨ip, isAddr, bound⟩ := proper bits rfl
    cases isAddr
    cases ip with
    | v4 value => exact .inr (.inl ⟨value, bits, rfl, bound⟩)
    | v6 value => exact .inr (.inr ⟨value, bits, rfl, bound⟩)

theorem masked_v4 {value : BitVec 32} {bits : Nat} (bound : bits ≤ 32) :
    masked ⟨some (.v4 value), some bits⟩ = ⟨some (.v4 (value >>> (32 - bits) <<< (32 - bits))), some bits⟩ :=
  if_pos bound

theorem masked_v6 {value : BitVec 128} {bits : Nat} (bound : bits ≤ 128) :
    masked ⟨some (.v6 value), some bits⟩ = ⟨some (.v6 (value >>> (128 - bits) <<< (128 - bits))), some bits⟩ :=
  if_pos bound

theorem masked_of_invalid (invalid : network.bits = none) : masked network = ⟨none, none⟩ := by
  obtain ⟨_ | _ | _, bits⟩ := network <;> cases invalid <;> rfl

theorem isValid_masked (proper : network.Proper) : network.masked.isValid = network.isValid := by
  obtain invalid | ⟨value, bits, rfl, bound⟩ | ⟨value, bits, rfl, bound⟩ := proper.cases
  · simp [masked_of_invalid invalid, isValid, invalid]
  · simp [masked_v4 bound, isValid]
  · simp [masked_v6 bound, isValid]

theorem masked_cases (network : Prefix) :
    network.masked = ⟨none, none⟩ ∨
      (∃ (value : BitVec 32) (bits : Nat), bits ≤ 32 ∧
        network.masked = ⟨some (.v4 (value >>> (32 - bits) <<< (32 - bits))), some bits⟩) ∨
      ∃ (value : BitVec 128) (bits : Nat), bits ≤ 128 ∧
        network.masked = ⟨some (.v6 (value >>> (128 - bits) <<< (128 - bits))), some bits⟩ := by
  unfold masked
  split
  · rename_i value bits _ _
    by_cases bound : bits ≤ 32
    · exact .inr (.inl ⟨value, bits, bound, if_pos bound⟩)
    · exact .inl (if_neg bound)
  · rename_i value bits _ _
    by_cases bound : bits ≤ 128
    · exact .inr (.inr ⟨value, bits, bound, if_pos bound⟩)
    · exact .inl (if_neg bound)
  · exact .inl rfl

theorem masked_proper (network : Prefix) : network.masked.Proper := by
  obtain isMasked | ⟨value, bits, bound, isMasked⟩ | ⟨value, bits, bound, isMasked⟩ := masked_cases network
  · rw [isMasked]
    rintro _ ⟨⟩
  · rw [isMasked]
    rintro _ ⟨⟩
    exact ⟨_, rfl, bound⟩
  · rw [isMasked]
    rintro _ ⟨⟩
    exact ⟨_, rfl, bound⟩

theorem masked_masked (network : Prefix) : network.masked.masked = network.masked := by
  obtain isMasked | ⟨value, bits, bound, isMasked⟩ | ⟨value, bits, bound, isMasked⟩ := masked_cases network
  · rw [isMasked]
    rfl
  · rw [isMasked, masked_v4 bound, shiftRight_shiftLeft_shiftRight]
  · rw [isMasked, masked_v6 bound, shiftRight_shiftLeft_shiftRight]

theorem ofAddr_proper (addr : Option Addr) (bits : Nat) : (ofAddr addr bits).Proper := by
  intro length isBits
  cases addr with
  | none => cases isBits
  | some ip =>
    simp only [ofAddr] at isBits ⊢
    split at isBits
    · rename_i bound
      cases isBits
      exact ⟨ip, rfl, bound⟩
    · cases isBits

theorem contains_self {ip : Addr} (valid : network.isValid) (isAddr : network.addr = some ip) :
    network.contains ip := by
  obtain ⟨_ | addr, _ | bits⟩ := network <;> cases isAddr
  · cases valid
  · simp [contains]

theorem is4_of_contains {ip addr : Addr} (contains : network.contains ip)
    (isAddr : network.addr = some addr) : addr.is4 = ip.is4 := by
  obtain ⟨_ | _, _ | bits⟩ := network <;> cases isAddr
  · cases contains
  · simp only [Prefix.contains, Bool.and_eq_true, beq_iff_eq] at contains
    exact contains.1

end Prefix

namespace Ebpf

open Lib.Lpm Lib.Guard

/-! ## Configuration -/

inductive DNSMode where
  | hijack
  | respectPolicy
  | off
deriving DecidableEq, Repr

inductive Transport where
  | tcp
  | udp
deriving DecidableEq, Repr

structure PortRange where
  start : UInt16
  stop : UInt16
deriving DecidableEq, Repr

structure PortKey where
  protocol : Transport
  port : UInt16
deriving DecidableEq, Repr

abbrev MACAddress := Vector UInt8 6

structure LocalPolicy extends LocalUIDPolicy where
  dnsMode : DNSMode := .hijack
  bypassPrivateAddress : Bool := false
deriving DecidableEq, Repr

structure PolicyConfig where
  enableTCP : Bool
  enableUDP : Bool
  «local» : LocalPolicy
  sharedDNSMode : DNSMode
  sharedBypassPrivate : Bool
  fakeIPIPv4 : Prefix
  fakeIPIPv6 : Prefix
  forceInterceptIPv4 : List Prefix
  forceInterceptIPv6 : List Prefix
  includeSourceCIDR : List Prefix
  excludeSourceCIDR : List Prefix
  includeSourceMAC : List MACAddress
  excludeSourceMAC : List MACAddress
  localBypassPort : List PortRange
  sharedBypassPort : List PortRange

structure BypassCIDRPolicy where
  ipv4 : List Prefix := []
  ipv6 : List Prefix := []
deriving DecidableEq, Repr

structure CompiledPolicy where
  «local» : LocalPolicy
  uidEntries : List (Key 32)
  uidDefaultBypass : Bool
  sharedDNSMode : DNSMode
  sharedBypassPrivate : Bool
  fakeIPIPv4 : Prefix
  fakeIPIPv6 : Prefix
  mustInterceptIPv4 : List Prefix
  mustInterceptIPv6 : List Prefix
  includeSource : BypassCIDRPolicy
  excludeSource : BypassCIDRPolicy
  includeSourceMAC : List MACAddress
  excludeSourceMAC : List MACAddress
  localBypassPortEntries : List PortKey
  sharedBypassPortEntries : List PortKey

/-! ## Prefixes -/

/-- Two lists of prefixes that hold the same addresses. -/
def SameAddresses (first second : List Prefix) : Prop :=
  ∀ ip : Addr, (∃ network ∈ first, network.contains ip) ↔ ∃ network ∈ second, network.contains ip

/-- `netipx.IPSetBuilder`: the prefixes added, then `IPSet().Prefixes()`, which is documented
as the minimal set of prefixes that covers the set. -/
structure IPSetBuilder where
  prefixes : List Prefix → List Prefix
  valid : ∀ added, ∀ network ∈ prefixes added, network.isValid ∧ network.Proper
  covers : ∀ added, (∀ network ∈ added, network.Proper) → SameAddresses (prefixes added) added
  minimal : ∀ added other, (∀ network ∈ added, network.Proper) → (∀ network ∈ other, network.Proper) →
    SameAddresses other added → (prefixes added).length ≤ other.length

/-- The prefix of IPv4 addresses that a prefix of IPv4-mapped ones stands for; any other
prefix masked. `normalizeSourceCIDR` and `compileBypassCIDRPolicy` both do this. -/
def unmapPrefix (network : Prefix) : Prefix :=
  let network := network.masked
  match network.addr, network.bits with
  | some addr, some bits =>
    if addr.is4In6 ∧ 96 ≤ bits then (Prefix.ofAddr (some addr.unmap) (bits - 96)).masked else network
  | _, _ => network

variable (builder : IPSetBuilder)

/-- Adding a valid prefix never fails, so neither does `IPSet`. -/
def compileBypassCIDRPolicy (prefixes : List Prefix) : BypassCIDRPolicy :=
  let added := (prefixes.filter Prefix.isValid).map unmapPrefix
  { ipv4 := builder.prefixes (added.filter Prefix.is4)
    ipv6 := builder.prefixes (added.filter fun network => !network.is4) }

def BypassCIDRPolicy.contains (policy : BypassCIDRPolicy) (address : Addr) : Bool :=
  match address.unmap with
  | .v4 value => policy.ipv4.any fun network => network.contains (.v4 value)
  | .v6 value => policy.ipv6.any fun network => network.contains (.v6 value)

def invalidPrefix : Prefix := ⟨none, none⟩

/-- The texts of errors leave out the prefix. -/
def normalizeAddressPrefix (name : String) (network : Prefix) (ipv4 : Bool) : Except String Prefix :=
  if network.isValid = false then .ok invalidPrefix
  else
    let network := network.masked
    if network.is4 ≠ ipv4 ∨ network.addr.any Addr.is4In6 then .error ("invalid " ++ name) else .ok network

def maxMustInterceptPolicyEntries : Nat := 1024

/-- The loop of `compileMustInterceptPrefixes`. -/
def addMustIntercept (family : String) (ipv4 : Bool) : List Prefix → List Prefix → Except String (List Prefix)
  | prefixes, [] => .ok prefixes
  | prefixes, network :: explicit => do
    let normalized ← normalizeAddressPrefix (family ++ " bypass_exclude prefix") network ipv4
    if normalized ∈ prefixes then addMustIntercept family ipv4 prefixes explicit
    else addMustIntercept family ipv4 (prefixes ++ [normalized]) explicit

def compileMustInterceptPrefixes (family : String) (fakeIP : Prefix) (explicit : List Prefix) (ipv4 : Bool) :
    Except String (List Prefix) := do
  let prefixes ← addMustIntercept family ipv4 (if fakeIP.isValid then [fakeIP] else []) explicit
  ensure (prefixes.length ≤ maxMustInterceptPolicyEntries)
    (family ++ " must-intercept configuration has " ++ toString prefixes.length ++
      " prefixes, more than the eBPF map holds (" ++ toString maxMustInterceptPolicyEntries ++ ")")
  return prefixes

/-! ## Ports -/

def tcPortPolicyCapacity : Nat := 4096

variable (ranges : List PortRange)

def containsPort (port : UInt16) : Bool :=
  ranges.any fun range => decide (range.start ≤ port ∧ port ≤ range.stop)

variable (enableTCP enableUDP : Bool)

def portKeys (port : Nat) : List PortKey :=
  (if enableTCP then [⟨.tcp, UInt16.ofNat port⟩] else []) ++ if enableUDP then [⟨.udp, UInt16.ofNat port⟩] else []

/-- The keys of a range are added port by port; the capacity is looked at after each port,
which is exceeded at some port of the range if it is at the last. -/
def compilePortPolicyFrom (enableTCP enableUDP : Bool) : List PortKey → List PortRange → Except String (List PortKey)
  | entries, [] => .ok entries
  | entries, range :: ranges => do
    ensure (range.start ≠ 0 ∧ range.start ≤ range.stop) "invalid eBPF port bypass range"
    let entries := entries ++
      (List.range' range.start.toNat (range.stop.toNat + 1 - range.start.toNat)).flatMap (portKeys enableTCP enableUDP)
    ensure (entries.length ≤ tcPortPolicyCapacity) "eBPF port bypass policy exceeds map capacity"
    compilePortPolicyFrom enableTCP enableUDP entries ranges

def compilePortPolicy : Except String (List PortKey) :=
  compilePortPolicyFrom enableTCP enableUDP [] ranges

/-! ## Compilation -/

def maxSharedSourceCIDRPolicyEntries : Nat := 4096

def maxSharedSourceMACPolicyEntries : Nat := 1024

def cause {α : Type} (message : String) : Except String α → Except String α :=
  Except.mapError fun inner => message ++ ": " ++ inner

def compilePolicy (config : PolicyConfig) : Except String CompiledPolicy := do
  let (uidEntries, uidDefaultBypass) ← compileUIDPolicy config.local.toLocalUIDPolicy
  let fakeIPIPv4 ← normalizeAddressPrefix "IPv4 FakeIP range" config.fakeIPIPv4 true
  let fakeIPIPv6 ← normalizeAddressPrefix "IPv6 FakeIP range" config.fakeIPIPv6 false
  let mustInterceptIPv4 ← compileMustInterceptPrefixes "IPv4" fakeIPIPv4 config.forceInterceptIPv4 true
  let mustInterceptIPv6 ← compileMustInterceptPrefixes "IPv6" fakeIPIPv6 config.forceInterceptIPv6 false
  let includeSource := compileBypassCIDRPolicy builder config.includeSourceCIDR
  let excludeSource := compileBypassCIDRPolicy builder config.excludeSourceCIDR
  ensure (includeSource.ipv4.length ≤ maxSharedSourceCIDRPolicyEntries ∧
      includeSource.ipv6.length ≤ maxSharedSourceCIDRPolicyEntries ∧
      excludeSource.ipv4.length ≤ maxSharedSourceCIDRPolicyEntries ∧
      excludeSource.ipv6.length ≤ maxSharedSourceCIDRPolicyEntries)
    "eBPF source CIDR policy exceeds map capacity"
  ensure (config.includeSourceMAC.length ≤ maxSharedSourceMACPolicyEntries ∧
      config.excludeSourceMAC.length ≤ maxSharedSourceMACPolicyEntries)
    "eBPF source MAC policy exceeds map capacity"
  let localBypassPortEntries ← cause "compile local eBPF port bypass policy"
    (compilePortPolicy config.localBypassPort config.enableTCP config.enableUDP)
  let sharedBypassPortEntries ← cause "compile shared eBPF port bypass policy"
    (compilePortPolicy config.sharedBypassPort config.enableTCP config.enableUDP)
  return { «local» := config.local, uidEntries, uidDefaultBypass, sharedDNSMode := config.sharedDNSMode
           sharedBypassPrivate := config.sharedBypassPrivate, fakeIPIPv4, fakeIPIPv6, mustInterceptIPv4
           mustInterceptIPv6, includeSource, excludeSource, includeSourceMAC := config.includeSourceMAC
           excludeSourceMAC := config.excludeSourceMAC, localBypassPortEntries, sharedBypassPortEntries }

/-- What it means that a configuration compiles to a policy. -/
structure Compiles (builder : IPSetBuilder) (config : PolicyConfig) (policy : CompiledPolicy) : Prop where
  uid : compileUIDPolicy config.local.toLocalUIDPolicy = .ok (policy.uidEntries, policy.uidDefaultBypass)
  fakeIPIPv4 : normalizeAddressPrefix "IPv4 FakeIP range" config.fakeIPIPv4 true = .ok policy.fakeIPIPv4
  fakeIPIPv6 : normalizeAddressPrefix "IPv6 FakeIP range" config.fakeIPIPv6 false = .ok policy.fakeIPIPv6
  mustInterceptIPv4 : compileMustInterceptPrefixes "IPv4" policy.fakeIPIPv4 config.forceInterceptIPv4 true =
    .ok policy.mustInterceptIPv4
  mustInterceptIPv6 : compileMustInterceptPrefixes "IPv6" policy.fakeIPIPv6 config.forceInterceptIPv6 false =
    .ok policy.mustInterceptIPv6
  includeSource : policy.includeSource = compileBypassCIDRPolicy builder config.includeSourceCIDR
  excludeSource : policy.excludeSource = compileBypassCIDRPolicy builder config.excludeSourceCIDR
  sourcesFit : policy.includeSource.ipv4.length ≤ maxSharedSourceCIDRPolicyEntries ∧
    policy.includeSource.ipv6.length ≤ maxSharedSourceCIDRPolicyEntries ∧
    policy.excludeSource.ipv4.length ≤ maxSharedSourceCIDRPolicyEntries ∧
    policy.excludeSource.ipv6.length ≤ maxSharedSourceCIDRPolicyEntries
  macsFit : policy.includeSourceMAC.length ≤ maxSharedSourceMACPolicyEntries ∧
    policy.excludeSourceMAC.length ≤ maxSharedSourceMACPolicyEntries
  localPorts : compilePortPolicy config.localBypassPort config.enableTCP config.enableUDP =
    .ok policy.localBypassPortEntries
  sharedPorts : compilePortPolicy config.sharedBypassPort config.enableTCP config.enableUDP =
    .ok policy.sharedBypassPortEntries
  local_eq : policy.local = config.local
  sharedDNSMode_eq : policy.sharedDNSMode = config.sharedDNSMode
  sharedBypassPrivate_eq : policy.sharedBypassPrivate = config.sharedBypassPrivate
  includeSourceMAC_eq : policy.includeSourceMAC = config.includeSourceMAC
  excludeSourceMAC_eq : policy.excludeSourceMAC = config.excludeSourceMAC

theorem compilePolicy_eq_ok {builder : IPSetBuilder} {config : PolicyConfig} {policy : CompiledPolicy} :
    compilePolicy builder config = .ok policy ↔ Compiles builder config policy := by
  simp only [compilePolicy, cause, bind_eq_ok, ensure_eq_ok, pure_eq_ok, mapError_eq_ok, Prod.exists]
  constructor
  · rintro ⟨_, _, uid, _, fakeIPIPv4, _, fakeIPIPv6, _, mustInterceptIPv4, _, mustInterceptIPv6, _, sourcesFit, _, macsFit,
      _, localPorts, _, sharedPorts, rfl⟩
    exact ⟨uid, fakeIPIPv4, fakeIPIPv6, mustInterceptIPv4, mustInterceptIPv6, rfl, rfl, sourcesFit, macsFit, localPorts,
      sharedPorts, rfl, rfl, rfl, rfl, rfl⟩
  · intro compiles
    have sourcesFit := compiles.sourcesFit
    have macsFit := compiles.macsFit
    rw [compiles.includeSource, compiles.excludeSource] at sourcesFit
    rw [compiles.includeSourceMAC_eq, compiles.excludeSourceMAC_eq] at macsFit
    refine ⟨_, _, compiles.uid, _, compiles.fakeIPIPv4, _, compiles.fakeIPIPv6, _, compiles.mustInterceptIPv4, _,
      compiles.mustInterceptIPv6, (), sourcesFit, (), macsFit, _, compiles.localPorts, _, compiles.sharedPorts, ?_⟩
    obtain ⟨_, _, _, _, _, includeSource, excludeSource, _, _, _, _, local_eq, mode_eq, private_eq, include_eq,
      exclude_eq⟩ := compiles
    rw [← includeSource, ← excludeSource, ← local_eq, ← mode_eq, ← private_eq, ← include_eq, ← exclude_eq]

/-- `compileHostAddresses`: the addresses of each family, unmapped, each once. -/
def compileHostAddresses (addresses : List Addr) : List (BitVec 32) × List (BitVec 128) :=
  let unmapped := addresses.map Addr.unmap
  ((unmapped.filterMap fun | .v4 value => some value | .v6 _ => none).eraseDups.insertionSort (· ≤ ·),
    (unmapped.filterMap fun | .v4 _ => none | .v6 value => some value).eraseDups.insertionSort (· ≤ ·))

end Ebpf

end SingBox
