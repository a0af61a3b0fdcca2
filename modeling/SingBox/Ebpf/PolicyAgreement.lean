import SingBox.Ebpf.PolicyFacts

/-! # `pre_match` against the TC program

Both sides decide by one rule, `Facts.selected`, on what they find out about a packet. A
deployment is an inbound whose configuration was accepted, with the TC program whose maps were
filled from it. What the two find out is the same, except in two cases:

* `pre_match` looks at the IPv4 address in an IPv4-mapped IPv6 address, the TC program at the
  address as it is in the packet;
* included UIDs without `IncludeUIDConfigured` bypass the other UIDs in the TC program only.

Outside these cases, and where a packet is decided before they matter, the two agree in every
deployment (`agrees_of_agreeable`, `agrees_of_decidedFirst`).
-/

namespace SingBox.Ebpf

open Lib.Lpm Lib.Guard Lib.Mask Inbound List Bool

/-! ## The rule -/

/-- What is found out about a packet. -/
structure Facts where
  mustIntercept : Bool
  isDNS : Bool
  dnsMode : DNSMode
  senderBypassed : Bool
  portBypassed : Bool
  hostDestination : Bool
  privateBypassed : Bool
  cidrBypassed : Bool

/-- The rule: destinations that must be intercepted come first, then DNS by its mode, then the
sender, then the destination. -/
def Facts.selected (facts : Facts) : Bool :=
  facts.mustIntercept ||
    match facts.isDNS, facts.dnsMode with
    | true, .off => false
    | true, .hijack => true
    | true, .respectPolicy => !facts.senderBypassed
    | false, _ =>
      !facts.senderBypassed && !facts.portBypassed && !facts.hostDestination && !facts.privateBypassed &&
        !facts.cidrBypassed

/-- What `pre_match` finds out. -/
def Inbound.facts (inbound : Inbound) (isLocal : Bool) (attr : Attribute) (flow : Flow) : Facts where
  mustIntercept := inbound.preMatchFakeIP flow.destination
  isDNS := flow.destinationPort == 53
  dnsMode := if isLocal then inbound.localDNSMode else inbound.sharedDNSMode
  senderBypassed := inbound.preMatchSenderBypassed isLocal attr flow
  portBypassed := containsPort (if isLocal then inbound.localBypassPort else inbound.sharedBypassPort) flow.destinationPort
  hostDestination := inbound.preMatchHostAddresses.contains flow.destination
  privateBypassed :=
    (if isLocal then inbound.localPolicy.bypassPrivateAddress else inbound.sharedBypassPrivate) &&
      preMatchPrivateAddress flow.destination
  cidrBypassed := inbound.bypassRuleSetPolicy.contains flow.destination

variable (inbound : Inbound)

theorem Inbound.preMatchHookBypass_eq (isLocal : Bool) (attr : Attribute) (flow : Flow) :
    inbound.preMatchHookBypass isLocal attr flow = !(inbound.facts isLocal attr flow).selected := by
  unfold preMatchHookBypass Facts.selected facts
  cases inbound.preMatchFakeIP flow.destination with
  | true => rfl
  | false =>
    by_cases dns : flow.destinationPort = 53
    · generalize (if isLocal then inbound.localDNSMode else inbound.sharedDNSMode) = mode
      cases mode <;> simp [dns]
    · have notDNS : (flow.destinationPort == 53) = false := beq_eq_false_iff_ne.mpr dns
      cases isLocal <;> simp [dns, notDNS, Bool.or_assoc]

variable (backend : TCBackend)

/-- What the TC program finds out, but for the sender. -/
def TCBackend.facts (shared : Bool) (senderBypassed : Bool) (flow : Flow) : Facts where
  mustIntercept := backend.mustInterceptDestination flow
  isDNS := flow.destinationPort == 53
  dnsMode := if shared then backend.control.sharedDNSMode else backend.control.localDNSMode
  senderBypassed
  portBypassed := backend.portBypassed flow shared
  hostDestination := backend.hostDestination flow
  privateBypassed :=
    backend.control.has (if shared then .sharedBypassPrivate else .localBypassPrivate) &&
      TCBackend.privateDestination flow
  cidrBypassed := backend.bypassDestination flow

theorem TCBackend.localSelected_eq (flow : Flow) (uid : UInt32) :
    backend.localSelected flow uid 0 = (backend.facts false (backend.uidBypassed uid) flow).selected := by
  unfold localSelected Facts.selected facts
  cases backend.mustInterceptDestination flow with
  | true => rfl
  | false =>
    by_cases dns : flow.destinationPort = 53
    · cases backend.control.localDNSMode <;> simp [dns, dnsBypassed, dnsSelected]
    · have notDNS : (flow.destinationPort == 53) = false := beq_eq_false_iff_ne.mpr dns
      simp [dns, notDNS, dnsBypassed, dnsSelected, Bool.and_assoc]

theorem TCBackend.sharedSelected_eq (flow : Flow) (sourceMAC : MACAddress) :
    backend.sharedSelected flow sourceMAC =
      (backend.facts true (!backend.sourceAddressSelected flow || !backend.sourceMACSelected sourceMAC) flow).selected := by
  unfold sharedSelected Facts.selected facts
  cases backend.mustInterceptDestination flow with
  | true => rfl
  | false =>
    by_cases dns : flow.destinationPort = 53
    · cases backend.control.sharedDNSMode <;> simp [dns, dnsBypassed, dnsSelected]
    · have notDNS : (flow.destinationPort == 53) = false := beq_eq_false_iff_ne.mpr dns
      simp [dns, notDNS, dnsBypassed, dnsSelected, Bool.and_assoc]

/-! ## Deployments -/

/-- An inbound whose configuration was accepted, its policies compiled, and the TC program
filled from them, with the same host addresses and the same bypass policy installed. -/
structure Deployment (builder : IPSetBuilder) where
  inbound : Inbound
  fakeIPIPv4 : ∃ raw,
    normalizeFakeIPPrefix "IPv4" raw true fakeIPSafetyIPv4Prefixes = .ok inbound.fakeIPIPv4Prefix
  fakeIPIPv6 : ∃ raw,
    normalizeFakeIPPrefix "IPv6" raw false fakeIPSafetyIPv6Prefixes = .ok inbound.fakeIPIPv6Prefix
  includeSource : ∃ raw : List Prefix, (∀ network ∈ raw, network.Proper) ∧
    normalizeSourceCIDR "include_source_cidr" raw = .ok inbound.includeSourceCIDR
  excludeSource : ∃ raw : List Prefix, (∀ network ∈ raw, network.Proper) ∧
    normalizeSourceCIDR "exclude_source_cidr" raw = .ok inbound.excludeSourceCIDR
  hosts : ∃ addresses, inbound.preMatchHostAddresses = collectHostAddresses addresses
  ruleSets : ∃ prefixes, inbound.bypassRuleSetPolicy = compileBypassCIDRPolicy builder prefixes
  config : TCConfig
  compiled : compilePolicy builder inbound.policyConfig = .ok config.policy
  backend : TCBackend
  installed : ((newTCBackend config).updateHostAddresses inbound.preMatchHostAddresses >>= fun backend =>
    backend.updateCompiledBypassCIDR inbound.bypassRuleSetPolicy) = .ok backend

/-! ## What the flags say -/

/-- What each flag says about the policy and what is installed. -/
def expectedFlag (policy : CompiledPolicy) (config : TCConfig) (hosts : List (BitVec 32) × List (BitVec 128))
    (bypass : BypassCIDRPolicy) : TcFlag → Bool
  | .ipv4 => config.enableIPv4
  | .localIPv6 => config.enableLocalIPv6
  | .tcp => config.enableTCP
  | .udp => config.enableUDP
  | .uidPolicy => !policy.uidEntries.isEmpty || policy.uidDefaultBypass
  | .uidDefaultBypass => policy.uidDefaultBypass
  | .localBypassPrivate => policy.local.bypassPrivateAddress
  | .sharedBypassPrivate => policy.sharedBypassPrivate
  | .bypassIPv4 => !bypass.ipv4.isEmpty
  | .bypassIPv6 => !bypass.ipv6.isEmpty
  | .mustInterceptIPv4 => !policy.mustInterceptIPv4.isEmpty
  | .mustInterceptIPv6 => !policy.mustInterceptIPv6.isEmpty
  | .includeSource => !policy.includeSource.isEmpty
  | .excludeSource => !policy.excludeSource.isEmpty
  | .includeSourceMAC => !policy.includeSourceMAC.isEmpty
  | .excludeSourceMAC => !policy.excludeSourceMAC.isEmpty
  | .hostIPv4 => !hosts.1.isEmpty
  | .hostIPv6 => !hosts.2.isEmpty
  | .sharedIPv6 => config.enableSharedIPv6
  | .localBypassPort => !policy.localBypassPortEntries.isEmpty
  | .sharedBypassPort => !policy.sharedBypassPortEntries.isEmpty

theorem TcFlag.bit_lt (flag : TcFlag) : flag.bit < 32 := by
  cases flag <;> decide

theorem TcFlag.bit_inj {first second : TcFlag} (same : first.bit = second.bit) : first = second := by
  cases first <;> cases second <;> first | rfl | cases same

theorem hasFlag_setFlag (flags : BitVec 32) (on : Bool) (flag other : TcFlag) :
    hasFlag (setFlag flags on flag) other.bit = if flag = other then on else hasFlag flags other.bit := by
  have distinct : flag.bit = other.bit ↔ flag = other := ⟨TcFlag.bit_inj, congrArg TcFlag.bit⟩
  cases on with
  | true =>
    rw [setFlag, if_pos rfl, hasFlag_withFlag other.bit_lt]
    by_cases same : flag = other <;> simp [distinct, same]
  | false =>
    rw [setFlag, if_neg Bool.false_ne_true, hasFlag_withoutFlag other.bit_lt]
    by_cases same : flag = other <;> simp [distinct, same]

namespace Deployment

variable {builder : IPSetBuilder} (deployment : Deployment builder)

/-- The maps and flags of the program, one by one. -/
structure Filled (config : TCConfig) (inbound : Inbound) (backend : TCBackend) : Prop where
  flag : ∀ flag, backend.control.has flag = expectedFlag config.policy config
    (compileHostAddresses inbound.preMatchHostAddresses) inbound.bypassRuleSetPolicy flag
  modes : backend.control.localDNSMode = config.policy.local.dnsMode ∧
    backend.control.sharedDNSMode = config.policy.sharedDNSMode
  maps : backend.maps = { (newTCBackend config).maps with
    hostIPv4 := (compileHostAddresses inbound.preMatchHostAddresses).1
    hostIPv6 := (compileHostAddresses inbound.preMatchHostAddresses).2
    bypassIPv4 := cidrKeys4 inbound.bypassRuleSetPolicy.ipv4
    bypassIPv6 := cidrKeys6 inbound.bypassRuleSetPolicy.ipv6 }

theorem hasFlag_tcFlags (config : TCConfig) (flag : TcFlag) :
    hasFlag (tcFlags config) flag.bit = expectedFlag config.policy config ([], []) {} flag := by
  cases flag <;> simp [tcFlags, expectedFlag, TcFlag.bit]

theorem filled_of_installed {config : TCConfig} {inbound : Inbound} {backend : TCBackend}
    (installed : ((newTCBackend config).updateHostAddresses inbound.preMatchHostAddresses >>= fun backend =>
      backend.updateCompiledBypassCIDR inbound.bypassRuleSetPolicy) = .ok backend) : Filled config inbound backend := by
  simp only [TCBackend.updateHostAddresses, TCBackend.updateCompiledBypassCIDR, bind_eq_ok, ensure_eq_ok,
    pure_eq_ok] at installed
  obtain ⟨_, ⟨_, -, rfl⟩, _, -, rfl⟩ := installed
  refine ⟨fun flag => ?_, ⟨rfl, rfl⟩, rfl⟩
  simp only [TcControl.has, hasFlag_setFlag, newTCBackend, hasFlag_tcFlags]
  cases flag <;> rfl

theorem filled : Filled deployment.config deployment.inbound deployment.backend :=
  filled_of_installed deployment.installed

theorem compiles : Compiles builder deployment.inbound.policyConfig deployment.config.policy :=
  compilePolicy_eq_ok.mp deployment.compiled

/-! ## What the TC program finds out -/

/-- A flag in front of a search that finds nothing where the flag is not set. -/
theorem gate_eq {flag search : Bool} (nothing : flag = false → search = false) :
    (if flag then search else false) = search := by
  cases flag with
  | false => exact (nothing rfl).symm
  | true => rfl

theorem eq_nil_of_unset {α : Type} {entries : List α} (unset : (!entries.isEmpty) = false) : entries = [] := by
  simpa using unset

/-- Whether a FakeIP range holds an address, taken as it is. -/
def fakeIPHolds (inbound : Inbound) : Addr → Bool
  | .v4 value => inbound.fakeIPIPv4Prefix.isValid && inbound.fakeIPIPv4Prefix.contains (.v4 value)
  | .v6 value => inbound.fakeIPIPv6Prefix.isValid && inbound.fakeIPIPv6Prefix.contains (.v6 value)

section
variable (plain : deployment.inbound.bypassExcludeIPv4 = [] ∧ deployment.inbound.bypassExcludeIPv6 = [])
include plain

theorem hasNoForce :
    deployment.config.policy.mustInterceptIPv4 =
        (if deployment.inbound.fakeIPIPv4Prefix.isValid then [deployment.inbound.fakeIPIPv4Prefix] else []) ∧
      deployment.config.policy.mustInterceptIPv6 =
        if deployment.inbound.fakeIPIPv6Prefix.isValid then [deployment.inbound.fakeIPIPv6Prefix] else [] := by
  obtain ⟨raw4, normalizes4⟩ := deployment.fakeIPIPv4
  obtain ⟨raw6, normalizes6⟩ := deployment.fakeIPIPv6
  have compiles := deployment.compiles
  constructor
  · have isCompiled := compiles.mustInterceptIPv4
    rw [policyConfig, plain.1] at isCompiled
    exact compileMustIntercept_fakeIP (normalizeFakeIPPrefix_normal normalizes4) compiles.fakeIPIPv4 isCompiled
  · have isCompiled := compiles.mustInterceptIPv6
    rw [policyConfig, plain.2] at isCompiled
    exact compileMustIntercept_fakeIP (normalizeFakeIPPrefix_normal normalizes6) compiles.fakeIPIPv6 isCompiled

theorem mustInterceptDestination_eq (flow : Flow) :
    deployment.backend.mustInterceptDestination flow = fakeIPHolds deployment.inbound flow.destination := by
  obtain ⟨isList4, isList6⟩ := deployment.hasNoForce plain
  unfold TCBackend.mustInterceptDestination
  rw [deployment.filled.flag, deployment.filled.flag, deployment.filled.maps]
  cases flow.destination with
  | v4 value =>
    refine (gate_eq fun unset => ?_).trans ?_
    · simp [newTCBackend, found_cidrKeys4, eq_nil_of_unset unset]
    · simp only [newTCBackend, found_cidrKeys4, isList4, fakeIPHolds]
      cases deployment.inbound.fakeIPIPv4Prefix.isValid <;> simp
  | v6 value =>
    refine (gate_eq fun unset => ?_).trans ?_
    · simp [newTCBackend, found_cidrKeys6, eq_nil_of_unset unset]
    · simp only [newTCBackend, found_cidrKeys6, isList6, fakeIPHolds]
      cases deployment.inbound.fakeIPIPv6Prefix.isValid <;> simp

end

theorem preMatchFakeIP_eq (addr : Addr) : inbound.preMatchFakeIP addr = fakeIPHolds inbound addr.unmap := by
  unfold preMatchFakeIP
  cases addr.unmap <;> simp [fakeIPHolds, Addr.is4, Addr.is6]

theorem uidBypassed_eq (uid : UInt32) :
    deployment.backend.uidBypassed uid =
      (containsUID deployment.inbound.localPolicy.excludeUID uid ||
        (deployment.inbound.localPolicy.defaultBypass && !containsUID deployment.inbound.localPolicy.includeUID uid)) := by
  refine Eq.trans ?_ (compileUIDPolicy_bypassed deployment.compiles.uid uid)
  unfold TCBackend.uidBypassed
  rw [deployment.filled.flag, deployment.filled.flag, deployment.filled.maps]
  refine gate_eq fun unset => ?_
  obtain ⟨noEntries, noDefault⟩ := or_eq_false_iff.mp unset
  simp only [newTCBackend, expectedFlag, noDefault, eq_nil_of_unset noEntries]
  rfl

variable (flow : Flow)

theorem portBypassed_eq (shared : Bool)
    (enabled : flow.protocol.enabled deployment.inbound.enableTCP deployment.inbound.enableUDP) :
    deployment.backend.portBypassed flow shared =
      containsPort (if shared then deployment.inbound.sharedBypassPort else deployment.inbound.localBypassPort)
        flow.destinationPort := by
  have compiles := deployment.compiles
  unfold TCBackend.portBypassed
  rw [deployment.filled.flag, deployment.filled.maps]
  cases shared with
  | true =>
    refine (gate_eq fun unset => ?_).trans (contains_compilePortPolicy compiles.sharedPorts enabled flow.destinationPort)
    simp [newTCBackend, eq_nil_of_unset unset]
  | false =>
    refine (gate_eq fun unset => ?_).trans (contains_compilePortPolicy compiles.localPorts enabled flow.destinationPort)
    simp [newTCBackend, eq_nil_of_unset unset]

theorem hostDestination_eq :
    deployment.backend.hostDestination flow = deployment.inbound.preMatchHostAddresses.contains flow.destination := by
  obtain ⟨addresses, isHosts⟩ := deployment.hosts
  have unmapped := collectHostAddresses_unmap addresses
  unfold TCBackend.hostDestination
  rw [deployment.filled.flag, deployment.filled.flag, deployment.filled.maps]
  cases flow.destination with
  | v4 value =>
    refine (gate_eq fun unset => ?_).trans ?_
    · simp [eq_nil_of_unset unset]
    · rw [Bool.eq_iff_iff, contains_iff_mem, contains_iff_mem, mem_compileHostAddresses.1, isHosts, unmapped]
  | v6 value =>
    refine (gate_eq fun unset => ?_).trans ?_
    · simp [eq_nil_of_unset unset]
    · rw [Bool.eq_iff_iff, contains_iff_mem, contains_iff_mem, mem_compileHostAddresses.2, isHosts, unmapped]

theorem bypassDestination_eq :
    deployment.backend.bypassDestination flow = deployment.inbound.bypassRuleSetPolicy.holds flow.destination := by
  unfold TCBackend.bypassDestination
  rw [deployment.filled.flag, deployment.filled.flag, deployment.filled.maps]
  cases flow.destination with
  | v4 value =>
    refine (gate_eq fun unset => ?_).trans (found_cidrKeys4 _ value)
    simp [found_cidrKeys4, eq_nil_of_unset unset]
  | v6 value =>
    refine (gate_eq fun unset => ?_).trans (found_cidrKeys6 _ value)
    simp [found_cidrKeys6, eq_nil_of_unset unset]

/-- Whether the source prefixes select an address, taken as it is. -/
def sourceSelected (inbound : Inbound) (address : Addr) : Bool :=
  !inbound.excludeSourceCIDR.any (·.contains address) &&
    (inbound.includeSourceCIDR.isEmpty || inbound.includeSourceCIDR.any (·.contains address))

theorem preMatchSourceSelected_eq (addr : Addr) :
    inbound.preMatchSourceSelected addr = sourceSelected inbound addr.unmap := by
  simp only [preMatchSourceSelected, sourceSelected]
  generalize inbound.excludeSourceCIDR.any (·.contains addr.unmap) = excluded
  generalize inbound.includeSourceCIDR.any (·.contains addr.unmap) = included
  cases excluded <;> cases inbound.includeSourceCIDR.isEmpty <;> rfl

theorem normalSources :
    NormalSources deployment.inbound.includeSourceCIDR ∧ NormalSources deployment.inbound.excludeSourceCIDR := by
  obtain ⟨rawInclude, properInclude, normalizesInclude⟩ := deployment.includeSource
  obtain ⟨rawExclude, properExclude, normalizesExclude⟩ := deployment.excludeSource
  exact ⟨normalizeSourceCIDR_normal properInclude normalizesInclude,
    normalizeSourceCIDR_normal properExclude normalizesExclude⟩

theorem sourceAddressSelected_eq :
    deployment.backend.sourceAddressSelected flow = sourceSelected deployment.inbound flow.source := by
  obtain ⟨normalInclude, normalExclude⟩ := deployment.normalSources
  have compiles := deployment.compiles
  -- an empty list of excluded prefixes holds nothing, so its flag is not needed
  have excludeGate (ip : Addr) : (!deployment.inbound.excludeSourceCIDR.isEmpty &&
      deployment.inbound.excludeSourceCIDR.any (·.contains ip)) = deployment.inbound.excludeSourceCIDR.any (·.contains ip) := by
    cases deployment.inbound.excludeSourceCIDR <;> rfl
  unfold TCBackend.sourceAddressSelected sourceSelected
  rw [deployment.filled.flag, deployment.filled.flag, deployment.filled.maps]
  simp only [expectedFlag, newTCBackend, compiles.includeSource, compiles.excludeSource, policyConfig,
    compileBypassCIDRPolicy_isEmpty builder normalInclude, compileBypassCIDRPolicy_isEmpty builder normalExclude, Bool.not_not]
  cases flow.source with
  | v4 value =>
    simp only [BypassCIDRPolicy.found_eq, normalInclude.holds_eq, normalExclude.holds_eq, excludeGate]
    cases deployment.inbound.excludeSourceCIDR.any (·.contains (.v4 value)) <;> rfl
  | v6 value =>
    simp only [BypassCIDRPolicy.found_eq, normalInclude.holds_eq, normalExclude.holds_eq, excludeGate]
    cases deployment.inbound.excludeSourceCIDR.any (·.contains (.v6 value)) <;> rfl

theorem sourceMACSelected_eq {attr : Attribute} {sourceMAC : MACAddress}
    (isMAC : attr.hwAddr.bind macAddress = some sourceMAC) :
    deployment.backend.sourceMACSelected sourceMAC = deployment.inbound.preMatchMACSelected attr := by
  have compiles := deployment.compiles
  unfold TCBackend.sourceMACSelected preMatchMACSelected
  rw [deployment.filled.flag, deployment.filled.flag, deployment.filled.maps, isMAC]
  simp only [expectedFlag, newTCBackend, compiles.includeSourceMAC_eq, compiles.excludeSourceMAC_eq, policyConfig]
  cases deployment.inbound.sharedIncludeMAC <;> cases deployment.inbound.sharedExcludeMAC <;> simp

end Deployment

/-! ## Agreement -/

/-- Who sent a packet: a socket of this host, seen at the output hook, or another device, seen
before routing with the source address of its Ethernet frame. -/
inductive Sender where
  | own (uid : UInt32) (hwAddr : Option (List UInt8))
  | neighbour (hwAddr : List UInt8) (sourceMAC : MACAddress) (isMAC : macAddress hwAddr = some sourceMAC)
      (uid : Option UInt32)

namespace Sender

def isLocal : Sender → Bool
  | .own .. => true
  | .neighbour .. => false

def attr : Sender → Attribute
  | .own uid hwAddr => ⟨some 3, some uid, hwAddr⟩
  | .neighbour hwAddr _ _ uid => ⟨some 0, uid, some hwAddr⟩

/-- The selection of the TC program for a packet; the socket has no policy metadata. -/
def selected (flow : Flow) : Sender → Bool
  | .own uid _ => backend.localSelected flow uid 0
  | .neighbour _ sourceMAC _ _ => backend.sharedSelected flow sourceMAC

def bypassed (flow : Flow) : Sender → Bool
  | .own uid _ => backend.uidBypassed uid
  | .neighbour _ sourceMAC _ _ => !backend.sourceAddressSelected flow || !backend.sourceMACSelected sourceMAC

theorem selected_eq (sender : Sender) (backend : TCBackend) (flow : Flow) :
    sender.selected backend flow = (backend.facts (!sender.isLocal) (sender.bypassed backend flow) flow).selected := by
  cases sender with
  | own uid hwAddr => exact backend.localSelected_eq flow uid
  | neighbour hwAddr sourceMAC isMAC uid => exact backend.sharedSelected_eq flow sourceMAC

end Sender

namespace Deployment

variable {builder : IPSetBuilder} (deployment : Deployment builder)

/-- A packet of a hook and a protocol that are enabled, in a configuration without
`bypass_exclude`. -/
structure Handles (sender : Sender) (flow : Flow) : Prop where
  hook : (if sender.isLocal then deployment.inbound.localEnabled else deployment.inbound.sharedEnabled) = true
  protocol : flow.protocol.enabled deployment.inbound.enableTCP deployment.inbound.enableUDP
  noForce : deployment.inbound.bypassExcludeIPv4 = [] ∧ deployment.inbound.bypassExcludeIPv6 = []

/-- `pre_match` bypasses a packet exactly if the TC program does not select it. -/
def Agrees (sender : Sender) (flow : Flow) : Prop :=
  deployment.inbound.preMatchPolicyBypass sender.attr flow = !sender.selected deployment.backend flow

variable {deployment}

theorem preMatchPolicyBypass_eq {sender : Sender} {flow : Flow} (handles : deployment.Handles sender flow) :
    deployment.inbound.preMatchPolicyBypass sender.attr flow =
      !(deployment.inbound.facts sender.isLocal sender.attr flow).selected := by
  rw [← preMatchHookBypass_eq]
  have enabled := handles.hook
  cases sender with
  | own uid hwAddr =>
    have isEnabled : deployment.inbound.localEnabled := enabled
    simp [preMatchPolicyBypass, Sender.attr, Sender.isLocal, isEnabled]
  | neighbour hwAddr sourceMAC isMAC uid =>
    have isEnabled : deployment.inbound.sharedEnabled := enabled
    simp [preMatchPolicyBypass, Sender.attr, Sender.isLocal, isEnabled]

theorem agrees_iff {sender : Sender} {flow : Flow} (handles : deployment.Handles sender flow) :
    deployment.Agrees sender flow ↔
      (deployment.inbound.facts sender.isLocal sender.attr flow).selected =
        (deployment.backend.facts (!sender.isLocal) (sender.bypassed deployment.backend flow) flow).selected := by
  rw [Agrees, preMatchPolicyBypass_eq handles, sender.selected_eq, not_inj_iff]

end Deployment

/-- The two sides see a sender alike: its address is not an IPv4-mapped one where it is asked
for, and its UID is not one that only the trie bypasses. -/
def Sender.SeenAlike (policy : LocalUIDPolicy) (flow : Flow) : Sender → Prop
  | .own uid _ =>
    policy.includeUIDConfigured ∨ policy.includeUID = [] ∨ containsUID policy.includeUID uid ∨
      containsUID policy.excludeUID uid
  | .neighbour .. => flow.source.is4In6 = false

/-- The packets on which the two sides find out the same. -/
def Agreeable (policy : LocalUIDPolicy) (sender : Sender) (flow : Flow) : Prop :=
  flow.destination.is4In6 = false ∧ sender.SeenAlike policy flow

namespace Deployment

variable {builder : IPSetBuilder} {deployment : Deployment builder} {sender : Sender} {flow : Flow}

/-- The packets that the two sides decide alike before they look at what they see differently:
those to a FakeIP address, and DNS queries, which are decided by their mode and their sender. -/
def DecidedFirst (deployment : Deployment builder) (sender : Sender) (flow : Flow) : Prop :=
  let asItIs := fakeIPHolds deployment.inbound flow.destination
  let unmapped := fakeIPHolds deployment.inbound flow.destination.unmap
  let dnsMode := if sender.isLocal then deployment.inbound.localDNSMode else deployment.inbound.sharedDNSMode
  asItIs ∧ unmapped ∨ flow.destinationPort = 53 ∧ (dnsMode = .hijack ∨ asItIs = unmapped ∧
    (dnsMode = .off ∨ sender.SeenAlike deployment.inbound.localPolicy.toLocalUIDPolicy flow))

theorem privateDestination_eq (plain : flow.destination.is4In6 = false) :
    TCBackend.privateDestination flow = preMatchPrivateAddress flow.destination := by
  unfold TCBackend.privateDestination
  split
  · rename_i family
    exact ipv4PrivateAddress_eq family
  · rename_i family
    exact ipv6PrivateAddress_eq (eq_false_iff.mpr family) plain

theorem senderBypassed_eq (alike : sender.SeenAlike deployment.inbound.localPolicy.toLocalUIDPolicy flow) :
    deployment.inbound.preMatchSenderBypassed sender.isLocal sender.attr flow =
      sender.bypassed deployment.backend flow := by
  cases sender with
  | own uid hwAddr =>
    simp only [preMatchSenderBypassed, Sender.isLocal, Sender.attr, Sender.bypassed, if_true,
      deployment.uidBypassed_eq, LocalUIDPolicy.defaultBypass]
    rcases alike with configured | noInclude | included | excluded
    · simp [configured]
    · simp [noInclude]
    · simp [included]
    · simp [excluded]
  | neighbour hwAddr sourceMAC isMAC uid =>
    have plain : flow.source.is4In6 = false := alike
    simp only [preMatchSenderBypassed, Sender.isLocal, Sender.bypassed, false_eq_true, if_false,
      preMatchSourceSelected_eq, Addr.unmap_of_not_is4In6 plain, deployment.sourceAddressSelected_eq]
    have sameMAC := @Deployment.sourceMACSelected_eq builder deployment
      (Sender.attr (.neighbour hwAddr sourceMAC isMAC uid)) sourceMAC isMAC
    rw [sameMAC]

variable (deployment sender flow) in
theorem tc_dnsMode_eq (bypassed : Bool) : (deployment.backend.facts (!sender.isLocal) bypassed flow).dnsMode =
    if sender.isLocal then deployment.inbound.localDNSMode else deployment.inbound.sharedDNSMode := by
  simp only [TCBackend.facts, deployment.filled.modes.1, deployment.filled.modes.2, deployment.compiles.local_eq,
    deployment.compiles.sharedDNSMode_eq]
  cases sender.isLocal <;> rfl

section
variable (handles : deployment.Handles sender flow)
include handles

theorem agrees_of_agreeable (agreeable : Agreeable deployment.inbound.localPolicy.toLocalUIDPolicy sender flow) :
    deployment.Agrees sender flow := by
  obtain ⟨plain, alike⟩ := agreeable
  have compiles := deployment.compiles
  have filled := deployment.filled
  have unmapped := Addr.unmap_of_not_is4In6 plain
  rw [agrees_iff handles]
  congr 1
  simp only [facts, TCBackend.facts, preMatchFakeIP_eq, deployment.mustInterceptDestination_eq handles.noForce,
    senderBypassed_eq alike, deployment.portBypassed_eq flow _ handles.protocol, deployment.hostDestination_eq,
    deployment.bypassDestination_eq, BypassCIDRPolicy.contains_eq, unmapped, privateDestination_eq plain, filled.modes.1,
    filled.modes.2, filled.flag, compiles.local_eq, compiles.sharedDNSMode_eq]
  cases sender with
  | own uid hwAddr => simp [Sender.isLocal, expectedFlag, compiles.local_eq, localDNSMode, policyConfig]
  | neighbour hwAddr sourceMAC isMAC uid =>
    simp [Sender.isLocal, expectedFlag, compiles.sharedBypassPrivate_eq, policyConfig]

theorem agrees_of_decidedFirst (decided : deployment.DecidedFirst sender flow) : deployment.Agrees sender flow := by
  have mode : (deployment.inbound.facts sender.isLocal sender.attr flow).dnsMode =
    if sender.isLocal then deployment.inbound.localDNSMode else deployment.inbound.sharedDNSMode := rfl
  rw [agrees_iff handles]
  simp only [Facts.selected, mode, tc_dnsMode_eq]
  unfold DecidedFirst at decided
  generalize (if sender.isLocal then deployment.inbound.localDNSMode else deployment.inbound.sharedDNSMode) = dnsMode
    at decided ⊢
  simp only [facts, TCBackend.facts, preMatchFakeIP_eq, deployment.mustInterceptDestination_eq handles.noForce]
  obtain ⟨asItIs, unmapped⟩ | ⟨isDNS, rfl | ⟨sameFakeIP, rfl | alike⟩⟩ := decided
  · simp [asItIs, unmapped]
  · simp [isDNS]
  · simp [isDNS, sameFakeIP]
  · cases dnsMode <;> simp [isDNS, sameFakeIP, senderBypassed_eq alike]

end

end Deployment

end SingBox.Ebpf
