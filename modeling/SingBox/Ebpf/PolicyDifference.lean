import SingBox.Ebpf.PolicyAgreement

/-! # Where `pre_match` and the TC program differ

For each packet outside `Agreeable` there is a deployment in which the two sides decide
differently: one small configuration for each of the three reasons. With the agreement on
all other packets this gives `preMatch_agrees_iff`.
-/

open List Nat

namespace SingBox.Ebpf

open Lib.Lpm Lib.Guard Lib.Mask Deployment

/-! ## The builder -/

/-- Lists of prefixes that stand for the same addresses as the list `added`. -/
def Stands (added prefixes : List Prefix) : Prop :=
  (∀ network ∈ prefixes, network.isValid ∧ network.Proper) ∧
    ((∀ network ∈ added, network.Proper) → SameAddresses prefixes added)

variable {added : List Prefix}

theorem stands_filter (proper : ∀ network ∈ added, network.Proper) : Stands added (added.filter Prefix.isValid) := by
  refine ⟨fun network isMember => ?_, fun _ ip => ?_⟩
  · obtain ⟨isMember, valid⟩ := mem_filter.mp isMember
    exact ⟨valid, proper network isMember⟩
  · constructor
    · rintro ⟨network, isMember, contains⟩
      exact ⟨network, mem_of_mem_filter isMember, contains⟩
    · rintro ⟨network, isMember, contains⟩
      refine ⟨network, mem_filter.mpr ⟨isMember, ?_⟩, contains⟩
      obtain ⟨_ | addr, _ | bits⟩ := network
      · cases contains
      · cases contains
      · cases contains
      · rfl

theorem exists_stands (added : List Prefix) : ∃ prefixes, Stands added prefixes := by
  by_cases proper : ∀ network ∈ added, network.Proper
  · exact ⟨_, stands_filter proper⟩
  · exact ⟨[], by simp, fun isProper => absurd isProper proper⟩

/-- A list of least length stands for every list, so there is a builder. -/
theorem exists_builder : Nonempty IPSetBuilder := by
  have least (added : List Prefix) : ∃ prefixes, Stands added prefixes ∧
      ∀ other, Stands added other → prefixes.length ≤ other.length := by
    obtain ⟨prefixes, stands, isLeast⟩ :=
      (measure (List.length (α := Prefix))).wf.has_min {prefixes | Stands added prefixes} (exists_stands added)
    exact ⟨prefixes, stands, fun other otherStands => Nat.le_of_not_lt (isLeast other otherStands)⟩
  choose prefixes stands isLeast using least
  refine ⟨⟨prefixes, fun added => (stands added).1, fun added => (stands added).2, ?_⟩⟩
  intro added other addedProper otherProper same
  obtain ⟨valid, sameOther⟩ := stands_filter otherProper
  refine (isLeast added _ ⟨valid, fun _ ip => ?_⟩).trans (length_filter_le _ _)
  exact (sameOther otherProper ip).trans (same ip)

variable (builder : IPSetBuilder)

theorem IPSetBuilder.length_le (proper : ∀ network ∈ added, network.Proper) : (builder.prefixes added).length ≤ added.length :=
  builder.minimal added added proper proper fun _ => Iff.rfl

theorem compileBypassCIDRPolicy_length_le (prefixes : List Prefix) :
    (compileBypassCIDRPolicy builder prefixes).ipv4.length ≤ prefixes.length ∧
      (compileBypassCIDRPolicy builder prefixes).ipv6.length ≤ prefixes.length := by
  have proper (keep : Prefix → Bool) :
      ∀ network ∈ ((prefixes.filter Prefix.isValid).map unmapPrefix).filter keep, network.Proper := by
    intro network isMember
    obtain ⟨raw, -, rfl⟩ := mem_map.mp (mem_of_mem_filter isMember)
    exact unmapPrefix_proper raw
  have added_le : ((prefixes.filter Prefix.isValid).map unmapPrefix).length ≤ prefixes.length := by
    rw [length_map]
    exact length_filter_le _ _
  exact ⟨(builder.length_le (proper _)).trans ((length_filter_le _ _).trans added_le),
    (builder.length_le (proper _)).trans ((length_filter_le _ _).trans added_le)⟩

/-! ## Small configurations -/

variable (value : BitVec 32)

/-- The one IPv4 address. -/
def hostPrefix : Prefix := ⟨some (.v4 value), some 32⟩

/-- `::fffe:0:0/95`, a range that holds the IPv4-mapped addresses without being one of them. -/
def aroundMapped : Prefix := ⟨some (.v6 0xfffe00000000), some 95⟩

theorem masked_hostPrefix : (hostPrefix value).masked = hostPrefix value := by
  rw [hostPrefix, Prefix.masked_v4 (le_refl 32)]
  simp

theorem hostPrefix_contains : (hostPrefix value).contains (.v4 value) := by
  simp [hostPrefix, Prefix.contains]

theorem aroundMapped_contains {value : BitVec 128} (mapped : (Addr.v6 value).is4In6) :
    aroundMapped.contains (.v6 value) := by
  have isMapped : value.toNat / 2 ^ 32 = 0xffff := by simpa [Addr.is4In6] using mapped
  simp only [Prefix.contains, aroundMapped, Prefix.leading, Addr.is4, shiftRight_eq_div_pow, Bool.and_eq_true, beq_iff_eq,
    true_and, BEq.rfl]
  have small : (0xfffe00000000 : BitVec 128).toNat / 2 ^ (128 - 95) = 0x7fff := by decide
  omega

/-- Everything is enabled, nothing is bypassed but what is given. -/
def quietInbound (policy : LocalUIDPolicy) (dnsMode : DNSMode) (fakeIPIPv6 : Prefix) (excludeSource : List Prefix)
    (bypass : BypassCIDRPolicy) : Inbound where
  localEnabled := true
  sharedEnabled := true
  enableTCP := true
  enableUDP := true
  fakeIPIPv4Prefix := invalidPrefix
  fakeIPIPv6Prefix := fakeIPIPv6
  bypassExcludeIPv4 := []
  bypassExcludeIPv6 := []
  localPolicy := { policy with dnsMode }
  sharedDNSMode := dnsMode
  includeSourceCIDR := []
  excludeSourceCIDR := excludeSource
  sharedIncludeMAC := []
  sharedExcludeMAC := []
  localBypassPort := []
  sharedBypassPort := []
  sharedBypassPrivate := false
  preMatchHostAddresses := []
  bypassRuleSetPolicy := bypass

/-- What a small configuration may have: a FakeIP range that is not there or around the mapped
addresses, at most one excluded source and one bypassed address. -/
inductive SmallFakeIP : Prefix → Prop where
  | none : SmallFakeIP invalidPrefix
  | around : SmallFakeIP aroundMapped

theorem SmallFakeIP.normalizes {network : Prefix} (small : SmallFakeIP network) :
    normalizeFakeIPPrefix "IPv6" network false fakeIPSafetyIPv6Prefixes = .ok network ∧
      normalizeAddressPrefix "IPv6 FakeIP range" network false = .ok network := by
  cases small <;> decide

inductive AtMostOneHost : List Prefix → Prop where
  | none : AtMostOneHost []
  | one (value : BitVec 32) : AtMostOneHost [hostPrefix value]

variable {prefixes : List Prefix}

theorem AtMostOneHost.length_le (small : AtMostOneHost prefixes) : prefixes.length ≤ 1 := by
  cases small <;> exact le_of_ble_eq_true rfl

theorem AtMostOneHost.normalizes (small : AtMostOneHost prefixes) (name : String) :
    (∀ network ∈ prefixes, network.Proper) ∧ normalizeSourceCIDR name prefixes = .ok prefixes := by
  cases small with
  | none => exact ⟨by simp, rfl⟩
  | one value =>
    refine ⟨?_, ?_⟩
    · rw [forall_mem_singleton, ← masked_hostPrefix]
      exact Prefix.masked_proper _
    · simp only [normalizeSourceCIDR, bind_eq_ok, ensure_eq_ok, pure_eq_ok]
      refine ⟨(), rfl, ?_⟩
      rw [map_singleton, unmapPrefix_v4 (masked_hostPrefix value) rfl]
      rfl

variable {policy : LocalUIDPolicy} {excludeSource : List Prefix} {sender : Sender} {flow : Flow} {fakeIPIPv6 : Prefix}

theorem exists_deployment {entries : List (Key 32)}
    {defaultBypass : Bool} (compilesUID : compileUIDPolicy policy = .ok (entries, defaultBypass)) (dnsMode : DNSMode)
    (smallFakeIP : SmallFakeIP fakeIPIPv6) {bypassed : List Prefix}
    (smallExclude : AtMostOneHost excludeSource) (smallBypass : AtMostOneHost bypassed) :
    ∃ deployment : Deployment builder, deployment.inbound =
      quietInbound policy dnsMode fakeIPIPv6 excludeSource (compileBypassCIDRPolicy builder bypassed) := by
  have includeFits := compileBypassCIDRPolicy_length_le builder []
  have excludeFits := compileBypassCIDRPolicy_length_le builder excludeSource
  have bypassFits := compileBypassCIDRPolicy_length_le builder bypassed
  have excludeSmall := smallExclude.length_le
  have bypassSmall := smallBypass.length_le
  simp only [length_nil] at includeFits
  let compiled : CompiledPolicy :=
    { «local» := { policy with dnsMode }, uidEntries := entries, uidDefaultBypass := defaultBypass
      sharedDNSMode := dnsMode, sharedBypassPrivate := false, fakeIPIPv4 := invalidPrefix, fakeIPIPv6
      mustInterceptIPv4 := [], mustInterceptIPv6 := if fakeIPIPv6.isValid then [fakeIPIPv6] else []
      includeSource := compileBypassCIDRPolicy builder []
      excludeSource := compileBypassCIDRPolicy builder excludeSource
      includeSourceMAC := [], excludeSourceMAC := [], localBypassPortEntries := [], sharedBypassPortEntries := [] }
  have compiles : Compiles builder (quietInbound policy dnsMode fakeIPIPv6 excludeSource
      (compileBypassCIDRPolicy builder bypassed)).policyConfig compiled :=
    { uid := compilesUID
      fakeIPIPv4 := rfl
      fakeIPIPv6 := smallFakeIP.normalizes.2
      mustInterceptIPv4 := rfl
      mustInterceptIPv6 := by cases smallFakeIP <;> rfl
      includeSource := rfl
      excludeSource := rfl
      sourcesFit := by
        simp only [maxSharedSourceCIDRPolicyEntries, compiled]
        omega
      macsFit := ⟨zero_le _, zero_le _⟩
      localPorts := rfl
      sharedPorts := rfl
      local_eq := rfl
      sharedDNSMode_eq := rfl
      sharedBypassPrivate_eq := rfl
      includeSourceMAC_eq := rfl
      excludeSourceMAC_eq := rfl }
  have installs : ∃ backend, ((newTCBackend ⟨true, true, true, true, true, compiled⟩).updateHostAddresses [] >>=
      fun backend => backend.updateCompiledBypassCIDR (compileBypassCIDRPolicy builder bypassed)) = .ok backend := by
    simp only [TCBackend.updateHostAddresses, TCBackend.updateCompiledBypassCIDR, bind_eq_ok, ensure_eq_ok, pure_eq_ok]
    refine ⟨_, _, ⟨(), ⟨by decide, by decide⟩, rfl⟩, (), ?_, rfl⟩
    simp only [maxBypassCIDRPolicyEntries]
    omega
  obtain ⟨backend, installed⟩ := installs
  exact ⟨
    { inbound := quietInbound policy dnsMode fakeIPIPv6 excludeSource (compileBypassCIDRPolicy builder bypassed)
      fakeIPIPv4 := ⟨invalidPrefix, rfl⟩
      fakeIPIPv6 := ⟨fakeIPIPv6, smallFakeIP.normalizes.1⟩
      includeSource := ⟨[], by simp, rfl⟩
      excludeSource := ⟨excludeSource, smallExclude.normalizes _⟩
      hosts := ⟨[], rfl⟩
      ruleSets := ⟨bypassed, rfl⟩
      config := ⟨true, true, true, true, true, compiled⟩
      compiled := compilePolicy_eq_ok.mpr compiles
      backend
      installed }, rfl⟩

/-! ## The three reasons -/

variable {builder : IPSetBuilder} {deployment : Deployment builder}

theorem handles_quiet {dnsMode : DNSMode} {bypass : BypassCIDRPolicy}
    (isQuiet : deployment.inbound = quietInbound policy dnsMode fakeIPIPv6 excludeSource bypass) (sender : Sender)
    (flow : Flow) : deployment.Handles sender flow := by
  refine ⟨?_, ?_, ?_⟩
  · rw [isQuiet]
    cases sender.isLocal <;> rfl
  · rw [isQuiet]
    cases flow.protocol <;> rfl
  · rw [isQuiet]
    exact ⟨rfl, rfl⟩

theorem compileBypassCIDRPolicy_holds_nil (builder : IPSetBuilder) (ip : Addr) :
    (compileBypassCIDRPolicy builder []).holds ip = false := by
  rw [compileBypassCIDRPolicy_holds]
  rfl

theorem compileBypassCIDRPolicy_holds_host (builder : IPSetBuilder) (value : BitVec 32) :
    (compileBypassCIDRPolicy builder [hostPrefix value]).holds (.v4 value) := by
  rw [compileBypassCIDRPolicy_holds, addedHold, any_cons, unmapPrefix_v4 (masked_hostPrefix value) rfl,
    hostPrefix_contains]
  rfl

variable {value : BitVec 32}

/-- An IPv4-mapped destination lies in a FakeIP range as it is, and is bypassed as the IPv4
address in it. -/
theorem not_agrees_of_mapped_destination (isQuiet : deployment.inbound = quietInbound policy .off aroundMapped []
      (compileBypassCIDRPolicy builder [hostPrefix value]))
    (mapped : flow.destination.is4In6) (unmapped : flow.destination.unmap = .v4 value) :
    ¬ deployment.Agrees sender flow := by
  have handles := handles_quiet isQuiet sender flow
  have preMatch : (deployment.inbound.facts sender.isLocal sender.attr flow).selected = false := by
    have notFakeIP : deployment.inbound.preMatchFakeIP flow.destination = false := by
      rw [preMatchFakeIP_eq, unmapped, isQuiet]
      rfl
    have cidr : deployment.inbound.bypassRuleSetPolicy.contains flow.destination := by
      rw [BypassCIDRPolicy.contains_eq, unmapped, isQuiet]
      exact compileBypassCIDRPolicy_holds_host builder value
    have mode : (if sender.isLocal then deployment.inbound.localDNSMode else deployment.inbound.sharedDNSMode) = .off := by
      rw [isQuiet]
      cases sender.isLocal <;> rfl
    simp only [Facts.selected, Inbound.facts, notFakeIP, cidr, mode]
    cases flow.destinationPort == 53 <;> simp
  have tc : (deployment.backend.facts (!sender.isLocal) (sender.bypassed deployment.backend flow) flow).selected := by
    have must : deployment.backend.mustInterceptDestination flow := by
      rw [deployment.mustInterceptDestination_eq handles.noForce, isQuiet]
      cases isDestination : flow.destination with
      | v4 other =>
        rw [isDestination] at mapped
        cases mapped
      | v6 other =>
        rw [isDestination] at mapped
        exact aroundMapped_contains mapped
    simp [Facts.selected, TCBackend.facts, must]
  rw [agrees_iff handles, preMatch, tc]
  decide

/-- Without FakeIP ranges only the sender and the bypass policy decide. -/
theorem preMatch_selected_of_quiet {bypass : BypassCIDRPolicy}
    (isQuiet : deployment.inbound = quietInbound policy .respectPolicy invalidPrefix excludeSource bypass) :
    (deployment.inbound.facts sender.isLocal sender.attr flow).selected =
      (!deployment.inbound.preMatchSenderBypassed sender.isLocal sender.attr flow &&
        (flow.destinationPort == 53 || !bypass.contains flow.destination)) := by
  have notFakeIP : deployment.inbound.preMatchFakeIP flow.destination = false := by
    rw [preMatchFakeIP_eq, isQuiet]
    cases flow.destination.unmap <;> rfl
  simp only [Facts.selected, Inbound.facts, notFakeIP]
  rw [isQuiet]
  cases flow.destinationPort == 53 <;> cases sender.isLocal <;> simp [quietInbound, containsPort, Inbound.localDNSMode]

theorem tc_selected_of_quiet {policy : LocalUIDPolicy} {excludeSource : List Prefix} {bypass : BypassCIDRPolicy}
    {sender : Sender} {flow : Flow}
    (isQuiet : deployment.inbound = quietInbound policy .respectPolicy invalidPrefix excludeSource bypass)
    (bypassed : Bool) :
    (deployment.backend.facts (!sender.isLocal) bypassed flow).selected =
      (!bypassed && (flow.destinationPort == 53 || !bypass.holds flow.destination)) := by
  have handles := handles_quiet isQuiet sender flow
  have compiles := deployment.compiles
  have notFakeIP : deployment.backend.mustInterceptDestination flow = false := by
    rw [deployment.mustInterceptDestination_eq handles.noForce, isQuiet]
    cases flow.destination <;> rfl
  have cidr : deployment.backend.bypassDestination flow = bypass.holds flow.destination := by
    rw [deployment.bypassDestination_eq, isQuiet]
    rfl
  have port : deployment.backend.portBypassed flow (!sender.isLocal) = false := by
    rw [deployment.portBypassed_eq flow _ handles.protocol, isQuiet]
    cases sender.isLocal <;> rfl
  have host : deployment.backend.hostDestination flow = false := by
    rw [deployment.hostDestination_eq, isQuiet]
    rfl
  simp only [Facts.selected, TCBackend.facts, notFakeIP, cidr, port, host, deployment.filled.modes.1,
    deployment.filled.modes.2, deployment.filled.flag, compiles.local_eq, compiles.sharedDNSMode_eq]
  cases sender.isLocal <;>
    simp only [expectedFlag, Bool.not_true, Bool.not_false, compiles.local_eq, compiles.sharedBypassPrivate_eq] <;>
    rw [isQuiet] <;>
    cases flow.destinationPort == 53 <;> simp [quietInbound, Inbound.policyConfig]

theorem compileBypassCIDRPolicy_contains_nil (builder : IPSetBuilder) (ip : Addr) :
    (compileBypassCIDRPolicy builder []).contains ip = false := by
  rw [BypassCIDRPolicy.contains_eq, compileBypassCIDRPolicy_holds_nil]

/-- An IPv4-mapped source is excluded as the IPv4 address in it, but not as it is. -/
theorem not_agrees_of_mapped_source {hwAddr : List UInt8} {sourceMAC : MACAddress}
    {isMAC : macAddress hwAddr = some sourceMAC} {uid : Option UInt32}
    (isQuiet : deployment.inbound = quietInbound policy .respectPolicy invalidPrefix [hostPrefix value]
      (compileBypassCIDRPolicy builder []))
    (mapped : flow.source.is4In6) (unmapped : flow.source.unmap = .v4 value) :
    ¬ deployment.Agrees (.neighbour hwAddr sourceMAC isMAC uid) flow := by
  rw [agrees_iff (handles_quiet isQuiet _ flow), preMatch_selected_of_quiet isQuiet, tc_selected_of_quiet isQuiet]
  have preMatch : deployment.inbound.preMatchSourceSelected flow.source = false := by
    rw [preMatchSourceSelected_eq, unmapped, isQuiet]
    simp [sourceSelected, quietInbound, hostPrefix_contains]
  have tcAddr : deployment.backend.sourceAddressSelected flow := by
    rw [deployment.sourceAddressSelected_eq, isQuiet]
    cases isSource : flow.source with
    | v4 other =>
      rw [isSource] at mapped
      cases mapped
    | v6 other => rfl
  have tcMAC : deployment.backend.sourceMACSelected sourceMAC := by
    have sameMAC := @Deployment.sourceMACSelected_eq builder deployment
      (Sender.attr (.neighbour hwAddr sourceMAC isMAC uid)) sourceMAC isMAC
    rw [sameMAC, isQuiet]
    rfl
  simp [Inbound.preMatchSenderBypassed, Sender.isLocal, Sender.bypassed, preMatch, tcAddr, tcMAC,
    compileBypassCIDRPolicy_holds_nil]

/-- Included UIDs that are not marked as configured bypass the other UIDs in the trie only. -/
theorem not_agrees_of_unmarked_uid {uid : UInt32} {hwAddr : Option (List UInt8)}
    (isQuiet : deployment.inbound = quietInbound policy .respectPolicy invalidPrefix [] (compileBypassCIDRPolicy builder []))
    (unmarked : policy.includeUIDConfigured = false) (someIncluded : policy.includeUID ≠ [])
    (notIncluded : containsUID policy.includeUID uid = false)
    (notExcluded : containsUID policy.excludeUID uid = false) : ¬ deployment.Agrees (.own uid hwAddr) flow := by
  rw [agrees_iff (handles_quiet isQuiet _ flow), preMatch_selected_of_quiet isQuiet, tc_selected_of_quiet isQuiet]
  have tc : deployment.backend.uidBypassed uid := by
    rw [deployment.uidBypassed_eq, isQuiet]
    simp [quietInbound, LocalUIDPolicy.defaultBypass, someIncluded, notIncluded]
  have preMatch : deployment.inbound.preMatchSenderBypassed true (Sender.attr (.own uid hwAddr)) flow = false := by
    rw [isQuiet]
    simp [Inbound.preMatchSenderBypassed, Sender.attr, quietInbound, unmarked, notExcluded]
  simp [Sender.isLocal, Sender.bypassed, preMatch, tc, compileBypassCIDRPolicy_contains_nil]

/-! ## The result -/

/-- A UID policy that `compileUIDPolicy` accepts. -/
structure AcceptedUIDPolicy where
  policy : LocalUIDPolicy
  entries : List (Key 32)
  defaultBypass : Bool
  compiles : compileUIDPolicy policy = .ok (entries, defaultBypass)

theorem exists_unmap_eq {addr : Addr} (mapped : addr.is4In6) : ∃ value, addr.unmap = .v4 value := by
  cases addr with
  | v4 value => cases mapped
  | v6 value =>
    have isMapped : value.toNat / 2 ^ 32 = 0xffff := by simpa [Addr.is4In6] using mapped
    exact ⟨_, if_pos isMapped⟩

/-- For a packet that is not agreeable there is a deployment in which the two sides differ. -/
theorem exists_not_agrees (builder : IPSetBuilder) {uids : AcceptedUIDPolicy}
    (notAgreeable : ¬ Agreeable uids.policy sender flow) :
    ∃ deployment : Deployment builder, deployment.inbound.localPolicy.toLocalUIDPolicy = uids.policy ∧
      deployment.Handles sender flow ∧ ¬ deployment.Agrees sender flow := by
  cases mapped : flow.destination.is4In6 with
  | true =>
    obtain ⟨value, unmapped⟩ := exists_unmap_eq mapped
    obtain ⟨deployment, isQuiet⟩ := exists_deployment builder uids.compiles .off .around .none (.one value)
    exact ⟨deployment, by rw [isQuiet]; rfl, handles_quiet isQuiet sender flow,
      not_agrees_of_mapped_destination isQuiet mapped unmapped⟩
  | false =>
    have differs := fun alike => notAgreeable ⟨mapped, alike⟩
    cases sender with
    | own uid hwAddr =>
      simp only [Sender.SeenAlike, imp_false, not_or, Bool.not_eq_true] at differs
      obtain ⟨unmarked, someIncluded, notIncluded, notExcluded⟩ := differs
      obtain ⟨deployment, isQuiet⟩ := exists_deployment builder uids.compiles .respectPolicy .none .none .none
      exact ⟨deployment, by rw [isQuiet]; rfl, handles_quiet isQuiet _ flow,
        not_agrees_of_unmarked_uid isQuiet unmarked someIncluded notIncluded notExcluded⟩
    | neighbour hwAddr sourceMAC isMAC uid =>
      have mappedSource : flow.source.is4In6 := by simpa [Sender.SeenAlike] using differs
      obtain ⟨value, unmapped⟩ := exists_unmap_eq mappedSource
      obtain ⟨deployment, isQuiet⟩ := exists_deployment builder uids.compiles .respectPolicy .none (.one value) .none
      exact ⟨deployment, by rw [isQuiet]; rfl, handles_quiet isQuiet _ flow,
        not_agrees_of_mapped_source isQuiet mappedSource unmapped⟩

/-- `pre_match` and the TC program agree on what they decide first, and on every other packet they
agree in every deployment exactly if the packet is agreeable under the UID policy. -/
theorem preMatch_agrees_iff (builder : IPSetBuilder) (uids : AcceptedUIDPolicy) (sender : Sender) (flow : Flow) :
    (∀ deployment : Deployment builder, deployment.Handles sender flow → deployment.DecidedFirst sender flow →
        deployment.Agrees sender flow) ∧
      ((∀ deployment : Deployment builder, deployment.inbound.localPolicy.toLocalUIDPolicy = uids.policy →
          deployment.Handles sender flow → ¬ deployment.DecidedFirst sender flow → deployment.Agrees sender flow) ↔
        Agreeable uids.policy sender flow) := by
  refine ⟨fun _ => agrees_of_decidedFirst, ?_, ?_⟩
  · intro agrees
    by_contra notAgreeable
    obtain ⟨deployment, samePolicy, handles, differs⟩ := exists_not_agrees builder notAgreeable
    exact differs (agrees deployment samePolicy handles fun decided => differs (agrees_of_decidedFirst handles decided))
  · intro agreeable deployment samePolicy handles _
    exact agrees_of_agreeable handles (samePolicy ▸ agreeable)

/-- A TCP packet to `::ffff:10.0.0.1`, port 443. -/
def mappedFlow : Flow where
  protocol := .tcp
  source := .v6 0x20010db8000000000000000000000001
  destination := .v6 0xffff0a000001
  sourcePort := 50000
  destinationPort := 443
  sameFamily := rfl

/-- With `10.0.0.1` in the bypass policy `pre_match` bypasses the packet to `::ffff:10.0.0.1`,
which the TC program selects. -/
theorem mapped_destination_bypassed_and_selected :
    ∃ (builder : IPSetBuilder) (deployment : Deployment builder),
      deployment.inbound = quietInbound {} .respectPolicy invalidPrefix []
        (compileBypassCIDRPolicy builder [hostPrefix 0x0a000001]) ∧
      servicePort mappedFlow = false ∧ safetyBypass mappedFlow.destination = false ∧
      deployment.inbound.preMatchPolicyBypass ⟨some 3, some 1000, none⟩ mappedFlow ∧
      deployment.backend.localSelected mappedFlow 1000 0 := by
  obtain ⟨builder⟩ := exists_builder
  obtain ⟨deployment, isQuiet⟩ := exists_deployment builder
    (show compileUIDPolicy {} = .ok ([], false) from rfl) .respectPolicy .none .none (.one 0x0a000001)
  have handles := handles_quiet isQuiet (.own 1000 none) mappedFlow
  refine ⟨builder, deployment, isQuiet, by decide, by decide, ?_, ?_⟩
  · have held : (compileBypassCIDRPolicy builder [hostPrefix 0x0a000001]).contains mappedFlow.destination := by
      rw [BypassCIDRPolicy.contains_eq]
      exact compileBypassCIDRPolicy_holds_host builder 0x0a000001
    refine (Deployment.preMatchPolicyBypass_eq handles).trans ?_
    rw [preMatch_selected_of_quiet isQuiet, held]
    simp [mappedFlow]
  · have notHeld : (compileBypassCIDRPolicy builder [hostPrefix 0x0a000001]).holds mappedFlow.destination = false := by
      rw [compileBypassCIDRPolicy_holds]
      decide
    have quiet : deployment.backend.uidBypassed 1000 = false := by
      rw [deployment.uidBypassed_eq, isQuiet]
      rfl
    have selects := @tc_selected_of_quiet builder deployment {} [] _ (.own 1000 none) mappedFlow isQuiet false
    rw [notHeld] at selects
    rw [deployment.backend.localSelected_eq, quiet]
    exact selects

end SingBox.Ebpf
