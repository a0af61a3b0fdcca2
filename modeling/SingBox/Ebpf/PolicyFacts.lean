import SingBox.Ebpf.PreMatch

/-! # What the compiled maps answer

One lemma for each map of the TC program: a lookup in the map answers what a scan of the
configured values answers, and the flag in front of the map changes nothing.
-/

open List

namespace SingBox.Ebpf

open Lib.Lpm Lib.Guard Lib.Mask Prefix

/-! ## Prefixes -/

variable (prefixes : List Prefix)

theorem found_cidrKeys4 (value : BitVec 32) :
    found (cidrKeys4 prefixes) value = prefixes.any (·.contains (.v4 value)) := by
  rw [cidrKeys4, found_filterMap]
  congr with network
  obtain ⟨_ | value' | value', _ | bits⟩ := network <;> rfl

theorem found_cidrKeys6 (value : BitVec 128) :
    found (cidrKeys6 prefixes) value = prefixes.any (·.contains (.v6 value)) := by
  rw [cidrKeys6, found_filterMap]
  congr with network
  obtain ⟨_ | value' | value', _ | bits⟩ := network <;> rfl

variable (network : Prefix)

/-- What `unmapPrefix` does: it masks the prefix, or it takes the IPv4 prefix out of a prefix
of IPv4-mapped addresses. -/
theorem unmapPrefix_cases :
    (unmapPrefix network = network.masked ∧ (network.masked.addr.any Addr.is4In6 →
        ∀ bits, network.masked.bits = some bits → ¬ 96 ≤ bits)) ∨
      ∃ value bits, bits ≤ 32 ∧ unmapPrefix network = (ofAddr (some (.v4 value)) bits).masked := by
  have proper := network.masked_proper
  unfold unmapPrefix
  generalize network.masked = masked at proper ⊢
  obtain ⟨addr, bits⟩ := masked
  cases addr with
  | none => exact .inl ⟨rfl, by simp⟩
  | some addr =>
    cases bits with
    | none => exact .inl ⟨rfl, by simp⟩
    | some bits =>
      by_cases mapped : addr.is4In6 ∧ 96 ≤ bits
      · obtain ⟨_, ⟨⟩, bound⟩ := proper bits rfl
        cases addr with
        | v4 value => exact absurd mapped.1 (by simp [Addr.is4In6])
        | v6 value =>
          refine .inr ⟨BitVec.ofNat 32 value.toNat, bits - 96, ?_, ?_⟩
          · simp only [Addr.bitLen] at bound
            omega
          · have isMapped : value.toNat / 2 ^ 32 = 0xffff := by simpa [Addr.is4In6] using mapped.1
            simp only [if_pos mapped, Addr.unmap, if_pos isMapped]
      · refine .inl ⟨if_neg mapped, ?_⟩
        intro isMapped _ isBits large
        cases isBits
        exact mapped ⟨by simpa using isMapped, large⟩

theorem unmapPrefix_proper : (unmapPrefix network).Proper := by
  obtain ⟨isMasked, -⟩ | ⟨value, bits, -, isUnmapped⟩ := unmapPrefix_cases network
  · rw [isMasked]
    exact network.masked_proper
  · rw [isUnmapped]
    exact masked_proper _

variable {network : Prefix} {name : String} {prefixes : List Prefix} {enableTCP enableUDP : Bool}

theorem unmapPrefix_isValid (proper : network.Proper) (valid : network.isValid) :
    (unmapPrefix network).isValid := by
  obtain ⟨isMasked, -⟩ | ⟨value, bits, bound, isUnmapped⟩ := unmapPrefix_cases network
  · rw [isMasked, isValid_masked proper, valid]
  · rw [isUnmapped, isValid_masked (ofAddr_proper _ _)]
    simp [isValid, ofAddr, Addr.bitLen, bound]

theorem unmapPrefix_v4 (isMasked : network.masked = network) (family : network.is4) :
    unmapPrefix network = network := by
  unfold unmapPrefix
  rw [isMasked]
  obtain ⟨_ | addr, _ | bits⟩ := network
  · rfl
  · rfl
  · rfl
  · cases addr with
    | v4 value => simp [Addr.is4In6]
    | v6 value => cases family

theorem unmapPrefix_unmapPrefix (network : Prefix) : unmapPrefix (unmapPrefix network) = unmapPrefix network := by
  obtain ⟨isMasked, plain⟩ | ⟨value, bits, bound, isUnmapped⟩ := unmapPrefix_cases network
  · rw [isMasked]
    have again : unmapPrefix network.masked = unmapPrefix network := by
      unfold unmapPrefix
      rw [masked_masked]
    rw [again, isMasked]
  · rw [isUnmapped]
    refine unmapPrefix_v4 (masked_masked _) ?_
    simp [ofAddr, Addr.bitLen, bound, masked_v4 bound, is4, Addr.is4]

variable (policy : BypassCIDRPolicy)

/-- Whether one of the prefixes of the address's family holds it. -/
def BypassCIDRPolicy.holds : Addr → Bool
  | .v4 value => policy.ipv4.any (·.contains (.v4 value))
  | .v6 value => policy.ipv6.any (·.contains (.v6 value))

theorem BypassCIDRPolicy.found_eq : (∀ value, found (cidrKeys4 policy.ipv4) value = policy.holds (.v4 value)) ∧
    ∀ value, found (cidrKeys6 policy.ipv6) value = policy.holds (.v6 value) :=
  ⟨found_cidrKeys4 _, found_cidrKeys6 _⟩

theorem BypassCIDRPolicy.contains_eq (addr : Addr) : policy.contains addr = policy.holds addr.unmap := by
  unfold contains
  cases addr.unmap <;> rfl

/-- The addresses that the builder is given for a list of prefixes. -/
def addedHold (prefixes : List Prefix) (ip : Addr) : Bool :=
  prefixes.any fun network => network.isValid && (unmapPrefix network).contains ip

variable (builder : IPSetBuilder)

theorem builder_any (prefixes : List Prefix) (ip : Addr) (family : Prefix → Bool)
    (keeps : ∀ network : Prefix, network.contains ip → family network) :
    (builder.prefixes (((prefixes.filter isValid).map unmapPrefix).filter family)).any (·.contains ip) =
      addedHold prefixes ip := by
  have same := builder.covers (((prefixes.filter isValid).map unmapPrefix).filter family) (by
    intro network isMember
    obtain ⟨raw, -, rfl⟩ := mem_map.mp (mem_of_mem_filter isMember)
    exact unmapPrefix_proper raw) ip
  rw [Bool.eq_iff_iff, any_eq_true, same, addedHold, any_eq_true]
  constructor
  · rintro ⟨network, isMember, contains⟩
    obtain ⟨raw, isRaw, rfl⟩ := mem_map.mp (mem_of_mem_filter isMember)
    obtain ⟨isRaw, valid⟩ := mem_filter.mp isRaw
    exact ⟨raw, isRaw, by simp [valid, contains]⟩
  · rintro ⟨raw, isRaw, contains⟩
    rw [Bool.and_eq_true] at contains
    exact ⟨unmapPrefix raw, mem_filter.mpr ⟨mem_map_of_mem (mem_filter.mpr ⟨isRaw, contains.1⟩),
      keeps _ contains.2⟩, contains.2⟩

theorem compileBypassCIDRPolicy_holds (prefixes : List Prefix) (ip : Addr) :
    (compileBypassCIDRPolicy builder prefixes).holds ip = addedHold prefixes ip := by
  have is4_eq {network : Prefix} (contains : network.contains ip) : network.is4 = ip.is4 := by
    obtain ⟨_ | addr, bits⟩ := network
    · cases contains
    · simpa [is4] using is4_of_contains contains rfl
  cases ip with
  | v4 value => exact builder_any builder prefixes _ _ fun network contains => is4_eq contains
  | v6 value =>
    exact builder_any builder prefixes _ _ fun network contains => by simp [is4_eq contains, Addr.is4]

/-- Normalised prefixes, as the inbound keeps those of sources. -/
def NormalSources (prefixes : List Prefix) : Prop :=
  ∀ network ∈ prefixes, network.isValid ∧ unmapPrefix network = network

theorem normalizeSourceCIDR_normal {raw : List Prefix} (proper : ∀ network ∈ raw, network.Proper)
    (normalizes : normalizeSourceCIDR name raw = .ok prefixes) : NormalSources prefixes := by
  simp only [normalizeSourceCIDR, bind_eq_ok, ensure_eq_ok, pure_eq_ok] at normalizes
  obtain ⟨_, allValid, rfl⟩ := normalizes
  intro network isMember
  obtain ⟨other, isOther, rfl⟩ := mem_map.mp (mem_eraseDups.mp isMember)
  exact ⟨unmapPrefix_isValid (proper other isOther) (all_eq_true.mp allValid other isOther),
    unmapPrefix_unmapPrefix other⟩

theorem NormalSources.holds_eq (normal : NormalSources prefixes) (ip : Addr) :
    (compileBypassCIDRPolicy builder prefixes).holds ip = prefixes.any (·.contains ip) := by
  rw [compileBypassCIDRPolicy_holds, addedHold, Bool.eq_iff_iff, any_eq_true, any_eq_true]
  constructor
  · rintro ⟨network, isMember, contains⟩
    rw [Bool.and_eq_true, (normal network isMember).2] at contains
    exact ⟨network, isMember, contains.2⟩
  · rintro ⟨network, isMember, contains⟩
    exact ⟨network, isMember, by rw [(normal network isMember).1, (normal network isMember).2, contains]; rfl⟩

/-- A prefix of a policy holds its own address, so an empty policy was made of nothing. -/
theorem compileBypassCIDRPolicy_isEmpty (normal : NormalSources prefixes) :
    (compileBypassCIDRPolicy builder prefixes).isEmpty = prefixes.isEmpty := by
  cases prefixes with
  | nil =>
    have empty : builder.prefixes [] = [] := by
      rw [eq_nil_iff_forall_not_mem]
      intro network isMember
      obtain ⟨valid, proper⟩ := builder.valid [] network isMember
      obtain ⟨bits, isBits⟩ := Option.isSome_iff_exists.mp valid
      obtain ⟨ip, isAddr, -⟩ := proper bits isBits
      have held := (builder.covers [] (by simp) ip).mp ⟨network, isMember, contains_self valid isAddr⟩
      simp at held
    simp [compileBypassCIDRPolicy, BypassCIDRPolicy.isEmpty, empty]
  | cons network rest =>
    obtain ⟨valid, unmapped⟩ := normal network (by simp)
    obtain ⟨bits, isBits⟩ := Option.isSome_iff_exists.mp valid
    have proper : network.Proper := unmapped ▸ unmapPrefix_proper network
    obtain ⟨ip, isAddr, -⟩ := proper bits isBits
    have contains := contains_self valid isAddr
    have holds : (compileBypassCIDRPolicy builder (network :: rest)).holds ip := by simp [normal.holds_eq, contains]
    rw [isEmpty_cons, BypassCIDRPolicy.isEmpty, Bool.eq_false_iff]
    intro isEmpty
    simp only [Bool.and_eq_true, List.isEmpty_iff] at isEmpty
    cases ip <;> simp [BypassCIDRPolicy.holds, isEmpty] at holds

/-! ## FakeIP ranges -/

/-- A FakeIP range of one family as the inbound keeps it, if it is valid. -/
structure NormalFakeIP (network : Prefix) (ipv4 : Bool) : Prop where
  masked : network.masked = network
  family : network.is4 = ipv4
  plain : network.addr.any Addr.is4In6 = false

theorem normalizeFakeIPPrefix_normal {raw : Prefix} {ipv4 : Bool} {safety : List Prefix}
    (normalizes : normalizeFakeIPPrefix name raw ipv4 safety = .ok network) (valid : network.isValid) :
    NormalFakeIP network ipv4 := by
  unfold normalizeFakeIPPrefix at normalizes
  split at normalizes
  · rename_i invalid
    cases normalizes
    simp [valid] at invalid
  · simp only [bind_eq_ok, ensure_eq_ok, pure_eq_ok] at normalizes
    obtain ⟨_, ⟨family, plain⟩, _, -, rfl⟩ := normalizes
    exact ⟨raw.masked_masked, family, plain⟩

theorem compileMustIntercept_fakeIP {family : String} {normalized : Prefix} {ipv4 : Bool}
    {mustIntercept : List Prefix} (normal : network.isValid → NormalFakeIP network ipv4)
    (normalizes : normalizeAddressPrefix name network ipv4 = .ok normalized)
    (compiles : compileMustInterceptPrefixes family normalized [] ipv4 = .ok mustIntercept) :
    mustIntercept = if network.isValid then [network] else [] := by
  simp only [compileMustInterceptPrefixes, addMustIntercept, bind_eq_ok, ensure_eq_ok, pure_eq_ok] at compiles
  obtain ⟨_, isList, _, -, rfl⟩ := compiles
  cases isList
  unfold normalizeAddressPrefix at normalizes
  cases valid : network.isValid with
  | false =>
    rw [if_pos valid] at normalizes
    cases normalizes
    rfl
  | true =>
    obtain ⟨isMasked, family, plain⟩ := normal valid
    simp only [valid, Bool.true_eq_false, if_false, isMasked, family, plain, ne_eq, not_true_eq_false, false_or,
      Bool.false_eq_true] at normalizes
    cases normalizes
    simp [valid]

/-! ## Ports -/

def Transport.enabled (protocol : Transport) (enableTCP enableUDP : Bool) : Bool :=
  match protocol with
  | .tcp => enableTCP
  | .udp => enableUDP

theorem mem_portKeys {port : Nat} {key : PortKey} :
    key ∈ portKeys enableTCP enableUDP port ↔
      key.protocol.enabled enableTCP enableUDP ∧ key.port = UInt16.ofNat port := by
  obtain ⟨protocol, keyPort⟩ := key
  cases protocol <;> cases enableTCP <;> cases enableUDP <;> simp [portKeys, Transport.enabled]

variable {compiled : List PortKey} {ranges : List PortRange} {addresses : List Addr}

theorem mem_compilePortPolicyFrom {entries : List PortKey}
    {key : PortKey} (compiles : compilePortPolicyFrom enableTCP enableUDP entries ranges = .ok compiled)
    (enabled : key.protocol.enabled enableTCP enableUDP) :
    key ∈ compiled ↔ key ∈ entries ∨ containsPort ranges key.port := by
  induction ranges generalizing entries with
  | nil =>
    cases compiles
    simp [containsPort]
  | cons range ranges ih =>
    simp only [compilePortPolicyFrom, bind_eq_ok, ensure_eq_ok] at compiles
    obtain ⟨_, ⟨-, ordered⟩, _, -, compiles⟩ := compiles
    have inRange : key ∈ (range' range.start.toNat (range.stop.toNat + 1 - range.start.toNat)).flatMap
        (portKeys enableTCP enableUDP) ↔ range.start ≤ key.port ∧ key.port ≤ range.stop := by
      simp only [mem_flatMap, mem_portKeys, enabled, true_and, mem_range'_1]
      rw [UInt16.le_iff_toNat_le, UInt16.le_iff_toNat_le]
      have bound := range.stop.toNat_lt
      constructor
      · rintro ⟨port, inside, isPort⟩
        have portNat : key.port.toNat = port := by
          rw [isPort, UInt16.toNat_ofNat']
          omega
        omega
      · intro inside
        exact ⟨key.port.toNat, by omega, by simp⟩
    rw [ih compiles, mem_append, inRange, containsPort, containsPort, any_cons, Bool.or_eq_true,
      decide_eq_true_eq, or_assoc]

theorem contains_compilePortPolicy
    {protocol : Transport} (compiles : compilePortPolicy ranges enableTCP enableUDP = .ok compiled)
    (enabled : protocol.enabled enableTCP enableUDP) (port : UInt16) :
    compiled.contains ⟨protocol, port⟩ = containsPort ranges port := by
  rw [Bool.eq_iff_iff, contains_iff_mem, mem_compilePortPolicyFrom compiles enabled]
  simp

/-! ## Host addresses -/

theorem mem_compileHostAddresses :
    (∀ value, value ∈ (compileHostAddresses addresses).1 ↔ .v4 value ∈ addresses.map Addr.unmap) ∧
      ∀ value, value ∈ (compileHostAddresses addresses).2 ↔ .v6 value ∈ addresses.map Addr.unmap := by
  refine ⟨fun value => ?_, fun value => ?_⟩
  all_goals
    rw [compileHostAddresses, mem_insertionSort, mem_eraseDups, mem_filterMap]
    constructor
    · rintro ⟨address, isMember, isValue⟩
      cases address <;> cases isValue
      exact isMember
    · exact fun isMember => ⟨_, isMember, rfl⟩

theorem unmap_unmap (addr : Addr) : addr.unmap.unmap = addr.unmap := by
  cases addr with
  | v4 value => rfl
  | v6 value =>
    by_cases mapped : value.toNat / 2 ^ 32 = 0xffff
    · rw [Addr.unmap, if_pos mapped, Addr.unmap]
    · rw [Addr.unmap, if_neg mapped, Addr.unmap, if_neg mapped]

theorem collectHostAddresses_unmap (addresses : List Prefix) :
    (collectHostAddresses addresses).map Addr.unmap = collectHostAddresses addresses := by
  conv_rhs => rw [← map_id (collectHostAddresses addresses)]
  refine map_congr_left fun address isMember => ?_
  obtain ⟨network, -, isAddr⟩ := mem_filterMap.mp (mem_eraseDups.mp isMember)
  split at isAddr
  · obtain ⟨isAddr, -⟩ := Option.filter_eq_some_iff.mp isAddr
    obtain ⟨raw, -, rfl⟩ := Option.map_eq_some_iff.mp isAddr
    exact unmap_unmap raw
  · cases isAddr

/-! ## Private addresses -/

theorem ipv4PrivateAddress_eq {addr : Addr} (family : addr.is4) :
    ipv4PrivateAddress addr = preMatchPrivateAddress addr := by
  have unmapped : addr.unmap = addr := by
    cases addr <;> first | rfl | cases family
  rw [Bool.eq_iff_iff]
  simp only [ipv4PrivateAddress, preMatchPrivateAddress, unmapped, family, if_true, Bool.or_eq_true, Bool.and_eq_true,
    beq_iff_eq, decide_eq_true_eq, ge_iff_le]
  split
  · rename_i outside
    rcases outside with isZero | isTen | isLoopback | isMulticast
    · simp [isZero]
    · simp [isTen]
    · simp [isLoopback]
    · simp [isMulticast]
  · split
    · simp_all
    · split
      · simp_all
      · split <;> simp_all

theorem ipv6PrivateAddress_eq {addr : Addr} (family : addr.is4 = false) (plain : addr.is4In6 = false) :
    ipv6PrivateAddress addr = preMatchPrivateAddress addr := by
  rw [Bool.eq_iff_iff]
  simp only [ipv6PrivateAddress, preMatchPrivateAddress, Addr.unmap_of_not_is4In6 plain, family, Bool.or_eq_true,
    Bool.and_eq_true, beq_iff_eq, Bool.false_eq_true, if_false]
  split <;> simp_all

end SingBox.Ebpf
