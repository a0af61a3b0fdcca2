import SingBox.Srs.RoundTrip

/-! # Rule-set files

`srs.Write` and `srs.Read`: a magic number, a version and a compressed stream of rules.
What is written is read back: the same rules with the same fields, matchers that accept the
same names, and address sets with the same addresses.
-/

namespace SingBox.Srs

open Lib.Bytes Lib.Codec Options List

/-- The packages with what the file format uses of them: zlib and the matchers' own formats
are inverse to each other, and a built set holds the addresses of its prefixes. -/
structure Libraries (matchers : Matchers) extends Packages matchers where
  deflate : Bytes → Bytes
  inflate : Bytes → Except ReadError Bytes
  inflate_deflate : ∀ payload, inflate (deflate payload) = .ok payload
  writeMatcher : matchers.Domain → Bytes
  readMatcher : Reader matchers.Domain
  reads_matcher : ∀ matcher, Reads readMatcher (writeMatcher matcher) matcher
  writeAdGuardMatcher : matchers.AdGuard → Bytes
  readAdGuardMatcher : Reader matchers.AdGuard
  reads_adGuardMatcher : ∀ matcher, Reads readAdGuardMatcher (writeAdGuardMatcher matcher) matcher
  buildIPSet_holds : ∀ {networks set}, buildIPSet networks = .ok set →
    ∀ ip, set.Holds ip ↔ ∃ network ∈ networks, network.contains ip

variable {matchers : Matchers} (libraries : Libraries matchers)

/-! ## Files -/

def plainSink : Sink matchers Empty where
  isMmap := false
  writeMatcher := fun matcher => pure (libraries.writeMatcher matcher)
  writeAdGuardMatcher := fun matcher => pure (libraries.writeAdGuardMatcher matcher)
  writeIPSet := fun set => pure (writeIPSet set)

def plainSource : Source matchers where
  readMatcher := libraries.readMatcher
  readAdGuardMatcher := libraries.readAdGuardMatcher
  readIPSet := readIPSet

def magicBytes : Bytes := [0x53, 0x52, 0x53]

def ruleSetVersionCurrent : UInt8 := 5

/-- `PlainRuleSetCompat`, without the raw message. -/
structure PlainRuleSetCompat (matchers : Matchers) where
  version : UInt8
  rules : List (Options.HeadlessRule matchers)

def Write (ruleSet : PlainRuleSet matchers) (generateVersion : UInt8) : Except String Bytes :=
  match writeRules libraries.toPackages (plainSink libraries) generateVersion ruleSet.rules [] with
  | .error err => .error err
  | .ok (bytes, _) =>
    .ok (magicBytes ++ generateVersion :: libraries.deflate (uvarint ruleSet.rules.length ++ bytes))

def Read (recover : Bool) (input : Bytes) : Except ReadError (PlainRuleSetCompat matchers) := do
  let (magic, input) ← readFull 3 input
  if magic ≠ magicBytes then .error (.invalid "invalid sing-box rule-set file")
  else
    let (version, input) ← readByte input
    if version > ruleSetVersionCurrent then .error (.invalid s!"unsupported version: {version}")
    else
      let payload ← libraries.inflate input
      let (rules, _) ← readRules libraries.toPackages (plainSource libraries) recover payload
      return { version, rules }

/-! ## What a round trip keeps -/

/-- The domain matcher is there when there were domains, and accepts what the matcher built
from them accepts. -/
def SameDomains (generateVersion : UInt8) (written read : Options.DefaultHeadlessRule matchers) : Prop :=
  if written.domain = [] ∧ written.domainSuffix = [] then read.domainMatcher = none
  else ∃ matcher, read.domainMatcher = some matcher ∧ ∀ name, libraries.accepts matcher name =
    libraries.accepts (libraries.newMatcher written.domain written.domainSuffix (generateVersion == 1)) name

def SameAdGuardDomains (written read : Options.DefaultHeadlessRule matchers) : Prop :=
  if written.adGuardDomain = [] then read.adGuardDomainMatcher = none
  else ∃ matcher, read.adGuardDomainMatcher = some matcher ∧ ∀ name, libraries.acceptsAdGuard matcher name =
    libraries.acceptsAdGuard (libraries.newAdGuardMatcher written.adGuardDomain) name

/-- The set holds the addresses of the prefixes. -/
def SameAddresses (written : List (Option Prefix)) (read : Option Ipset.Set) : Prop :=
  ∀ ip, (∃ set ∈ read, set.contains (some ip)) ↔ ∃ network, some network ∈ written ∧ network.contains ip

structure SameDefaultRule (generateVersion : UInt8) (written read : Options.DefaultHeadlessRule matchers) :
    Prop where
  queryType : read.queryType = written.queryType
  network : read.network = written.network
  domains : SameDomains libraries generateVersion written read
  domainKeyword : read.domainKeyword = written.domainKeyword
  domainRegex : read.domainRegex = written.domainRegex
  sourceIPCIDR : SameAddresses written.sourceIPCIDR read.sourceIPSet
  ipCIDR : SameAddresses written.ipCIDR read.ipSet
  sourcePort : read.sourcePort = written.sourcePort
  sourcePortRange : read.sourcePortRange = written.sourcePortRange
  port : read.port = written.port
  portRange : read.portRange = written.portRange
  processName : read.processName = written.processName
  processPath : read.processPath = written.processPath
  processPathRegex : read.processPathRegex = written.processPathRegex
  packageName : read.packageName = written.packageName
  packageNameRegex : read.packageNameRegex = written.packageNameRegex
  networkType : read.networkType = written.networkType
  networkIsExpensive : read.networkIsExpensive = written.networkIsExpensive
  networkIsConstrained : read.networkIsConstrained = written.networkIsConstrained
  networkInterfaceAddress : read.networkInterfaceAddress = written.networkInterfaceAddress
  defaultInterfaceAddress : read.defaultInterfaceAddress = written.defaultInterfaceAddress
  wifiSSID : read.wifiSSID = written.wifiSSID
  wifiBSSID : read.wifiBSSID = written.wifiBSSID
  adGuardDomains : SameAdGuardDomains libraries written read
  invert : read.invert = written.invert
  domainMatchStrategy : read.domainMatchStrategy = .asIs

/-- The same rule: type, mode, invert flag and nesting, and the fields of default rules. -/
inductive SameRule (generateVersion : UInt8) :
    Options.HeadlessRule matchers → Options.HeadlessRule matchers → Prop where
  | default {written read : Options.DefaultHeadlessRule matchers} :
      SameDefaultRule libraries generateVersion written read → SameRule generateVersion (.default written) (.default read)
  | logical {mode : Options.LogicalMode} {written read : List (Options.HeadlessRule matchers)}
      {strategy : DomainMatchStrategy} {invert : Bool} : List.Forall₂ (SameRule generateVersion) written read →
      SameRule generateVersion (.logical mode written strategy invert) (.logical mode read .asIs invert)
  | unknown (type : String) : SameRule generateVersion (.unknown type) (.unknown type)

variable {libraries} {generateVersion : UInt8}

theorem plain_readBy : ReadBy (plainSink libraries) (plainSource libraries) [] where
  matcher := by
    intro matcher before bytes after ok
    cases ok
    exact ⟨prefix_rfl, fun _ => libraries.reads_matcher matcher⟩
  adGuardMatcher := by
    intro matcher before bytes after ok
    cases ok
    exact ⟨prefix_rfl, fun _ => libraries.reads_adGuardMatcher matcher⟩
  ipSet := by
    intro set before bytes after ok
    cases ok
    exact ⟨prefix_rfl, fun _ fits => reads_ipSet fits.uvarint⟩

variable {networks : List (Option Prefix)}

theorem contains_buildCIDR {set : Ipset.Set} (built : buildCIDR libraries.toPackages networks = .ok set) (ip : Addr) :
    set.contains (some ip) ↔ ∃ network, some network ∈ networks ∧ network.contains ip := by
  unfold buildCIDR at built
  split at built
  · cases built
  · cases isSet : libraries.buildIPSet (networks.filterMap id) with
    | error err =>
      rw [isSet] at built
      cases built
    | ok builtSet =>
      rw [isSet] at built
      cases built
      rw [Ipset.Set.contains_holds, Ipset.fromIPSet_holds, libraries.buildIPSet_holds isSet]
      simp

/-- A set of the stream has the addresses of the prefixes it was built from. -/
theorem sameAddresses_writtenSet (rawSet : Option Ipset.Set)
    (builds : networks ≠ [] → ∃ set, buildCIDR libraries.toPackages networks = .ok set) :
    SameAddresses networks (writtenSet libraries.toPackages false networks rawSet) := by
  intro ip
  unfold writtenSet
  by_cases nonempty : networks ≠ []
  · obtain ⟨set, built⟩ := builds nonempty
    rw [if_pos nonempty, built, ← contains_buildCIDR built ip]
    simp [Except.toOption]
  · simp_all

variable (recover : Bool)

theorem sameDefaultRule_readBack {rule : Options.DefaultHeadlessRule matchers}
    (builds : Builds libraries.toPackages rule) :
    SameDefaultRule libraries generateVersion rule
    (readBack libraries.toPackages false recover generateVersion rule) where
  queryType := rfl
  network := rfl
  domains := by
    unfold SameDomains
    split
    case isTrue empty => simp [readBack, writtenMatcher, empty]
    case isFalse nonempty => exact ⟨_, if_pos (by tauto), fun _ => rfl⟩
  domainKeyword := rfl
  domainRegex := rfl
  sourceIPCIDR := sameAddresses_writtenSet rule.sourceIPSet builds.sourceIPCIDR
  ipCIDR := sameAddresses_writtenSet rule.ipSet builds.ipCIDR
  sourcePort := rfl
  sourcePortRange := rfl
  port := rfl
  portRange := rfl
  processName := rfl
  processPath := rfl
  processPathRegex := rfl
  packageName := rfl
  packageNameRegex := rfl
  networkType := rfl
  networkIsExpensive := rfl
  networkIsConstrained := rfl
  networkInterfaceAddress := rfl
  defaultInterfaceAddress := rfl
  wifiSSID := rfl
  wifiBSSID := rfl
  adGuardDomains := by
    unfold SameAdGuardDomains
    split
    case isTrue empty => simp [readBack, writtenAdGuardMatcher, empty]
    case isFalse nonempty => exact ⟨_, if_pos nonempty, fun _ => rfl⟩
  invert := rfl
  domainMatchStrategy := rfl

theorem sameRule_readBackRule {rule : Options.HeadlessRule matchers}
    (builds : rule.Everywhere (Builds libraries.toPackages) fun _ => True) :
    SameRule libraries generateVersion rule (readBackRule libraries.toPackages false recover generateVersion rule) := by
  induction builds with
  | default builds => exact .default (sameDefaultRule_readBack recover builds)
  | logical _ _ ih =>
    rw [readBackRule, readBackRules_eq_map]
    exact .logical (forall₂_map_right_iff.mpr (forall₂_same.mpr ih))
  | unknown type => exact .unknown type

theorem read_of_header {version : UInt8} (supported : version ≤ ruleSetVersionCurrent) (compressed : Bytes) :
    Read libraries recover (magicBytes ++ version :: compressed) = do
      let payload ← libraries.inflate compressed
      let (rules, _) ← readRules libraries.toPackages (plainSource libraries) recover payload
      return { version, rules } := by
  have magic : readFull 3 (magicBytes ++ version :: compressed) = .ok (magicBytes, version :: compressed) :=
    (reads_full rfl : Reads (readFull 3) magicBytes magicBytes) (version :: compressed)
  have versionRead : readByte (version :: compressed) = .ok (version, compressed) := reads_byte version compressed
  unfold Read
  exact if_neg (UInt8.not_lt.mpr supported)

/-- What `Write` produces, `Read` reads. -/
theorem read_of_write (libraries : Libraries matchers) (ruleSet : PlainRuleSet matchers)
    {generateVersion : UInt8} (supported : generateVersion ≤ ruleSetVersionCurrent)
    (depth : Options.HeadlessRule.depths ruleSet.rules ≤ 100)
    (valid : ∀ rule ∈ ruleSet.rules, rule.Everywhere DefaultHeadlessRule.ValidAddresses fun _ => True)
    {bytes : Bytes} (ok : Write libraries ruleSet generateVersion = .ok bytes) (recover : Bool) :
    ∃ rules, Read libraries recover bytes = .ok ⟨generateVersion, rules⟩ ∧
      List.Forall₂ (SameRule libraries generateVersion) ruleSet.rules rules := by
  unfold Write at ok
  cases isWritten : writeRules libraries.toPackages (plainSink libraries) generateVersion ruleSet.rules [] with
  | error err =>
    rw [isWritten] at ok
    cases ok
  | ok result =>
    obtain ⟨stream, after⟩ := result
    rw [isWritten] at ok
    cases ok
    have written := writeRules_written recover plain_readBy ruleSet.rules ruleSet.rulesFit (Nat.lt_succ_of_le depth) isWritten
    refine ⟨readBackRules libraries.toPackages false recover generateVersion ruleSet.rules, ?_, ?_⟩
    · have kept : after <+: [] := prefix_nil.mpr (eq_nil_iff_forall_not_mem.mpr fun blob => blob.elim)
      have reads := (written.counted ruleSet.fits kept fun index => s!"read rule[{index}]").reads
        (fun rule isRule => (valid rule isRule).mono (·.readable) id) []
      rw [append_nil] at reads
      rw [read_of_header recover supported, libraries.inflate_deflate]
      dsimp only [bind, Except.bind]
      rw [show readRules libraries.toPackages (plainSource libraries) recover _ = _ from reads]
      rfl
    · rw [readBackRules_eq_map]
      exact forall₂_map_right_iff.mpr (forall₂_same.mpr fun rule isRule =>
        sameRule_readBackRule recover (written.builds rule isRule))

/-! ## One file -/

namespace Sample

/-- `10.0.0.0/8`. -/
def network : Prefix := ⟨some (.v4 0x0a000000#32), some 8⟩

def networkSet : Netipx.IPSet where
  ranges := [.v4 ⟨0x0a000000#32, 0x0affffff#32⟩]
  ordered4 := ⟨by decide, List.pairwise_singleton _ _⟩
  ordered6 := ⟨by decide, List.Pairwise.nil⟩
  fits := by decide

theorem networkSet_holds (ip : Addr) : networkSet.Holds ip ↔ network.contains ip := by
  cases ip with
  | v4 value =>
    simp [networkSet, Netipx.IPSet.Holds, Netipx.IPRange.Holds, Ipset.Range.Holds, network, Prefix.contains,
      Prefix.leading, Addr.is4]
    bv_omega
  | v6 value => simp [networkSet, Netipx.IPSet.Holds, Netipx.IPRange.Holds, network, Prefix.contains, Addr.is4]

/-- The stream of the rules below. -/
def payload : Bytes :=
  [0x01, 0x01, 0x01, 0x01, 0x00, 0x01, 0x01, 0x03, 0x74, 0x63, 0x70, 0x06, 0x01, 0x00, 0x00, 0x00, 0x00, 0x00, 0x00, 0x00,
    0x01, 0x04, 0x0a, 0x00, 0x00, 0x00, 0x04, 0x0a, 0xff, 0xff, 0xff, 0x09, 0x01, 0x01, 0xbb, 0xff, 0x00, 0x01]

/-- What zlib makes of it. -/
def compressed : Bytes :=
  [0x78, 0xda, 0x62, 0x64, 0x64, 0x64, 0x64, 0x60, 0x64, 0x64, 0x2e, 0x49, 0x2e, 0x60, 0x63, 0x64, 0x80, 0x00, 0x46, 0x16,
    0x2e, 0x06, 0x06, 0x06, 0x16, 0xae, 0xff, 0xff, 0xff, 0x73, 0x32, 0x32, 0xee, 0xfe, 0xcf, 0xc0, 0x08, 0x08, 0x00, 0x00,
    0xff, 0xff, 0x49, 0xce, 0x06, 0x38]

/-- zlib on that stream; other streams are not compressed. -/
def exchange (bytes : Bytes) : Bytes :=
  if bytes = payload then compressed else if bytes = compressed then payload else bytes

theorem exchange_exchange (bytes : Bytes) : exchange (exchange bytes) = bytes := by
  have differ : compressed ≠ payload := by decide
  unfold exchange
  by_cases isPayload : bytes = payload
  · rw [if_pos isPayload, if_neg differ, if_pos rfl, isPayload]
  · by_cases isCompressed : bytes = compressed
    · rw [if_neg isPayload, if_pos isCompressed, if_pos rfl, isCompressed]
    · rw [if_neg isPayload, if_neg isCompressed, if_neg isPayload, if_neg isCompressed]

/-- Packages for rules without domains. -/
def packages : Libraries ⟨Unit, Unit⟩ where
  newMatcher _ _ _ := ()
  newAdGuardMatcher _ := ()
  dump _ := ([], [])
  dumpAdGuard _ := []
  buildIPSet networks := if networks = [network] then .ok networkSet else .error "not built"
  prefixes _ := [network]
  deflate := exchange
  inflate bytes := .ok (exchange bytes)
  inflate_deflate bytes := congrArg Except.ok (exchange_exchange bytes)
  writeMatcher _ := []
  readMatcher := pure ()
  reads_matcher _ := .pure ()
  writeAdGuardMatcher _ := []
  readAdGuardMatcher := pure ()
  reads_adGuardMatcher _ := .pure ()
  accepts _ _ := false
  acceptsAdGuard _ _ := false
  buildIPSet_holds := by
    intro networks set built ip
    split at built
    case isTrue isNetwork =>
      cases built
      rw [networkSet_holds, isNetwork]
      simp
    case isFalse => cases built

def options : Options.DefaultHeadlessRule ⟨Unit, Unit⟩ :=
  { network := [[0x74, 0x63, 0x70]], ipCIDR := [some network], port := [443] }

/-- `or` of one default rule, inverted. -/
def ruleSet : PlainRuleSet ⟨Unit, Unit⟩ where
  rules := [.logical .or [.default options] .asIs true]
  fits := by simp [Options.Fits]
  rulesFit := by
    simp only [List.forall_mem_singleton]
    refine .logical (by simp [Options.Fits]) ?_
    simp only [List.forall_mem_singleton]
    refine .default ?_
    constructor <;> simp [options, Options.Fits, TextsFit, AddressesFit]

end Sample

theorem sample_reads_back : ∃ rules, Read Sample.packages true (magicBytes ++ 1 :: Sample.compressed) = .ok ⟨1, rules⟩ ∧
    List.Forall₂ (SameRule Sample.packages 1) Sample.ruleSet.rules rules := by
  refine read_of_write Sample.packages Sample.ruleSet (by decide) (by decide) ?_ (by rfl) true
  simp only [Sample.ruleSet, forall_mem_singleton]
  refine .logical trivial ?_
  simp only [forall_mem_singleton]
  exact .default ⟨by simp [Sample.options], by simp [Sample.options]⟩

end SingBox.Srs
