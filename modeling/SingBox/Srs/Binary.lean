import SingBox.Srs.Options

/-! # The binary rule-set format

`common/srs/binary.go`. A rule is written as a type byte and tagged items that end with a
final tag; the reader takes the items in any order. Matchers and address sets are written
into the stream, or, in a memory-mapped file, as the index of a blob: a `Sink` says how, and
a `Source` how they are read.
-/

namespace SingBox.Srs

open Lib.Bytes Lib.Codec Options

/-! ## Tags -/

/-- The `ruleItem` constants in their order, without the final one. -/
inductive Item where
  | queryType
  | network
  | domain
  | domainKeyword
  | domainRegex
  | sourceIPCIDR
  | ipCIDR
  | sourcePort
  | sourcePortRange
  | port
  | portRange
  | processName
  | processPath
  | packageName
  | wifiSSID
  | wifiBSSID
  | adGuardDomain
  | processPathRegex
  | networkType
  | networkIsExpensive
  | networkIsConstrained
  | networkInterfaceAddress
  | defaultInterfaceAddress
  | packageNameRegex
deriving DecidableEq, Repr

def Item.tag : Item → UInt8
  | .queryType => 0
  | .network => 1
  | .domain => 2
  | .domainKeyword => 3
  | .domainRegex => 4
  | .sourceIPCIDR => 5
  | .ipCIDR => 6
  | .sourcePort => 7
  | .sourcePortRange => 8
  | .port => 9
  | .portRange => 10
  | .processName => 11
  | .processPath => 12
  | .packageName => 13
  | .wifiSSID => 14
  | .wifiBSSID => 15
  | .adGuardDomain => 16
  | .processPathRegex => 17
  | .networkType => 18
  | .networkIsExpensive => 19
  | .networkIsConstrained => 20
  | .networkInterfaceAddress => 21
  | .defaultInterfaceAddress => 22
  | .packageNameRegex => 23

def ruleItemFinal : UInt8 := 0xff

/-- The order in which `writeDefaultRule` writes. -/
def writeOrder : List Item :=
  [.queryType, .network, .domain, .domainKeyword, .domainRegex, .sourceIPCIDR, .ipCIDR, .sourcePort, .sourcePortRange,
    .port, .portRange, .processName, .processPath, .processPathRegex, .packageName, .packageNameRegex, .networkType,
    .networkIsExpensive, .networkIsConstrained, .networkInterfaceAddress, .defaultInterfaceAddress, .wifiSSID,
    .wifiBSSID, .adGuardDomain]

def Item.ofTag (tag : UInt8) : Option Item := writeOrder.find? fun item => item.tag == tag

theorem Item.ofTag_tag (item : Item) : Item.ofTag item.tag = some item := by cases item <;> rfl

theorem Item.tag_ne_final (item : Item) : item.tag ≠ ruleItemFinal := by cases item <;> decide

/-! ## Packages -/

variable {matchers : Matchers} {Blob : Type}

/-- The packages that the format rests on: sing's `domain`, and the builder of `netipx`. -/
structure Packages (matchers : Matchers) where
  newMatcher : List Text → List Text → (generateLegacy : Bool) → matchers.Domain
  newAdGuardMatcher : List Text → matchers.AdGuard
  /-- `Matcher.Match`. -/
  accepts : matchers.Domain → Text → Bool
  acceptsAdGuard : matchers.AdGuard → Text → Bool
  dump : matchers.Domain → List Text × List Text
  dumpAdGuard : matchers.AdGuard → List Text
  /-- `AddPrefix` for every prefix, then `IPSet`. -/
  buildIPSet : List Prefix → Except String Netipx.IPSet
  prefixes : Ipset.Set → List Prefix

/-- A writer keeps the blobs it has laid aside. -/
abbrev Put (Blob α : Type) := StateT (List Blob) (Except String) α

structure Sink (matchers : Matchers) (Blob : Type) where
  /-- `mmap != nil`. -/
  isMmap : Bool
  writeMatcher : matchers.Domain → Put Blob Bytes
  writeAdGuardMatcher : matchers.AdGuard → Put Blob Bytes
  writeIPSet : Ipset.Set → Put Blob Bytes

structure Source (matchers : Matchers) where
  readMatcher : Reader matchers.Domain
  readAdGuardMatcher : Reader matchers.AdGuard
  readIPSet : Reader Ipset.Set

/-! ## Items -/

def writeTexts (texts : List Text) : Bytes := writeCounted (fun text => uvarint text.length ++ text) texts

def writeRuleItemString (item : Item) (value : List Text) : Bytes := item.tag :: writeTexts value

/-- `varbin.ReadSlice[byte]`. -/
def readText : Reader Text := do
  let length ← readUvarint
  readFull length

def readRuleItemString : Reader (List Text) := readCounted fun _ => readText

def writeRuleItemUint8 (item : Item) (value : List UInt8) : Bytes := item.tag :: (uvarint value.length ++ value)

def writeRuleItemUint16 (item : Item) (value : List UInt16) : Bytes :=
  item.tag :: writeCounted (fun number => toBigEndian 2 number.toNat) value

/-- `varbin.ReadSlice[uint16]`. -/
def readUint16s : Reader (List UInt16) := readCounted fun _ => do
  return UInt16.ofNat (← readBigEndian 2)

def writeBool (value : Bool) : Bytes := [if value then 1 else 0]

def readBool : Reader Bool := do
  return (← readByte) != 0

/-- `Prefixable.Build(netip.Prefix{})`. -/
def buildPrefix (network : Option Prefix) : Prefix := network.getD ⟨none, none⟩

def writePrefixes (networks : List (Option Prefix)) : Bytes :=
  writeCounted (fun network => writePrefix (buildPrefix network)) networks

def readPrefixes : Reader (List (Option Prefix)) := readCounted fun _ => do
  return some (← readPrefix)

def writeAddressMap (map : TypedMap UInt8 (List (Option Prefix))) : Bytes :=
  writeCounted (fun entry => entry.1 :: writePrefixes entry.2) map.entries

def readAddressMap : Reader (TypedMap UInt8 (List (Option Prefix))) := do
  let entries ← readCounted fun _ => do
    let key ← readByte
    let value ← readPrefixes
    return (key, value)
  return .ofEntries entries

variable (message : String)

def cause {α : Type} (message : String) (result : Except String α) : Except String α :=
  result.mapError fun err => message ++ ": " ++ err

/-- The position of the first prefix that is missing. -/
def firstMissing : List (Option Prefix) → Nat → Option Nat
  | [], _ => none
  | none :: _, index => some index
  | some _ :: networks, index => firstMissing networks (index + 1)

/-- The set that `writeRuleItemCIDR` builds. -/
def buildCIDR (packages : Packages matchers) (networks : List (Option Prefix)) :
    Except String Ipset.Set :=
  match firstMissing networks 0 with
  | some index => .error s!"parse [{index}]: empty CIDR"
  | none => (packages.buildIPSet (networks.filterMap id)).map Ipset.fromIPSet

/-! ## Rules -/

section Write

variable (packages : Packages matchers) (sink : Sink matchers Blob) (generateVersion : UInt8)

def fails {α : Type} (message : String) : Put Blob α := fun _ => .error message

/-- An item that is written when it is present, from a version on. -/
def since (version : UInt8) (name : String) (present : Bool) (bytes : Bytes) : Put Blob Bytes :=
  if present then
    if generateVersion < version then
      fails ("`" ++ name ++ "` rule item is only supported in version " ++ toString version.toNat ++ " or later")
    else pure bytes
  else pure []

/-- An item that every version has. -/
def always (present : Bool) (bytes : Bytes) : Put Blob Bytes := if present then pure bytes else pure []

def writeRuleItemCIDR (item : Item) (value : List (Option Prefix)) (rawSet : Option Ipset.Set) : Put Blob Bytes := do
  if value ≠ [] then
    let set ← (buildCIDR packages value : Except String Ipset.Set)
    return item.tag :: (← sink.writeIPSet set)
  else match rawSet with
    | some set => return item.tag :: (← sink.writeIPSet set)
    | none => return []

/-- The `source_ip_cidr` and `ip_cidr` items; an error names the field. -/
def writeCIDR (item : Item) (name : String) (value : List (Option Prefix)) (rawSet : Option Ipset.Set) :
    Put Blob Bytes := fun blobs =>
  if value ≠ [] ∨ sink.isMmap ∧ rawSet.isSome then
    cause name (writeRuleItemCIDR packages sink item value rawSet blobs)
  else .ok ([], blobs)

variable (rule : Options.DefaultHeadlessRule matchers)

def writeDomain : Put Blob Bytes :=
  if rule.domain ≠ [] ∨ rule.domainSuffix ≠ [] then
    if [] ∈ rule.domain then fails "domain: empty item is not allowed"
    else if [] ∈ rule.domainSuffix then fails "domain_suffix: empty item is not allowed"
    else do
      let matcher := packages.newMatcher rule.domain rule.domainSuffix (generateVersion == 1)
      return Item.domain.tag :: (← sink.writeMatcher matcher)
  else match sink.isMmap, rule.domainMatcher with
    | true, some matcher => return Item.domain.tag :: (← sink.writeMatcher matcher)
    | _, _ => pure []

def writeAdGuardDomain : Put Blob Bytes :=
  let write := fun matcher =>
    if generateVersion < 2 then fails "AdGuard rule items is only supported in version 2 or later"
    else do return Item.adGuardDomain.tag :: (← sink.writeAdGuardMatcher matcher)
  if rule.adGuardDomain ≠ [] then write (packages.newAdGuardMatcher rule.adGuardDomain)
  else match sink.isMmap, rule.adGuardDomainMatcher with
    | true, some matcher => write matcher
    | _, _ => pure []

/-- What is written for one item; nothing when the rule does not have it. -/
def writeItem (item : Item) : Put Blob Bytes :=
  match item with
  | .queryType => always (rule.queryType ≠ []) (writeRuleItemUint16 item rule.queryType)
  | .network => always (rule.network ≠ []) (writeRuleItemString item rule.network)
  | .domain => writeDomain packages sink generateVersion rule
  | .domainKeyword => always (rule.domainKeyword ≠ []) (writeRuleItemString item rule.domainKeyword)
  | .domainRegex => always (rule.domainRegex ≠ []) (writeRuleItemString item rule.domainRegex)
  | .sourceIPCIDR => writeCIDR packages sink item "source_ip_cidr" rule.sourceIPCIDR rule.sourceIPSet
  | .ipCIDR => writeCIDR packages sink item "ipcidr" rule.ipCIDR rule.ipSet
  | .sourcePort => always (rule.sourcePort ≠ []) (writeRuleItemUint16 item rule.sourcePort)
  | .sourcePortRange => always (rule.sourcePortRange ≠ []) (writeRuleItemString item rule.sourcePortRange)
  | .port => always (rule.port ≠ []) (writeRuleItemUint16 item rule.port)
  | .portRange => always (rule.portRange ≠ []) (writeRuleItemString item rule.portRange)
  | .processName => always (rule.processName ≠ []) (writeRuleItemString item rule.processName)
  | .processPath => always (rule.processPath ≠ []) (writeRuleItemString item rule.processPath)
  | .processPathRegex => always (rule.processPathRegex ≠ []) (writeRuleItemString item rule.processPathRegex)
  | .packageName => always (rule.packageName ≠ []) (writeRuleItemString item rule.packageName)
  | .packageNameRegex =>
    since generateVersion 5 "package_name_regex" (rule.packageNameRegex ≠ []) (writeRuleItemString item rule.packageNameRegex)
  | .networkType => since generateVersion 3 "network_type" (rule.networkType ≠ []) (writeRuleItemUint8 item rule.networkType)
  | .networkIsExpensive => since generateVersion 3 "network_is_expensive" rule.networkIsExpensive [item.tag]
  | .networkIsConstrained => since generateVersion 3 "network_is_constrained" rule.networkIsConstrained [item.tag]
  | .networkInterfaceAddress =>
    since generateVersion 4 "network_interface_address" (rule.networkInterfaceAddress.entries ≠ [])
      (item.tag :: writeAddressMap rule.networkInterfaceAddress)
  | .defaultInterfaceAddress =>
    since generateVersion 4 "default_interface_address" (rule.defaultInterfaceAddress ≠ [])
      (item.tag :: writePrefixes rule.defaultInterfaceAddress)
  | .wifiSSID => always (rule.wifiSSID ≠ []) (writeRuleItemString item rule.wifiSSID)
  | .wifiBSSID => always (rule.wifiBSSID ≠ []) (writeRuleItemString item rule.wifiBSSID)
  | .adGuardDomain => writeAdGuardDomain packages sink generateVersion rule

/-- Items one after the other. -/
def writeItems (rule : Options.DefaultHeadlessRule matchers) : List Item → Put Blob Bytes
  | [] => pure []
  | item :: items => do
    let bytes ← writeItem packages sink generateVersion rule item
    let more ← writeItems rule items
    return bytes ++ more

def writeDefaultRule : Put Blob Bytes := do
  let items ← writeItems packages sink generateVersion rule writeOrder
  return 0 :: items ++ ruleItemFinal :: writeBool rule.invert

def writeMode : Options.LogicalMode → Put Blob UInt8
  | .and => pure 0
  | .or => pure 1
  | .other mode => fails ("unknown logical mode: " ++ mode)

mutual
def writeRule : Options.HeadlessRule matchers → Put Blob Bytes
  | .default options => writeDefaultRule packages sink generateVersion options
  | .logical mode rules _ invert => do
    let modeByte ← writeMode mode
    let bytes ← writeRules rules
    return 1 :: modeByte :: uvarint rules.length ++ bytes ++ writeBool invert
  | .unknown type => fails ("unknown rule type: " ++ type)
def writeRules : List (Options.HeadlessRule matchers) → Put Blob Bytes
  | [] => pure []
  | rule :: rules => do
    let bytes ← writeRule rule
    let more ← writeRules rules
    return bytes ++ more
end

end Write

section Read

variable (packages : Packages matchers) (source : Source matchers) (recover : Bool)

/-- One case of the switch of `readDefaultRule`. -/
def readItem (item : Item) (rule : Options.DefaultHeadlessRule matchers) :
    Reader (Options.DefaultHeadlessRule matchers) :=
  match item with
  | .queryType => do return { rule with queryType := ← readUint16s }
  | .network => do return { rule with network := ← readRuleItemString }
  | .domain => do
    let matcher ← source.readMatcher
    return { rule with
      domainMatcher := some matcher
      domain := if recover then (packages.dump matcher).1 else rule.domain
      domainSuffix := if recover then (packages.dump matcher).2 else rule.domainSuffix }
  | .domainKeyword => do return { rule with domainKeyword := ← readRuleItemString }
  | .domainRegex => do return { rule with domainRegex := ← readRuleItemString }
  | .sourceIPCIDR => do
    let set ← source.readIPSet
    return { rule with
      sourceIPSet := some set
      sourceIPCIDR := if recover then (packages.prefixes set).map some else rule.sourceIPCIDR }
  | .ipCIDR => do
    let set ← source.readIPSet
    return { rule with
      ipSet := some set
      ipCIDR := if recover then (packages.prefixes set).map some else rule.ipCIDR }
  | .sourcePort => do return { rule with sourcePort := ← readUint16s }
  | .sourcePortRange => do return { rule with sourcePortRange := ← readRuleItemString }
  | .port => do return { rule with port := ← readUint16s }
  | .portRange => do return { rule with portRange := ← readRuleItemString }
  | .processName => do return { rule with processName := ← readRuleItemString }
  | .processPath => do return { rule with processPath := ← readRuleItemString }
  | .processPathRegex => do return { rule with processPathRegex := ← readRuleItemString }
  | .packageName => do return { rule with packageName := ← readRuleItemString }
  | .packageNameRegex => do return { rule with packageNameRegex := ← readRuleItemString }
  | .wifiSSID => do return { rule with wifiSSID := ← readRuleItemString }
  | .wifiBSSID => do return { rule with wifiBSSID := ← readRuleItemString }
  | .adGuardDomain => do
    let matcher ← source.readAdGuardMatcher
    return { rule with
      adGuardDomainMatcher := some matcher
      adGuardDomain := if recover then packages.dumpAdGuard matcher else rule.adGuardDomain }
  | .networkType => do return { rule with networkType := ← readText }
  | .networkIsExpensive => return { rule with networkIsExpensive := true }
  | .networkIsConstrained => return { rule with networkIsConstrained := true }
  | .networkInterfaceAddress => do return { rule with networkInterfaceAddress := ← readAddressMap }
  | .defaultInterfaceAddress => do return { rule with defaultInterfaceAddress := ← readPrefixes }

/-- A rule being read, with the tag of its last item. -/
abbrev Partial (matchers : Matchers) := UInt8 × Options.DefaultHeadlessRule matchers

/-- One round of the loop of `readDefaultRule`. -/
def readNext (state : Partial matchers) :
    Reader (Partial matchers ⊕ Options.DefaultHeadlessRule matchers) := do
  let itemType ← readByte
  if itemType = ruleItemFinal then
    return .inr { state.2 with invert := ← readBool }
  else match Item.ofTag itemType with
    | some item => return .inl (itemType, ← readItem packages source recover item state.2)
    | none => fail (.invalid s!"unknown rule item type: {itemType}, last type: {state.1}")

def readDefaultRule : Reader (Options.DefaultHeadlessRule matchers) :=
  loop (readNext packages source recover) (0, {})

def readMode : Reader Options.LogicalMode := do
  let mode ← readByte
  if mode = 0 then return .and
  else if mode = 1 then return .or
  else fail (.invalid s!"unknown logical mode: {mode}")

/-- `E.Cause` of a reader. -/
def named {α : Type} (message : String) (reader : Reader α) : Reader α := fun input =>
  (reader input).mapError (.cause message)

/-- `readRule` and `readLogicalRule`, with the number of levels that may still follow. -/
def readRule : Nat → Reader (Options.HeadlessRule matchers)
  | 0 => fail (.invalid "logical rule nested too deep")
  | levels + 1 => do
    let ruleType ← readByte
    if ruleType = 0 then return .default (← readDefaultRule packages source recover)
    else if ruleType = 1 then
      let mode ← readMode
      let rules ← readCounted fun index => named s!"read logical rule [{index}]" (readRule levels)
      let invert ← readBool
      return .logical mode rules .asIs invert
    else fail (.invalid s!"unknown rule type: {ruleType}")

def maxLogicalRuleDepth : Nat := 100

/-- The rules of a file. -/
def readRules : Reader (List (Options.HeadlessRule matchers)) :=
  readCounted fun index => named s!"read rule[{index}]" (readRule packages source recover (maxLogicalRuleDepth + 1))

end Read

end SingBox.Srs
