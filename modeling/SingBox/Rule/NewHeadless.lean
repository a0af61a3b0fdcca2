import SingBox.Rule.Abstract
import SingBox.Srs.Binary

/-! # Headless rules from their options

`NewHeadlessRule` and the constructors of its items. A domain item carries the strategy of
its rule, or the router's where the rule has none of its own.
-/

open List

namespace SingBox

open Options (Text)
open Srs (Packages cause)

/-- What the constructors take from their context, and from the libraries of Go. -/
structure RuleContext where
  /-- `Router.DefaultDomainMatchStrategy`; `none` without a router. -/
  defaultDomainMatchStrategy : Option DomainMatchStrategy := none
  hasNetworkManager : Bool := true
  /-- `regexp.Compile`, and the strings that match. -/
  compile : Text → Except String (String → Bool)
  /-- The text of a Go string, and the bytes of a name. -/
  decode : Text → String
  encode : String → Text

variable {matchers : Options.Matchers}

/-! ## Items -/

section Items

variable (packages : Packages matchers) (context : RuleContext) (strategy : DomainMatchStrategy)

def RuleContext.resolve : DomainMatchStrategy :=
  match strategy, context.defaultDomainMatchStrategy with
  | .asIs, some defaultStrategy => defaultStrategy
  | strategy, _ => strategy

/-- An item that the rule has when there is something to look for. -/
def optional {Item : Type} (present : Bool) (item : Item) : List Item := if present then [item] else []

def newRawDomainItem (matcher : matchers.Domain) : DestinationAddressItem :=
  .domain (fun host => packages.accepts matcher (context.encode host)) strategy

def newDomainItem (domains domainSuffixes : List Text) : Except String DestinationAddressItem :=
  if [] ∈ domains then .error "domain: empty item is not allowed"
  else if [] ∈ domainSuffixes then .error "domain_suffix: empty item is not allowed"
  else .ok (newRawDomainItem packages context strategy (packages.newMatcher domains domainSuffixes false))

def newRawAdGuardDomainItem (matcher : matchers.AdGuard) : DestinationAddressItem :=
  .adGuardDomain (fun host => packages.acceptsAdGuard matcher (context.encode host)) strategy

def newAdGuardDomainItem (ruleLines : List Text) : DestinationAddressItem :=
  newRawAdGuardDomainItem packages context strategy (packages.newAdGuardMatcher ruleLines)

/-- The loop of the constructors of regular expressions. -/
def compileAll (index : Nat) : List Text → Except String (List (String → Bool))
  | [] => .ok []
  | expression :: expressions => do
    let matcher ← cause s!"parse expression {index}" (context.compile expression)
    let matchers ← compileAll (index + 1) expressions
    return matcher :: matchers

/-- `NewIPCIDRItem`: the set. -/
def newIPCIDRItem (prefixables : List (Option Prefix)) : Except String Ipset.Set :=
  (packages.buildIPSet (prefixables.map Srs.buildPrefix)).map Ipset.fromIPSet

/-- `strconv.ParseUint` for ten digits and sixteen bits: the number so far, then the rest. -/
def parseUintFrom (value : Nat) : Text → Except String Nat
  | [] => .ok value
  | byte :: rest =>
    if 48 ≤ byte ∧ byte ≤ 57 then
      let value := value * 10 + (byte.toNat - 48)
      if value > 65535 then .error "value out of range" else parseUintFrom value rest
    else .error "invalid syntax"

def parseUint (text : Text) : Except String UInt16 :=
  let parsed := if text = [] then .error "invalid syntax" else parseUintFrom 0 text
  (cause ("strconv.ParseUint: parsing \"" ++ context.decode text ++ "\"") parsed).map UInt16.ofNat

/-- One `start:end`; either side may be missing. -/
def parsePortRange (portRange : Text) : Except String (UInt16 × UInt16) :=
  let badPortRange := "bad port range: " ++ context.decode portRange
  match portRange.idxOf? 58 with
  | none => .error badPortRange
  | some subIndex => do
    let first ← if subIndex > 0 then cause badPortRange (parseUint context (portRange.take subIndex)) else .ok 0
    let last ← if subIndex = portRange.length - 1 then .ok 0xffff
      else cause badPortRange (parseUint context (portRange.drop (subIndex + 1)))
    return (first, last)

def parsePortRanges : List Text → Except String (List (UInt16 × UInt16))
  | [] => .ok []
  | portRange :: portRanges => do
    let range ← parsePortRange context portRange
    let ranges ← parsePortRanges portRanges
    return range :: ranges

/-- `InterfaceType.Build`. -/
def buildInterfaceType (value : UInt8) : InterfaceType :=
  if value = 0 then .wifi
  else if value = 1 then .cellular
  else if value = 2 then .ethernet
  else if value = 3 then .other
  else .unnamed value

end Items

/-! ## Default rules -/

section Default

variable (packages : Packages matchers) (context : RuleContext) (name : String)

/-- An item whose constructor can fail, with the name of its field. -/
def optionalM {Item : Type} (name : String) (present : Bool) (item : Except String Item) : Except String (List Item) :=
  if present then cause name (item.map fun item => [item]) else .ok []

variable (strategy : DomainMatchStrategy) (options : Options.DefaultHeadlessRule matchers)

/-- The item for `domain` and `domain_suffix`. -/
def domainItems : Except String (List DestinationAddressItem) :=
  if options.domain ≠ [] ∨ options.domainSuffix ≠ [] then
    (newDomainItem packages context strategy options.domain options.domainSuffix).map fun item => [item]
  else .ok (options.domainMatcher.toList.map (newRawDomainItem packages context strategy))

def adGuardDomainItems : List DestinationAddressItem :=
  if options.adGuardDomain ≠ [] then [newAdGuardDomainItem packages context strategy options.adGuardDomain]
  else options.adGuardDomainMatcher.toList.map (newRawAdGuardDomainItem packages context strategy)

/-- The sets for `source_ip_cidr` or `ip_cidr`. -/
def ipSets (prefixables : List (Option Prefix)) (rawSet : Option Ipset.Set) : Except String (List Ipset.Set) :=
  if prefixables ≠ [] then cause name ((newIPCIDRItem packages prefixables).map fun set => [set])
  else .ok rawSet.toList

def portItems (ports : List UInt16) (portRanges : List Text) : Except String (List PortItem) := do
  let ranges ← optionalM name (portRanges ≠ []) (parsePortRanges context portRanges)
  return optional (ports ≠ []) (.port ports) ++ ranges.map .portRange

variable (options : Options.DefaultHeadlessRule matchers)

/-- The items that ask the network manager; a rule built without one has none of them. -/
def networkManagerItems : List RuleItem :=
  if context.hasNetworkManager then
    List.flatten [
      optional (options.networkType ≠ []) (.networkType (options.networkType.map buildInterfaceType)),
      optional options.networkIsExpensive .networkIsExpensive,
      optional options.networkIsConstrained .networkIsConstrained,
      optional (options.wifiSSID ≠ []) (.wifiSSID (options.wifiSSID.map context.decode)),
      optional (options.wifiBSSID ≠ []) (.wifiBSSID (options.wifiBSSID.map context.decode)),
      optional (options.networkInterfaceAddress.entries ≠ []) (.networkInterfaceAddress
        (options.networkInterfaceAddress.entries.map fun entry => (buildInterfaceType entry.1, entry.2.map Srs.buildPrefix))),
      optional (options.defaultInterfaceAddress ≠ [])
        (.defaultInterfaceAddress (options.defaultInterfaceAddress.map Srs.buildPrefix))]
  else []

variable (processPathRegex packageNameRegex : List (List (String → Bool)))

/-- `rule.items`, with the regular expressions compiled. -/
def ruleItems : List RuleItem :=
  List.flatten [
    optional (options.queryType ≠ []) (.queryType options.queryType),
    optional (options.network ≠ []) (.network (options.network.map context.decode)),
    optional (options.processName ≠ []) (.processName (options.processName.map context.decode)),
    optional (options.processPath ≠ []) (.processPath (options.processPath.map context.decode)),
    processPathRegex.map .processPathRegex,
    optional (options.packageName ≠ []) (.packageName (options.packageName.map context.decode)),
    packageNameRegex.map .packageNameRegex,
    networkManagerItems context options]

theorem headless_optional {present : Bool} {item : RuleItem} (headless : item.isHeadless) :
    ∀ other ∈ optional present item, other.isHeadless := by
  cases present <;> simp [optional, headless]

theorem headless_ruleItems :
    ∀ item ∈ ruleItems context options processPathRegex packageNameRegex, item.isHeadless := by
  have managed : ∀ item ∈ networkManagerItems context options, item.isHeadless := by
    unfold networkManagerItems
    split
    · simp only [flatten_cons, flatten_nil, append_nil, forall_mem_append]
      refine ⟨?_, ?_, ?_, ?_, ?_, ?_, ?_⟩ <;> exact headless_optional rfl
    · simp
  unfold ruleItems
  simp only [flatten_cons, flatten_nil, append_nil, forall_mem_append]
  refine ⟨?_, ?_, ?_, ?_, ?_, ?_, ?_, managed⟩
  all_goals first | exact headless_optional rfl | simp [RuleItem.isHeadless]

def newDefaultHeadlessRule : Except String DefaultHeadlessRule := do
  let strategy := context.resolve options.domainMatchStrategy
  let domain ← domainItems packages context strategy options
  let domainRegex ← optionalM "domain_regex" (options.domainRegex ≠ []) (compileAll context 0 options.domainRegex)
  let sourceSets ← ipSets packages "source_ip_cidr" options.sourceIPCIDR options.sourceIPSet
  let destinationSets ← ipSets packages "ipcidr" options.ipCIDR options.ipSet
  let sourcePortItems ← portItems context "source_port_range" options.sourcePort options.sourcePortRange
  let destinationPortItems ← portItems context "port_range" options.port options.portRange
  let processPathRegex ← optionalM "process_path_regex" (options.processPathRegex ≠ [])
    (compileAll context 0 options.processPathRegex)
  let packageNameRegex ← optionalM "package_name_regex" (options.packageNameRegex ≠ [])
    (compileAll context 0 options.packageNameRegex)
  return {
    items := ruleItems context options processPathRegex packageNameRegex
    sourceAddressItems := sourceSets.map .ipCidr
    sourcePortItems
    destinationAddressItems := List.flatten [
      domain,
      optional (options.domainKeyword ≠ []) (.domainKeyword (options.domainKeyword.map context.decode) strategy),
      domainRegex.map (.domainRegex · strategy),
      adGuardDomainItems packages context strategy options]
    destinationIPCIDRItems := destinationSets.map .ipCidr
    destinationPortItems
    invert := options.invert
    headlessItems := headless_ruleItems context options processPathRegex packageNameRegex
    ipCidrItems := by simp [DestinationIPCIDRItem.isIPCIDR] }

end Default

/-! ## Rules -/

/-- `DefaultHeadlessRule.IsValid`: something besides `invert` differs from the zero value. -/
def Options.DefaultHeadlessRule.isValid (options : Options.DefaultHeadlessRule matchers) : Bool :=
  !(options.queryType.isEmpty && options.network.isEmpty && options.domain.isEmpty && options.domainSuffix.isEmpty &&
    options.domainKeyword.isEmpty && options.domainRegex.isEmpty && options.sourceIPCIDR.isEmpty &&
    options.ipCIDR.isEmpty && options.sourcePort.isEmpty && options.sourcePortRange.isEmpty && options.port.isEmpty &&
    options.portRange.isEmpty && options.processName.isEmpty && options.processPath.isEmpty &&
    options.processPathRegex.isEmpty && options.packageName.isEmpty && options.packageNameRegex.isEmpty &&
    options.networkType.isEmpty && !options.networkIsExpensive && !options.networkIsConstrained &&
    options.wifiSSID.isEmpty && options.wifiBSSID.isEmpty && options.domainMatchStrategy == .asIs &&
    options.networkInterfaceAddress.entries.isEmpty && options.defaultInterfaceAddress.isEmpty &&
    options.domainMatcher.isNone && options.sourceIPSet.isNone && options.ipSet.isNone && options.adGuardDomain.isEmpty &&
    options.adGuardDomainMatcher.isNone && !options.hasEmptyList)

mutual
/-- `HeadlessRule.IsValid`, which panics at an unknown type. -/
def Options.HeadlessRule.isValid : Options.HeadlessRule matchers → Except String Bool
  | .default options => .ok options.isValid
  | .logical _ rules _ _ => if rules.isEmpty then .ok false else Options.HeadlessRule.allValid rules
  | .unknown type => .error ("unknown rule type: " ++ type)
/-- `common.All`, which ends at the first rule that is not valid. -/
def Options.HeadlessRule.allValid : List (Options.HeadlessRule matchers) → Except String Bool
  | [] => .ok true
  | rule :: rules => do
    if ← rule.isValid then Options.HeadlessRule.allValid rules else return false
end

section Rules

variable (packages : Packages matchers) (context : RuleContext)

def newLogicalMode : Options.LogicalMode → Except String LogicalMode
  | .and => .ok .and
  | .or => .ok .or
  | .other mode => .error ("unknown logical mode: " ++ mode)

mutual
def newHeadlessRule : Options.HeadlessRule matchers → Except String HeadlessRule
  | .default options =>
    if options.isValid then (newDefaultHeadlessRule packages context options).map .default
    else .error "missing conditions"
  | .logical mode rules strategy invert => do
    if ← (Options.HeadlessRule.logical mode rules strategy invert).isValid then
      let mode ← newLogicalMode mode
      return .logical mode invert (← newHeadlessRules "sub rule[" 0 rules)
    else .error "missing conditions"
  | .unknown type => .error ("unknown rule type: " ++ type)
/-- The rules of a list; an error names the position. -/
def newHeadlessRules (name : String) (index : Nat) :
    List (Options.HeadlessRule matchers) → Except String (List HeadlessRule)
  | [] => .ok []
  | options :: rules => do
    let rule ← cause (name ++ toString index ++ "]") (newHeadlessRule options)
    let rules ← newHeadlessRules name (index + 1) rules
    return rule :: rules
end

/-- The loop of `reloadRules`. -/
def buildRules (rules : List (Options.HeadlessRule matchers)) : Except String (List HeadlessRule) :=
  newHeadlessRules packages context "parse rule_set.rules.[" 0 rules

end Rules

end SingBox
