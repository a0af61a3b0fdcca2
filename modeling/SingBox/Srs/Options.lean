import SingBox.Lib.Table
import SingBox.Rule.Item
import SingBox.Srs.IpSet

/-! # Options of headless rules

`option.HeadlessRule` as rule-set files hold them. A Go string is a list of bytes. No
slice is longer than an `int` can count; `Fits` says so where the format writes a length.
-/

namespace SingBox.Options

abbrev Text := List UInt8

instance : LawfulBEq Text := inferInstance

abbrev TypedMap := Lib.Table

/-! ## Rules -/

/-- What `domain.NewMatcher` and `domain.NewAdGuardMatcher` build. -/
structure Matchers where
  Domain : Type
  AdGuard : Type

/-- `DefaultHeadlessRule`. A prefix is `none` where its pointer is nil. -/
structure DefaultHeadlessRule (matchers : Matchers) where
  queryType : List UInt16 := []
  network : List Text := []
  domain : List Text := []
  domainSuffix : List Text := []
  domainKeyword : List Text := []
  domainRegex : List Text := []
  sourceIPCIDR : List (Option Prefix) := []
  ipCIDR : List (Option Prefix) := []
  sourcePort : List UInt16 := []
  sourcePortRange : List Text := []
  port : List UInt16 := []
  portRange : List Text := []
  processName : List Text := []
  processPath : List Text := []
  processPathRegex : List Text := []
  packageName : List Text := []
  packageNameRegex : List Text := []
  networkType : List UInt8 := []
  networkIsExpensive : Bool := false
  networkIsConstrained : Bool := false
  wifiSSID : List Text := []
  wifiBSSID : List Text := []
  domainMatchStrategy : DomainMatchStrategy := .asIs
  networkInterfaceAddress : TypedMap UInt8 (List (Option Prefix)) := .empty
  defaultInterfaceAddress : List (Option Prefix) := []
  invert : Bool := false
  domainMatcher : Option matchers.Domain := none
  sourceIPSet : Option Ipset.Set := none
  ipSet : Option Ipset.Set := none
  adGuardDomain : List Text := []
  adGuardDomainMatcher : Option matchers.AdGuard := none
  /-- Whether one of the slices and maps is empty without being nil. -/
  hasEmptyList : Bool := false

/-- `LogicalHeadlessRule.Mode`. -/
inductive LogicalMode where
  | and
  | or
  | other (mode : String)
deriving DecidableEq, Repr

inductive HeadlessRule (matchers : Matchers) where
  | default (options : DefaultHeadlessRule matchers)
  | logical (mode : LogicalMode) (rules : List (HeadlessRule matchers))
      (domainMatchStrategy : DomainMatchStrategy) (invert : Bool)
  | unknown (type : String)

variable {matchers : Matchers}

/-! ## Sizes -/

def Fits {α : Type} (slice : List α) : Prop := slice.length < 2 ^ 63

theorem Fits.uvarint {α : Type} {slice : List α} (fits : Fits slice) : slice.length < 2 ^ 64 :=
  Nat.lt_of_lt_of_le fits (by decide)

def TextsFit (texts : List Text) : Prop := Fits texts ∧ ∀ text ∈ texts, Fits text

/-- A slice of pointers to prefixes that `netip` can make. -/
def AddressesFit (networks : List (Option Prefix)) : Prop :=
  Fits networks ∧ ∀ network, some network ∈ networks → ∃ addr bits, network = Prefix.ofAddr addr bits

/-- A rule that Go can hold: slices have a length that an `int` can count, and prefixes are
values of `netip`. -/
structure DefaultHeadlessRule.Representable (rule : DefaultHeadlessRule matchers) : Prop where
  queryType : Fits rule.queryType
  network : TextsFit rule.network
  domainKeyword : TextsFit rule.domainKeyword
  domainRegex : TextsFit rule.domainRegex
  sourcePort : Fits rule.sourcePort
  sourcePortRange : TextsFit rule.sourcePortRange
  port : Fits rule.port
  portRange : TextsFit rule.portRange
  processName : TextsFit rule.processName
  processPath : TextsFit rule.processPath
  processPathRegex : TextsFit rule.processPathRegex
  packageName : TextsFit rule.packageName
  packageNameRegex : TextsFit rule.packageNameRegex
  networkType : Fits rule.networkType
  wifiSSID : TextsFit rule.wifiSSID
  wifiBSSID : TextsFit rule.wifiBSSID
  networkInterfaceAddress : Fits rule.networkInterfaceAddress.entries ∧
    ∀ entry ∈ rule.networkInterfaceAddress.entries, AddressesFit entry.2
  defaultInterfaceAddress : AddressesFit rule.defaultInterfaceAddress
  sourceIPSet : ∀ set ∈ rule.sourceIPSet, Fits (Srs.writtenRanges set)
  ipSet : ∀ set ∈ rule.ipSet, Fits (Srs.writtenRanges set)

/-! ## Interface addresses -/

/-- A prefix that is not nil and has an address. -/
def ReadableAddress (network : Option Prefix) : Prop := ∃ present, network = some present ∧ Srs.ReadablePrefix present

structure DefaultHeadlessRule.ReadableAddresses (rule : DefaultHeadlessRule matchers) : Prop where
  networkInterface : ∀ entry ∈ rule.networkInterfaceAddress.entries, ∀ network ∈ entry.2, ReadableAddress network
  defaultInterface : ∀ network ∈ rule.defaultInterfaceAddress, ReadableAddress network

/-- The prefixes of the interface addresses are there and valid. -/
structure DefaultHeadlessRule.ValidAddresses (rule : DefaultHeadlessRule matchers) : Prop where
  networkInterface : ∀ entry ∈ rule.networkInterfaceAddress.entries, ∀ network ∈ entry.2,
    ∃ valid, network = some valid ∧ Srs.ValidPrefix valid
  defaultInterface : ∀ network ∈ rule.defaultInterfaceAddress, ∃ valid, network = some valid ∧ Srs.ValidPrefix valid

theorem DefaultHeadlessRule.ValidAddresses.readable {rule : DefaultHeadlessRule matchers}
    (valid : rule.ValidAddresses) : rule.ReadableAddresses where
  networkInterface := by
    intro entry isEntry network isNetwork
    obtain ⟨present, isPresent, valid⟩ := valid.networkInterface entry isEntry network isNetwork
    exact ⟨present, isPresent, valid.readable⟩
  defaultInterface := by
    intro network isNetwork
    obtain ⟨present, isPresent, valid⟩ := valid.defaultInterface network isNetwork
    exact ⟨present, isPresent, valid.readable⟩

namespace HeadlessRule

mutual
/-- How many logical rules stand above each other. -/
def depth : HeadlessRule matchers → Nat
  | .default _ | .unknown _ => 0
  | .logical _ rules _ _ => depths rules + 1
def depths : List (HeadlessRule matchers) → Nat
  | [] => 0
  | rule :: rules => max rule.depth (depths rules)
end

/-- A property of default rules and of lists of rules, everywhere in a rule. -/
inductive Everywhere (OfDefault : DefaultHeadlessRule matchers → Prop)
    (OfRules : List (HeadlessRule matchers) → Prop) : HeadlessRule matchers → Prop where
  | default {options : DefaultHeadlessRule matchers} : OfDefault options →
      Everywhere OfDefault OfRules (.default options)
  | logical {mode : LogicalMode} {rules : List (HeadlessRule matchers)} {strategy : DomainMatchStrategy}
      {invert : Bool} : OfRules rules → (∀ rule ∈ rules, Everywhere OfDefault OfRules rule) →
      Everywhere OfDefault OfRules (.logical mode rules strategy invert)
  | unknown (type : String) : Everywhere OfDefault OfRules (.unknown type)

theorem Everywhere.mono {OfDefault OfDefault' : DefaultHeadlessRule matchers → Prop}
    {OfRules OfRules' : List (HeadlessRule matchers) → Prop} {rule : HeadlessRule matchers}
    (holds : rule.Everywhere OfDefault OfRules) (ofDefault : ∀ {options}, OfDefault options → OfDefault' options)
    (ofRules : ∀ {rules}, OfRules rules → OfRules' rules) : rule.Everywhere OfDefault' OfRules' := by
  induction holds with
  | default holds => exact .default (ofDefault holds)
  | logical holds _ ih => exact .logical (ofRules holds) ih
  | unknown type => exact .unknown type

end HeadlessRule

/-- `PlainRuleSet`, as Go can hold it. -/
structure PlainRuleSet (matchers : Matchers) where
  rules : List (HeadlessRule matchers)
  fits : Fits rules
  rulesFit : ∀ rule ∈ rules, rule.Everywhere DefaultHeadlessRule.Representable Fits

end SingBox.Options
