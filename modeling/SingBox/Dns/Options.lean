import SingBox.Dns.Rule
import SingBox.Lib.Guard
import SingBox.Rule.NewHeadless

/-! # DNS rules from their options

`option/rule_dns.go` and `NewDNSRule`. Of the conditions of a rule, those that the mode
and the validation of a rule list depend on are kept as options; the others stand here as
the items that are made from them.
-/

namespace SingBox

open Lib.Guard
open Srs (cause)

namespace Options

/-! ## Actions -/

structure DNSRouteActionOptions where
  timeout : Nat := 0
  strategy : DomainStrategy := .asIs
  disableCache : Bool := false
  disableOptimisticCache : Bool := false
  rewriteTTL : Option UInt32 := none
  clientSubnet : Option Prefix := none
  removeClientSubnet : Bool := false
deriving DecidableEq

inductive DNSAction where
  | route (server : String) (speculative : Bool) (options : DNSRouteActionOptions)
  | evaluate (server : String) (tag : String) (speculative : Bool) (options : DNSRouteActionOptions)
  | respond
  | routeOptions (options : DNSRouteActionOptions)
  | reject (rcode : Option Nat) (method : DNSRejectMethod)
  | predefined (response : DnsMessage)
deriving DecidableEq

/-- `option.DNSRuleAction`. A rule inside a logical rule has none. -/
structure DNSRuleAction where
  action : Option DNSAction := none
  race : Bool := false
deriving DecidableEq

/-! ## Rules -/

theorem noItems_plain : ∀ item ∈ ([] : List RuleItem), item.isResponse = false := by simp

theorem untagged : "" ≠ "" → false := fun tagged => absurd rfl tagged

/-- `match_response` is a boolean or a tag, and a tag enables it. -/
structure DNSRuleMatchResponse where
  enabled : Bool := false
  tag : String := ""
  enabled_of_tag : tag ≠ "" → enabled := by first | exact SingBox.Options.untagged | simp

structure DefaultDNSRule where
  items : List RuleItem := []
  sourceAddressItems : List SourceAddressItem := []
  sourcePortItems : List PortItem := []
  destinationAddressItems : List DestinationAddressItem := []
  destinationPortItems : List PortItem := []
  ipVersion : Nat := 0
  queryType : List UInt16 := []
  ruleSet : List String := []
  ruleSetIPCIDRMatchSource : Bool := false
  ruleSetIPCIDRAcceptEmpty : Bool := false
  matchResponse : DNSRuleMatchResponse := {}
  ipCIDR : Option Ipset.Set := none
  ipIsPrivate : Bool := false
  ipAcceptAny : Bool := false
  responseRcode : Option Nat := none
  responseAnswer : List (DnsRecord → Bool) := []
  responseNs : List (DnsRecord → Bool) := []
  responseExtra : List (DnsRecord → Bool) := []
  allowFallthrough : Bool := false
  invert : Bool := false
  items_plain : ∀ item ∈ items, item.isResponse = false := by
    first | exact SingBox.Options.noItems_plain | simp [RuleItem.isResponse]

inductive DNSRule where
  | default (options : DefaultDNSRule) (action : DNSRuleAction) (fallbackRules : List DNSFallbackRule)
  | logical (mode : LogicalMode) (rules : List DNSRule) (invert : Bool) (action : DNSRuleAction)

namespace DNSRule

def action : DNSRule → DNSRuleAction
  | .default _ action _ => action
  | .logical _ _ _ action => action

end DNSRule

/-- `DefaultDNSRule.IsValid`: something besides `invert` differs from the zero value. -/
def DefaultDNSRule.isValid (options : DefaultDNSRule) (action : DNSRuleAction) : Bool :=
  !(options.items.isEmpty && options.sourceAddressItems.isEmpty && options.sourcePortItems.isEmpty &&
    options.destinationAddressItems.isEmpty && options.destinationPortItems.isEmpty && options.ipVersion == 0 &&
    options.queryType.isEmpty && options.ruleSet.isEmpty && !options.ruleSetIPCIDRMatchSource &&
    !options.ruleSetIPCIDRAcceptEmpty && !options.matchResponse.enabled && options.ipCIDR.isNone &&
    !options.ipIsPrivate && !options.ipAcceptAny && options.responseRcode.isNone && options.responseAnswer.isEmpty &&
    options.responseNs.isEmpty && options.responseExtra.isEmpty && !options.allowFallthrough && action == {})

mutual
/-- `DNSRule.IsValid` for a rule inside a logical rule. -/
def DNSRule.isValid : DNSRule → Bool
  | .default options action _ => options.isValid action
  | .logical _ rules _ _ => !rules.isEmpty && DNSRule.allValid rules
def DNSRule.allValid : List DNSRule → Bool
  | [] => true
  | rule :: rules => rule.isValid && DNSRule.allValid rules
end

end Options

/-! ## Building rules -/

def newDNSRouteOptions (options : Options.DNSRouteActionOptions) : RuleActionDNSRouteOptions where
  strategy := options.strategy
  timeout := options.timeout
  disableCache := options.disableCache
  disableOptimisticCache := options.disableOptimisticCache
  rewriteTTL := options.rewriteTTL
  clientSubnet := options.clientSubnet.getD ⟨none, none⟩
  removeClientSubnet := options.removeClientSubnet

def newDNSRuleAction : Options.DNSAction → DNSRuleAction
  | .route server speculative options => .route server speculative (newDNSRouteOptions options)
  | .evaluate server tag speculative options => .evaluate server tag speculative (newDNSRouteOptions options)
  | .respond => .respond
  | .routeOptions options => .routeOptions (newDNSRouteOptions options)
  | .reject rcode method => .reject rcode method
  | .predefined response => .predefined response

/-- The options of the actions that send a query or change the ones after them. -/
def Options.DNSAction.routeOptions? : Options.DNSAction → Option Options.DNSRouteActionOptions
  | .route _ _ options | .evaluate _ _ _ options | .routeOptions options => some options
  | .respond | .reject _ _ | .predefined _ => none

variable (action : Options.DNSRuleAction)

/-- `race` ends the walk, and at once. -/
def Options.DNSRuleAction.raceable : Bool :=
  match action.action with
  | some (.evaluate _ _ _ _) | some (.routeOptions _) => false
  | _ => true

def Options.DNSAction.speculativeRoute : Options.DNSAction → Bool
  | .route _ speculative _ => speculative
  | _ => false

def validateDNSRuleAction : Except String Unit := do
  ensure ((action.action.bind Options.DNSAction.routeOptions?).all fun options =>
      !(options.removeClientSubnet && options.clientSubnet.isSome))
    "`client_subnet` and `remove_client_subnet` are mutually exclusive"
  ensure (action.race → action.raceable) "`race` requires a final action"
  ensure (action.race → action.action.all fun action => !action.speculativeRoute)
    "`race` and `speculative` cannot be combined on the same rule"

/-- `response_*` items. -/
def responseItems (options : Options.DefaultDNSRule) : List RuleItem :=
  options.responseRcode.toList.map .responseRcode ++
    optional (options.responseAnswer ≠ []) (.responseRecord .answer options.responseAnswer) ++
    optional (options.responseNs ≠ []) (.responseRecord .ns options.responseNs) ++
    optional (options.responseExtra ≠ []) (.responseRecord .extra options.responseExtra)

/-- All items must match, so that their order does not matter. -/
def dnsRuleItems (options : Options.DefaultDNSRule) : List RuleItem :=
  optional (options.ipVersion ≠ 0) (.ipVersion (options.ipVersion == 6)) ++
    optional (options.queryType ≠ []) (.queryType options.queryType) ++ responseItems options ++ options.items

section Build

variable (ruleSets : String → Option RuleSet)

/-- `RuleSetItem.Start`. -/
def startRuleSetItem : List String → Except String (List RuleSet)
  | [] => .ok []
  | tag :: tags =>
    match ruleSets tag with
    | none => .error ("rule-set not found: " ++ tag)
    | some ruleSet => (startRuleSetItem tags).map (ruleSet :: ·)

def messageWithLink (description deprecatedVersion scheduledVersion migrationLink : String) : String :=
  description ++ " is deprecated in sing-box " ++ deprecatedVersion ++ " and will be removed in sing-box " ++
    scheduledVersion ++ ", checkout documentation for migration: " ++ migrationLink

def optionRuleSetIPCIDRAcceptEmpty : String :=
  messageWithLink "Legacy `rule_set_ip_cidr_accept_empty` DNS rule item" "1.14.0" "1.16.0"
    "https://sing-box.sagernet.org/migration/#migrate-address-filter-fields-to-response-matching"

/-- `NewDefaultDNSRule` outside of the legacy mode, and the start of its rule sets. -/
def newDefaultDNSRule (options : Options.DefaultDNSRule) : Except String DefaultRule := do
  ensure (options.ipVersion = 0 ∨ options.ipVersion = 4 ∨ options.ipVersion = 6)
    ("invalid ip version: " ++ toString options.ipVersion)
  ensure (options.ruleSetIPCIDRAcceptEmpty = false) optionRuleSetIPCIDRAcceptEmpty
  let setList ← startRuleSetItem ruleSets options.ruleSet
  return {
    items := dnsRuleItems options
    sourceAddressItems := options.sourceAddressItems
    sourcePortItems := options.sourcePortItems
    destinationAddressItems := options.destinationAddressItems
    destinationIPCIDRItems := options.ipCIDR.toList.map .ipCidr ++ optional options.ipIsPrivate .ipIsPrivate ++
      optional options.ipAcceptAny .ipAcceptAny
    destinationPortItems := options.destinationPortItems
    invert := options.invert
    ruleSetItem := if options.ruleSet = [] then none
      else some { setList, ipCidrMatchSource := options.ruleSetIPCIDRMatchSource }
    matchResponse := options.matchResponse.enabled
    matchResponseTag := options.matchResponse.tag }

def dnsRuleActionNestedUnsupportedMessage : String := "DNS rule action is not supported in nested rules"

mutual
/-- The conditions of a rule: what `NewDNSRule` makes of it but for its own action. -/
def newDNSRuleConditions : Options.DNSRule → Except String Rule
  | .default options action _ => do
    ensure (options.isValid action) "missing conditions"
    let rule ← newDefaultDNSRule ruleSets options
    return .default rule
  | .logical mode rules invert action => do
    ensure (Options.DNSRule.logical mode rules invert action).isValid "missing conditions"
    let mode ← newLogicalMode mode
    let rules ← newSubRules 0 rules
    return .logical mode invert rules
/-- The rules inside a logical rule, which must have no action. -/
def newSubRules (index : Nat) : List Options.DNSRule → Except String (List Rule)
  | [] => .ok []
  | options :: rules => do
    let name := "sub rule[" ++ toString index ++ "]"
    cause name (ensure (options.action = {}) dnsRuleActionNestedUnsupportedMessage)
    let rule ← cause name (newDNSRuleConditions options)
    let rules ← newSubRules (index + 1) rules
    return rule :: rules
end

/-- What only a default rule has. -/
def Options.DNSRule.fallback : Options.DNSRule → List DNSFallbackRule × Bool
  | .default options _ fallbackRules => (fallbackRules, options.allowFallthrough)
  | .logical _ _ _ _ => ([], false)

def Options.DNSAction.missingServer : Options.DNSAction → Bool
  | .route server _ _ | .evaluate server _ _ _ => server == ""
  | _ => false

variable (options : Options.DNSRule)

/-- The end of `NewDNSRule`. -/
def finishDNSRule (action : DNSRuleAction) (rule : Rule) : Except String DNSRule :=
  if binds : options.action.race → rule.hasBindings ∧ action.isFinal then
    .ok {
      rule
      action
      fallbackRules := options.fallback.1
      allowFallthrough := options.fallback.2
      race := options.action.race
      race_binds := binds }
  else match options with
    | .default _ _ _ => .error "`race` requires `match_response`"
    | .logical _ _ _ _ => .error "`race` requires `match_response` in sub-rules"

/-- `NewDNSRule` of a rule of the list. Reading a rule leaves it no empty action. -/
def newDNSRule : Except String DNSRule := do
  validateDNSRuleAction options.action
  let rule ← newDNSRuleConditions ruleSets options
  match options.action.action with
  | none => .error "missing server field"
  | some action => do
    ensure (action.missingServer = false) "missing server field"
    finishDNSRule options (newDNSRuleAction action) rule

def newDNSRules (index : Nat) : List Options.DNSRule → Except String (List DNSRule)
  | [] => .ok []
  | options :: rules => do
    let rule ← cause ("parse dns rule[" ++ toString index ++ "]") (newDNSRule ruleSets options)
    let rules ← newDNSRules (index + 1) rules
    return rule :: rules

end Build

end SingBox
