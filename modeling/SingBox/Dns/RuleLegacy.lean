import SingBox.Dns.Options

/-! # The legacy mode of the DNS rules

`dns/rule_legacy.go`: from the options of the rules, and from what the rule sets they refer
to contain, it follows whether the router runs in its legacy mode, and outside of that mode
whether the rules are accepted.
-/

namespace SingBox

open Lib.Guard
open Srs (cause)
open Options (DefaultDNSRule)

/-- `adapter.RuleSetMetadata`, as far as DNS rules ask for it. -/
structure RuleSetMetadata where
  containsIPCIDRRule : Bool := false
  containsDNSQueryTypeRule : Bool := false
  containsNonIPCIDRRule : Bool := false
deriving DecidableEq, Repr

def optionLegacyDNSAddressFilter : String :=
  messageWithLink "Legacy Address Filter Fields in DNS rules" "1.14.0" "1.16.0"
    "https://sing-box.sagernet.org/migration/#migrate-address-filter-fields-to-response-matching"

def optionLegacyDNSRuleStrategy : String :=
  messageWithLink "Legacy `strategy` DNS rule action option" "1.14.0" "1.16.0"
    "https://sing-box.sagernet.org/migration/#migrate-dns-rule-action-strategy-to-rule-items"

/-! ## What a single rule asks for -/

namespace Options

namespace DefaultDNSRule

variable (rule : DefaultDNSRule)

def needsLegacyDNSModeFromAddressFilter : Bool :=
  if rule.ruleSetIPCIDRAcceptEmpty then true
  else !rule.matchResponse.enabled && (rule.ipAcceptAny || rule.ipCIDR.isSome || rule.ipIsPrivate)

def hasResponseMatchFields : Bool :=
  rule.responseRcode.isSome || !rule.responseAnswer.isEmpty || !rule.responseNs.isEmpty || !rule.responseExtra.isEmpty

end DefaultDNSRule

def DNSAction.isEvaluate : DNSAction → Bool
  | .evaluate _ _ _ _ => true
  | _ => false

namespace DNSRuleAction

variable (action : DNSRuleAction)

def isEvaluate : Bool := action.action.any DNSAction.isEvaluate

def isRespond : Bool := action.action == some .respond

def evaluateTag : String :=
  match action.action with
  | some (.evaluate _ tag _ _) => tag
  | _ => ""

def speculative : Bool :=
  match action.action with
  | some (.evaluate _ _ speculative _) | some (.route _ speculative _) => speculative
  | _ => false

/-- `dnsRuleActionDisablesLegacyDNSMode`. -/
def disablesLegacyDNSMode : Bool :=
  action.race || action.speculative ||
    (action.action.bind DNSAction.routeOptions?).any DNSRouteActionOptions.disableOptimisticCache

/-- `dnsRuleActionHasStrategy`. -/
def hasStrategy : Bool :=
  (action.action.bind DNSAction.routeOptions?).any fun options => options.strategy != .asIs

end DNSRuleAction

def DefaultDNSRule.disablesLegacyDNSMode (rule : DefaultDNSRule) (action : DNSRuleAction) : Bool :=
  rule.matchResponse.enabled || rule.hasResponseMatchFields || action.isEvaluate || action.isRespond ||
    decide (rule.ipVersion > 0) || !rule.queryType.isEmpty

end Options

/-! ## The mode -/

structure DnsRuleModeFlags where
  disabled : Bool := false
  needed : Bool := false
  neededFromStrategy : Bool := false
deriving DecidableEq, Repr

def DnsRuleModeFlags.merge (flags other : DnsRuleModeFlags) : DnsRuleModeFlags where
  disabled := flags.disabled || other.disabled
  needed := flags.needed || other.needed
  neededFromStrategy := flags.neededFromStrategy || other.neededFromStrategy

/-- `router` gives the metadata of the rule sets as installed. -/
def lookupDNSRuleSetMetadata (router : String → Option RuleSetMetadata)
    (metadataOverrides : List (String × RuleSetMetadata)) (tag : String) : Except String RuleSetMetadata :=
  match metadataOverrides.lookup tag with
  | some metadata => .ok metadata
  | none => match router tag with
    | some metadata => .ok metadata
    | none => .error ("rule-set not found: " ++ tag)

section Mode

-- The router and the overrides are only asked through `lookupDNSRuleSetMetadata`.
variable (lookup : String → Except String RuleSetMetadata)

/-- The loop over `rule_set`. -/
def mergeRuleSetFlags (matchSource : Bool) : List String → DnsRuleModeFlags → Except String DnsRuleModeFlags
  | [], flags => .ok flags
  | tag :: tags, flags => do
    let metadata ← lookup tag
    mergeRuleSetFlags matchSource tags { flags with
      disabled := flags.disabled || metadata.containsDNSQueryTypeRule
      needed := flags.needed || (!matchSource && metadata.containsIPCIDRRule) }

variable (rule : DefaultDNSRule) (action : Options.DNSRuleAction)

def dnsRuleModeRequirementsInDefaultRule : Except String DnsRuleModeFlags :=
  mergeRuleSetFlags lookup rule.ruleSetIPCIDRMatchSource rule.ruleSet {
    disabled := rule.disablesLegacyDNSMode action || action.disablesLegacyDNSMode
    needed := rule.needsLegacyDNSModeFromAddressFilter || action.hasStrategy
    neededFromStrategy := action.hasStrategy }

mutual
def dnsRuleModeRequirementsInRule : Options.DNSRule → Except String DnsRuleModeFlags
  | .default rule action _ => dnsRuleModeRequirementsInDefaultRule lookup rule action
  | .logical _ rules _ action => dnsRuleModeRequirementsFrom "sub rule[" 0 rules {
      disabled := action.isEvaluate || action.isRespond || action.disablesLegacyDNSMode
      needed := action.hasStrategy
      neededFromStrategy := action.hasStrategy }
/-- The loop over the rules of a list. -/
def dnsRuleModeRequirementsFrom (name : String) (index : Nat) :
    List Options.DNSRule → DnsRuleModeFlags → Except String DnsRuleModeFlags
  | [], flags => .ok flags
  | rule :: rules, flags => do
    let ruleFlags ← cause (name ++ toString index ++ "]") (dnsRuleModeRequirementsInRule rule)
    dnsRuleModeRequirementsFrom name (index + 1) rules (flags.merge ruleFlags)
end

variable (rules : List Options.DNSRule)

def dnsRuleModeRequirements : Except String DnsRuleModeFlags :=
  dnsRuleModeRequirementsFrom lookup "dns rule[" 0 rules {}

def resolveLegacyDNSMode : Except String (Bool × DnsRuleModeFlags) := do
  let flags ← dnsRuleModeRequirements lookup rules
  ensure (¬(flags.disabled ∧ flags.neededFromStrategy)) optionLegacyDNSRuleStrategy
  return (if flags.disabled then false else flags.needed, flags)

/-! ## Validation outside of the legacy mode -/

structure DnsRuleResponseUse where
  needsAnonymous : Bool := false
  referencedTags : List String := []

/-- The loop over `rule_set` of a rule that does not match responses. -/
def checkNoPureIPRuleSet : List String → Except String Unit
  | [] => .ok ()
  | tag :: tags => do
    let metadata ← lookup tag
    ensure (¬(metadata.containsIPCIDRRule ∧ metadata.containsNonIPCIDRRule = false)) optionLegacyDNSAddressFilter
    checkNoPureIPRuleSet tags

/-- The fields of a rule that only a response can answer. -/
def Options.DefaultDNSRule.looksAtResponse : Bool :=
  rule.hasResponseMatchFields || rule.ipCIDR.isSome || rule.ipIsPrivate || rule.ipAcceptAny

def responseMatchFieldsMessage : String :=
  "Response Match Fields (ip_cidr, ip_is_private, ip_accept_any, response_rcode, response_answer, response_ns, " ++
    "response_extra) require match_response to be enabled"

def validateLegacyDNSModeDisabledDefaultRule : Except String DnsRuleResponseUse := do
  ensure (rule.looksAtResponse → rule.matchResponse.enabled) responseMatchFieldsMessage
  checkNoPureIPRuleSet lookup (if rule.matchResponse.enabled then [] else rule.ruleSet)
  ensure (rule.ruleSetIPCIDRAcceptEmpty = false) optionRuleSetIPCIDRAcceptEmpty
  return {
    needsAnonymous := (rule.matchResponse.enabled && rule.matchResponse.tag == "") ||
      (action.isRespond && rule.matchResponse.tag == "")
    referencedTags := if rule.matchResponse.enabled && rule.matchResponse.tag != "" then [rule.matchResponse.tag] else [] }

def logicalRespondMessage : String :=
  "respond on a logical rule cannot bind a `match_response` tag from its sub rules; use a non-logical rule"

mutual
def validateLegacyDNSModeDisabledRuleTree : Options.DNSRule → Except String DnsRuleResponseUse
  | .default rule action _ => validateLegacyDNSModeDisabledDefaultRule lookup rule action
  | .logical _ rules _ action => do
    let use ← validateSubRules 0 rules {}
    ensure (action.isRespond → use.referencedTags = []) logicalRespondMessage
    return if action.isRespond then { use with needsAnonymous := true } else use
def validateSubRules (index : Nat) : List Options.DNSRule → DnsRuleResponseUse → Except String DnsRuleResponseUse
  | [], use => .ok use
  | rule :: rules, use => do
    let subUse ← cause ("sub rule[" ++ toString index ++ "]") (validateLegacyDNSModeDisabledRuleTree rule)
    validateSubRules (index + 1) rules {
      needsAnonymous := use.needsAnonymous || subUse.needsAnonymous
      referencedTags := use.referencedTags ++ subUse.referencedTags }
end

/-- The variables of the loop of `validateLegacyDNSModeDisabledRules`. -/
structure RuleListValidation where
  warnings : List String := []
  seenAnonymousEvaluate : Bool := false
  seenRace : Bool := false
  /-- `definedTagOrder`, whose members are those of `definedTags`. -/
  definedTags : List String := []
  referencedTags : List String := []
  lastAnonymousEvaluate : Option Nat := none
  anonymousReadSinceLast : Bool := false

variable (index : Nat)

def dnsRuleName : String := "dns rule[" ++ toString index ++ "]"

namespace RuleListValidation

variable (validation : RuleListValidation) (action : Options.DNSRuleAction)

def noteSpeculative (validation : RuleListValidation) (index : Nat) (action : Options.DNSRuleAction) :
    RuleListValidation where
  __ := validation
  warnings := validation.warnings ++ optional (action.speculative && !validation.seenRace)
    (dnsRuleName index ++ ": `speculative` has no effect without a preceding `race` rule")
  seenRace := validation.seenRace || action.race

def noteUse (validation : RuleListValidation) (index : Nat) (use : DnsRuleResponseUse) :
    Except String RuleListValidation := do
  ensure (use.needsAnonymous → validation.seenAnonymousEvaluate)
    (dnsRuleName index ++ (if validation.definedTags ≠ [] then
      ": response-based matching requires a preceding evaluate action without `tag`; " ++
        "use `match_response` with an evaluate tag to reference a tagged result"
      else ": response-based matching requires a preceding evaluate action"))
  match use.referencedTags.find? fun tag => !validation.definedTags.contains tag with
  | some tag => .error (dnsRuleName index ++ ": undefined evaluate tag: " ++ tag)
  | none => .ok { validation with
      anonymousReadSinceLast := validation.anonymousReadSinceLast || use.needsAnonymous
      referencedTags := validation.referencedTags ++ use.referencedTags }

def overwrittenWarning (validation : RuleListValidation) (index : Nat) : List String :=
  match validation.lastAnonymousEvaluate with
  | some last => optional (!validation.anonymousReadSinceLast)
      (dnsRuleName last ++ ": evaluated response is overwritten by " ++ dnsRuleName index ++ " before any use")
  | none => []

def noteEvaluate (validation : RuleListValidation) (index : Nat) (action : Options.DNSRuleAction) :
    Except String RuleListValidation :=
  if action.isEvaluate then
    if action.evaluateTag = "" then
      .ok { validation with
        warnings := validation.warnings ++ validation.overwrittenWarning index
        seenAnonymousEvaluate := true
        lastAnonymousEvaluate := some index
        anonymousReadSinceLast := false }
    else do
      ensure (action.evaluateTag ∉ validation.definedTags)
        (dnsRuleName index ++ ": duplicate evaluate tag: " ++ action.evaluateTag)
      return { validation with definedTags := validation.definedTags ++ [action.evaluateTag] }
  else .ok validation

end RuleListValidation

def validateRulesFrom (index : Nat) : List Options.DNSRule → RuleListValidation → Except String RuleListValidation
  | [], validation => .ok validation
  | rule :: rules, validation => do
    let use ← cause ("validate " ++ dnsRuleName index)
      (validateLegacyDNSModeDisabledRuleTree lookup rule)
    let validation ← (validation.noteSpeculative index rule.action).noteUse index use
    let validation ← validation.noteEvaluate index rule.action
    validateRulesFrom (index + 1) rules validation

/-- Returns the warnings. -/
def validateLegacyDNSModeDisabledRules : Except String (List String) := do
  let validation ← validateRulesFrom lookup 0 rules {}
  return validation.warnings ++ (validation.definedTags.filter fun tag => !validation.referencedTags.contains tag).map
    fun tag => "evaluate tag is never referenced: " ++ tag

end Mode

end SingBox
