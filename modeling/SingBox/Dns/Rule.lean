import SingBox.Rule.Abstract

/-! # DNS rules

`route/rule/rule_dns.go`: a DNS rule is a rule with an action. Its conditions may look at
the response of a query that an earlier rule with the action `evaluate` has sent; the tags
of these responses are the rule's bindings, collected from the leaves of its tree.
-/

namespace SingBox

/-! ## Actions -/

structure RuleActionDNSRouteOptions where
  strategy : DomainStrategy := .asIs
  timeout : Nat := 0
  disableCache : Bool := false
  disableOptimisticCache : Bool := false
  rewriteTTL : Option UInt32 := none
  clientSubnet : Prefix := ⟨none, none⟩
  removeClientSubnet : Bool := false
deriving DecidableEq

/-- The methods of `reject` that a DNS rule can have. -/
inductive DNSRejectMethod where
  | default
  | drop
deriving DecidableEq, Repr

inductive DNSRuleAction where
  | route (server : String) (speculative : Bool) (options : RuleActionDNSRouteOptions)
  | evaluate (server : String) (tag : String) (speculative : Bool) (options : RuleActionDNSRouteOptions)
  | respond
  | routeOptions (options : RuleActionDNSRouteOptions)
  /-- `none` is the code -1, which leaves the choice to the router. -/
  | reject (rcode : Option Nat) (method : DNSRejectMethod)
  /-- The response to the question at hand. -/
  | predefined (response : DnsMessage)
deriving DecidableEq

/-- The actions that end a walk over the rules. -/
def DNSRuleAction.isFinal : DNSRuleAction → Bool
  | .route _ _ _ | .respond | .reject _ _ | .predefined _ => true
  | .evaluate _ _ _ _ | .routeOptions _ => false

/-! ## Bindings -/

namespace Rule

def matchResponseTag : Rule → String
  | .default rule => rule.matchResponseTag
  | .logical _ _ _ => ""

mutual
def matchResponseTags : Rule → List String
  | .default rule => if rule.matchResponseTag = "" then [] else [rule.matchResponseTag]
  | .logical _ _ rules => (allMatchResponseTags rules).eraseDups
def allMatchResponseTags : List Rule → List String
  | [] => []
  | rule :: rules => rule.matchResponseTags ++ allMatchResponseTags rules
end

mutual
def matchResponseAnonymous : Rule → Bool
  | .default rule => rule.matchResponse && rule.matchResponseTag == ""
  | .logical _ _ rules => anyMatchResponseAnonymous rules
def anyMatchResponseAnonymous : List Rule → Bool
  | [] => false
  | rule :: rules => rule.matchResponseAnonymous || anyMatchResponseAnonymous rules
end

def hasBindings (rule : Rule) : Bool := !rule.matchResponseTags.isEmpty || rule.matchResponseAnonymous

variable (rules : List Rule)

theorem allMatchResponseTags_eq : allMatchResponseTags rules = rules.flatMap matchResponseTags := by
  induction rules with
  | nil => rfl
  | cons rule rules ih => rw [allMatchResponseTags, ih, List.flatMap_cons]

theorem anyMatchResponseAnonymous_eq : anyMatchResponseAnonymous rules = rules.any matchResponseAnonymous := by
  induction rules with
  | nil => rfl
  | cons rule rules ih => rw [anyMatchResponseAnonymous, ih, List.any_cons]

end Rule

/-! ## Fallback rules -/

inductive DNSFallbackItem where
  | clashMode (modes : List String)
  | ipCidr (ipSet : Ipset.Set)
  | ipIsPrivate
  | ruleSet (item : RuleSetItem)

variable (env : Environment)

/-- `RuleItem.Match` of the items that a fallback rule can have. -/
def DNSFallbackItem.match (item : DNSFallbackItem) (metadata : InboundContext) : Bool :=
  match item with
  | .clashMode modes => (RuleItem.clashMode modes).match env metadata
  | .ipCidr ipSet => ipCIDRItemMatch ipSet false metadata
  | .ipIsPrivate => ipIsPrivateItemMatch env false metadata
  | .ruleSet item => (item.match env metadata).1

structure DNSFallbackRule where
  acceptResult : Bool := false
  matchAll : Bool := false
  items : List DNSFallbackItem := []
  invert : Bool := false
  server : String := ""
  disableCache : Bool := false
  rewriteTTL : Option UInt32 := none
  /-- `ClientSubnet()`, which is nil when the prefix is not valid. -/
  clientSubnet : Option Prefix := none

/-- The nested match of a rule set restores the metadata, so that the items are asked
one after the other about the same. -/
def DNSFallbackRule.match (rule : DNSFallbackRule) (metadata : InboundContext) : Bool :=
  if rule.matchAll then true
  else
    let matched := rule.items.all fun item => item.match env metadata
    if rule.invert then !matched else matched

/-! ## Rules -/

/-- `adapter.DNSRule`: a rule with `race` has bindings and a final action. -/
structure DNSRule where
  rule : Rule
  action : DNSRuleAction
  fallbackRules : List DNSFallbackRule := []
  allowFallthrough : Bool := false
  race : Bool := false
  race_binds : race → rule.hasBindings ∧ action.isFinal := by simp

end SingBox
