import SingBox.Dns.Rule

/-! # Queries and fallbacks of the DNS router

The parts of `dns/router.go` that do not depend on when a query completes: the options of a
query, the result of a final action, and the fallback rules. A server answers each query by
`exchange`, a function of who asks it and how.
-/

namespace SingBox

/-! ## Servers -/

inductive DNSTransportType where
  | fakeIP
  | other
deriving DecidableEq, Repr

/-- Who sends a query: the position of a rule or, for the default server, the number of
rules, and the fallback rule that is tried. -/
structure DNSQuery where
  position : Nat
  fallback : Option Nat := none
  transport : String
  options : DNSQueryOptions

structure DNSAnswer where
  response : Option DnsMessage := none
  err : Option String := none
deriving DecidableEq, Repr

/-- `dnsEvaluatedFuture.view` of a query that is done. -/
def DNSAnswer.view (answer : DNSAnswer) : Option DnsMessage := if answer.err.isSome then none else answer.response

structure DNSRouter where
  env : Environment := {}
  transport : String → Option DNSTransportType := fun _ => some .other
  defaultTransport : String := ""
  defaultDomainStrategy : DomainStrategy := .asIs
  /-- `none` is the code -1. -/
  defaultRejectRcode : Option Nat := none
  exchange : DNSQuery → DNSAnswer := fun _ => {}
  /-- The response with what its alias leads to, a query of its own. -/
  followPredefinedCNAME : DnsMessage → DNSQueryOptions → DnsMessage := fun response _ => response

/-- `exchangeWithRulesResult`: the rule by its position, and whether it rejects. -/
structure ExchangeResult where
  response : Option DnsMessage := none
  transport : Option String := none
  rule : Option Nat := none
  options : DNSQueryOptions := {}
  rejected : Bool := false
  err : Option String := none

def rcodeRefused : Nat := 5

def errDrop : String := "packet dropped"

def dnsRespondMissingResponseMessage : String :=
  "respond action requires an evaluated response from a preceding evaluate action"

variable (result : ExchangeResult)

/-- `dnsResultBad`. -/
def ExchangeResult.bad : Bool :=
  result.err.isSome || (dnsResponseAddresses result.response).isEmpty

/-! ## Options -/

variable (options : DNSQueryOptions)

/-- The strategy of the action is skipped, since one forces the legacy mode. -/
def applyDNSRouteOptions (routeOptions : RuleActionDNSRouteOptions) : DNSQueryOptions :=
  let options := if routeOptions.disableCache then { options with disableCache := true } else options
  let options := if routeOptions.disableOptimisticCache then { options with disableOptimisticCache := true } else options
  let options := if routeOptions.rewriteTTL.isSome then { options with rewriteTTL := routeOptions.rewriteTTL } else options
  let options := if routeOptions.timeout > 0 then { options with timeout := routeOptions.timeout } else options
  let options := if routeOptions.clientSubnet.isValid then
    { options with clientSubnet := routeOptions.clientSubnet, removeClientSubnet := false } else options
  if routeOptions.removeClientSubnet then
    { options with clientSubnet := ⟨none, none⟩, removeClientSubnet := true } else options

namespace DNSRouter

variable (router : DNSRouter)

def finalizeExchangeOptions (options : DNSQueryOptions) : DNSQueryOptions :=
  if options.strategy = .asIs then { options with strategy := router.defaultDomainStrategy } else options

/-- The options of the query, unless the server is missing or a fakeip server is skipped. -/
def resolveDNSRoute (allowFakeIP : Bool) (server : String) (routeOptions : RuleActionDNSRouteOptions)
    (options : DNSQueryOptions) : Option DNSQueryOptions :=
  match router.transport server with
  | none => none
  | some .fakeIP =>
    if allowFakeIP then some { applyDNSRouteOptions options routeOptions with disableCache := true } else none
  | some .other => some (applyDNSRouteOptions options routeOptions)

/-! ## Final actions -/

def resolveRejectRcode (actionRcode : Option Nat) : Nat :=
  (actionRcode <|> router.defaultRejectRcode).getD rcodeRefused

/-- `dnsRejectResponse`, or nothing at all. -/
def rejectResult (position : Nat) (options : DNSQueryOptions) (rcode : Option Nat) : DNSRejectMethod → ExchangeResult
  | .default => {
      response := some { rcode := router.resolveRejectRcode rcode }, rule := some position, options, rejected := true }
  | .drop => { rule := some position, options, rejected := true, err := some errDrop }

def predefinedResult (position : Nat) (options : DNSQueryOptions) (response : DnsMessage) : ExchangeResult where
  response := some (router.followPredefinedCNAME response options)
  rule := some position
  options := options

end DNSRouter

/-- A query that was sent for a rule, or for the default server. -/
def queryResult (transport : String) (rule : Option Nat) (options : DNSQueryOptions) (answer : DNSAnswer) :
    ExchangeResult where
  response := answer.response
  transport := some transport
  rule := rule
  options := options
  err := answer.err

def respondResult (position : Nat) (options : DNSQueryOptions) (response : Option DnsMessage)
    (transport : Option String) : ExchangeResult :=
  match response with
  | none => { err := some dnsRespondMissingResponseMessage }
  | some response => { response := some response, transport, rule := some position, options }

/-! ## Fallback rules -/

section Fallback

variable (router : DNSRouter) (metadata : InboundContext) (allowFakeIP : Bool)

/-- The copy of the metadata that fallback rules look at, for the primary response. -/
def fallbackMetadata (matchResponse : Option DnsMessage) : InboundContext :=
  { metadata.resetRuleCache with
    dnsResponse := matchResponse
    destinationAddresses := dnsResponseAddresses matchResponse
    destinationAddressMatchFromResponse := matchResponse.any fun response => response.rcode == rcodeSuccess }

def fallbackOptions (rule : DNSFallbackRule) (type : DNSTransportType) (baseOptions : DNSQueryOptions) :
    DNSQueryOptions :=
  let options := if type = .fakeIP ∨ rule.disableCache then { baseOptions with disableCache := true } else baseOptions
  let options := if rule.rewriteTTL.isSome then { options with rewriteTTL := rule.rewriteTTL } else options
  match rule.clientSubnet with
  | some clientSubnet => { options with clientSubnet, removeClientSubnet := false }
  | none => options

/-- The loops of `applyDNSFallback` and `resolveDNSFallback`: after a failed attempt the
search goes on behind it, for the response of the primary query. -/
def tryFallbackRules (position : Nat) (primary : ExchangeResult) :
    Nat → List DNSFallbackRule → ExchangeResult → ExchangeResult
  | _, [], result => result
  | index, rule :: rules, result =>
    let seen := fallbackMetadata metadata primary.response
    if !rule.match router.env seen then tryFallbackRules position primary (index + 1) rules result
    else if rule.acceptResult then
      if seen.destinationAddressMatchFromResponse then result
      else tryFallbackRules position primary (index + 1) rules result
    else
      match router.transport rule.server with
      | none => tryFallbackRules position primary (index + 1) rules result
      | some type =>
        if type = .fakeIP ∧ !allowFakeIP then tryFallbackRules position primary (index + 1) rules result
        else
          let options := fallbackOptions rule type primary.options
          let answer := router.exchange {
            position, fallback := some index, transport := rule.server
            options := router.finalizeExchangeOptions options }
          let next := { result with
            response := answer.response, transport := some rule.server, options, err := answer.err }
          if next.bad then tryFallbackRules position primary (index + 1) rules next else next

variable (rules : List DNSRule)

/-- The result of a walk, after the fallback rules of the rule that was selected. -/
def applyDNSFallback (rules : List DNSRule) (result : ExchangeResult) : ExchangeResult :=
  if result.rejected then result
  else match result.rule with
    | none => result
    | some position => match rules[position]? with
      | none => result
      | some rule => tryFallbackRules router metadata allowFakeIP position result 0 rule.fallbackRules result

/-- The condition on which the rules behind the selected one are tried. -/
def fallsThrough (rules : List DNSRule) (result : ExchangeResult) : Option Nat :=
  match result.rule with
  | none => none
  | some position => match rules[position]? with
    | none => none
    | some rule =>
      if rule.allowFallthrough && result.bad && decide (position + 1 < rules.length) then some position else none

end Fallback

end SingBox
