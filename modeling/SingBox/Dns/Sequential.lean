import SingBox.Dns.Walk

/-! # The sequential interpreter of DNS rules

The rules one after the other, where the query of an `evaluate` action has completed before
the next rule is looked at. There is nothing to wait for, so that `race` and `speculative`
have no meaning here.
-/

namespace SingBox

open Lib (assign)

/-- A query that has completed. -/
structure Evaluated where
  transport : String
  answer : DNSAnswer

/-- What the rules so far leave for the next: the options of its queries, and the responses
that were evaluated. -/
structure Evaluations where
  options : DNSQueryOptions := {}
  anonymous : Option Evaluated := none
  responses : List (String × DnsMessage) := []
  transports : List (String × String) := []

/-- A rule passes on, or commits. -/
inductive Turn where
  | next (evaluations : Evaluations)
  | commit (result : ExchangeResult)

namespace Evaluations

variable (evaluations : Evaluations)

def response : Option DnsMessage :=
  evaluations.anonymous.bind fun evaluated => evaluated.answer.view

/-- The answer to an `evaluate` action with the tag. -/
def record (tag : String) (evaluated : Evaluated) : Evaluations :=
  if tag = "" then { evaluations with anonymous := some evaluated }
  else { evaluations with
    responses := assign evaluations.responses tag evaluated.answer.view
    transports := assign evaluations.transports tag (some evaluated.transport) }

end Evaluations

namespace WalkContext

variable (context : WalkContext) (position : Nat)

def askNow (server : String) (options : DNSQueryOptions) : DNSAnswer :=
  context.router.exchange {
    position, transport := server, options := context.router.finalizeExchangeOptions options }

variable (rule : DNSRule) (evaluations : Evaluations)

def matchesNow : Bool :=
  (rule.rule.match context.router.env { context.metadata.resetRuleCache with
    dnsResponse := evaluations.response
    namedDNSResponses := evaluations.responses
    destinationAddressMatchFromResponse := false }).1

def respondNow : ExchangeResult :=
  if rule.rule.matchResponseTag ≠ "" then
    respondResult position evaluations.options (evaluations.responses.lookup rule.rule.matchResponseTag)
      (evaluations.transports.lookup rule.rule.matchResponseTag)
  else respondResult position evaluations.options evaluations.response (evaluations.anonymous.map Evaluated.transport)

def actNow : Turn :=
  match rule.action with
  | .routeOptions routeOptions =>
    .next { evaluations with options := applyDNSRouteOptions evaluations.options routeOptions }
  | .evaluate server tag _ routeOptions =>
    match context.router.transport server with
    | none => .next (if tag = "" then { evaluations with anonymous := none } else evaluations)
    | some _ => .next (evaluations.record tag
        ⟨server, context.askNow position server (applyDNSRouteOptions evaluations.options routeOptions)⟩)
  | .respond => .commit (respondNow position rule evaluations)
  | .route server _ routeOptions =>
    match context.router.resolveDNSRoute context.allowFakeIP server routeOptions evaluations.options with
    | none => .next evaluations
    | some options => .commit (queryResult server (some position) options (context.askNow position server options))
  | .reject rcode method => .commit (context.router.rejectResult position evaluations.options rcode method)
  | .predefined response => .commit (context.router.predefinedResult position evaluations.options response)

/-- One rule of the list. -/
def turn (disabled : Nat → Bool) (position : Nat) (rule : DNSRule) (evaluations : Evaluations) : Turn :=
  if disabled position then .next evaluations
  else if context.matchesNow rule evaluations then context.actNow position rule evaluations
  else .next evaluations

def defaultNow : ExchangeResult :=
  queryResult context.router.defaultTransport none evaluations.options
    (context.askNow position context.router.defaultTransport evaluations.options)

/-- The result of a rule after its fallback rules. -/
def settle (result : ExchangeResult) : ExchangeResult :=
  applyDNSFallback context.router context.metadata context.allowFakeIP context.rules result

/-- What the rules behind one that falls through start from: the first time, nothing but
the options of its result. -/
def carriedOver (continued : Bool) (evaluations : Evaluations) (result : ExchangeResult) : Evaluations :=
  if continued then evaluations else { options := result.options }

/-- The rules from a position on; `continued` is set once a rule has fallen through. -/
def sequential (disabled : Nat → Bool) : (continued : Bool) → Nat → List DNSRule → Evaluations → ExchangeResult
  | _, position, [], evaluations => context.defaultNow position evaluations
  | continued, position, rule :: rules, evaluations =>
    match context.turn disabled position rule evaluations with
    | .next evaluations => sequential disabled continued (position + 1) rules evaluations
    | .commit result =>
      if (fallsThrough context.rules (context.settle result)).isSome then
        sequential disabled true (position + 1) rules (carriedOver continued evaluations (context.settle result))
      else context.settle result

end WalkContext

end SingBox
