import SingBox.Dns.Rule
import SingBox.Rule.LegacyPreMatch

/-! # Which responses a DNS rule looks at

A rule answers alike for all metadata that agree on the responses it binds. The walk
relies on it twice: it matches a rule while other responses are still on their way, and it
waits for no more than the bindings.
-/

namespace SingBox

namespace InboundContext

variable (metadata : InboundContext) (response : Option DnsMessage)

def withResponses (named : List (String × DnsMessage)) : InboundContext :=
  { metadata with dnsResponse := response, namedDNSResponses := named }

/-- The response does not matter for the addresses: it is the same, or not asked for them. -/
def Indifferent : Prop :=
  response = metadata.dnsResponse ∨ metadata.destinationAddressMatchFromResponse = false

end InboundContext

open InboundContext (Indifferent)

/-- A rule has `response_*` items only with `match_response`. -/
def DefaultRule.BindsResponses (rule : DefaultRule) : Prop :=
  rule.matchResponse = false → ∀ item ∈ rule.items, item.isResponse = false

section Responses

variable {env : Environment} {metadata : InboundContext} {response : Option DnsMessage}
  {named : List (String × DnsMessage)}

/-! ## Items -/

theorem RuleItem.match_withResponses {item : RuleItem}
    (same : response = metadata.dnsResponse ∨ item.isResponse = false) :
    item.match env (metadata.withResponses response named) = item.match env metadata := by
  rcases same with rfl | plain
  · cases item <;> rfl
  · cases item <;> first | rfl | cases plain

theorem DestinationIPCIDRItem.match_withResponses (item : DestinationIPCIDRItem)
    (indifferent : metadata.Indifferent response) :
    item.match env (metadata.withResponses response named) = item.match env metadata := by
  rcases indifferent with rfl | unasked
  · cases item <;> rfl
  · have stillUnasked : (metadata.withResponses response named).destinationAddressMatchFromResponse = false := unasked
    cases item with
    | ipCidr ipSet =>
      simp only [DestinationIPCIDRItem.match, ipCIDRItemMatch, unasked, stillUnasked]
      rfl
    | ipIsPrivate =>
      simp only [DestinationIPCIDRItem.match, ipIsPrivateItemMatch, unasked, stillUnasked]
      rfl
    | ipAcceptAny =>
      simp only [DestinationIPCIDRItem.match, ipAcceptAnyItemMatch, unasked, stillUnasked]
      rfl

/-! ## Rules -/

theorem AbstractDefaultRule.alike_withResponses {rule : AbstractDefaultRule}
    (indifferent : metadata.Indifferent response)
    (same : response = metadata.dnsResponse ∨ ∀ item ∈ rule.items, item.isResponse = false) :
    rule.Alike env (metadata.withResponses response named) metadata where
  items item mem := RuleItem.match_withResponses (same.imp_right fun plain => plain item mem)
  requires := rfl
  satisfies := by
    have destination : rule.matchDestinationIPCIDR env (metadata.withResponses response named) =
        rule.matchDestinationIPCIDR env metadata := by
      unfold matchDestinationIPCIDR
      simp [DestinationIPCIDRItem.match_withResponses _ indifferent]
    funext group
    cases group <;> simp only [satisfies, destination] <;> rfl
  defers := rfl

theorem congruence_withResponses (response : Option DnsMessage) (named : List (String × DnsMessage)) :
    Congruence env fun first second => first = second.withResponses response named ∧ second.Indifferent response where
  reset := by
    rintro _ _ ⟨rfl, indifferent⟩
    exact ⟨rfl, indifferent⟩
  nested := by
    rintro _ _ ⟨rfl, indifferent⟩ item
    exact ⟨rfl, indifferent⟩
  headless := by
    rintro _ _ ⟨rfl, indifferent⟩ rule
    exact AbstractDefaultRule.alike_withResponses indifferent
      (.inr fun item mem => item.isResponse_of_isHeadless (rule.headlessItems item mem))

namespace DefaultRule

variable {rule : DefaultRule}

theorem abstractVerdict_withResponses (indifferent : metadata.Indifferent response)
    (same : response = metadata.dnsResponse ∨ ∀ item ∈ rule.items, item.isResponse = false) :
    rule.abstractVerdict env (metadata.withResponses response named) = rule.abstractVerdict env metadata :=
  (congruence_withResponses response named).abstractVerdict rule
    (AbstractDefaultRule.alike_withResponses indifferent same) ⟨rfl, indifferent⟩

theorem verdict_withResponses (binds : rule.BindsResponses)
    (unasked : metadata.destinationAddressMatchFromResponse = false) {response' : Option DnsMessage}
    {named' : List (String × DnsMessage)}
    (agree : rule.matchResponse → rule.matchedResponse (metadata.withResponses response named) =
      rule.matchedResponse (metadata.withResponses response' named')) :
    rule.verdict env (metadata.withResponses response named) =
      rule.verdict env (metadata.withResponses response' named') := by
  unfold verdict
  cases matchesResponse : rule.matchResponse with
  | false =>
    simp only [Bool.false_eq_true, if_false]
    have plain := binds matchesResponse
    rw [abstractVerdict_withResponses (.inr unasked) (.inr plain),
      abstractVerdict_withResponses (.inr unasked) (.inr plain)]
  | true =>
    rw [agree matchesResponse]
    cases rule.matchedResponse (metadata.withResponses response' named') with
    | none => simp
    | some found =>
      have copied : ∀ any others, (metadata.withResponses any others).forResponse found =
          (metadata.forResponse found).withResponses (some found) others := fun _ _ => rfl
      have own : some found = (metadata.forResponse found).dnsResponse := rfl
      simp [copied, abstractVerdict_withResponses (.inl own) (.inl own)]

end DefaultRule

namespace Rule

/-- Two sets of responses agree on those that the rule binds. -/
structure Agree (rule : Rule) (response response' : Option DnsMessage) (named named' : List (String × DnsMessage)) :
    Prop where
  anonymous : rule.matchResponseAnonymous → response = response'
  tagged : ∀ tag ∈ rule.matchResponseTags, named.lookup tag = named'.lookup tag

variable {response' : Option DnsMessage} {named' : List (String × DnsMessage)}

theorem Agree.of_mem {mode : LogicalMode} {invert : Bool} {rules : List Rule}
    (agree : (Rule.logical mode invert rules).Agree response response' named named') {rule : Rule}
    (mem : rule ∈ rules) : rule.Agree response response' named named' where
  anonymous binds := by
    apply agree.anonymous
    rw [matchResponseAnonymous, anyMatchResponseAnonymous_eq]
    exact List.any_eq_true.mpr ⟨rule, mem, binds⟩
  tagged tag isTag := by
    apply agree.tagged
    rw [matchResponseTags, allMatchResponseTags_eq, List.mem_eraseDups]
    exact List.mem_flatMap.mpr ⟨rule, mem, isTag⟩

theorem verdict_withResponses (rule : Rule) (binds : rule.Leaves DefaultRule.BindsResponses) (metadata : InboundContext)
    (unasked : metadata.destinationAddressMatchFromResponse = false)
    (agree : rule.Agree response response' named named') :
    rule.verdict env (metadata.withResponses response named) =
      rule.verdict env (metadata.withResponses response' named') := by
  induction rule using Rule.induction generalizing metadata with
  | default rule =>
    refine DefaultRule.verdict_withResponses binds unasked fun matchesResponse => ?_
    unfold DefaultRule.matchedResponse
    by_cases tagged : rule.matchResponseTag = ""
    · simp only [tagged, ne_eq, not_true_eq_false, if_false]
      exact agree.anonymous (by simp [matchResponseAnonymous, matchesResponse, tagged])
    · simp only [ne_eq, tagged, not_false_eq_true, if_true]
      exact agree.tagged _ (by simp [matchResponseTags, tagged])
  | logical mode invert rules ih =>
    rw [Leaves, allLeaves_iff] at binds
    rw [verdict, verdict, verdicts_eq_map, verdicts_eq_map]
    congr 1
    apply List.map_congr_left
    intro rule member
    exact ih rule member (binds rule member) metadata.resetRuleCache unasked (agree.of_mem member)

theorem matched_withResponses (rule : Rule) (binds : rule.Leaves DefaultRule.BindsResponses)
    (rested : metadata.Rested) (unasked : metadata.destinationAddressMatchFromResponse = false)
    (agree : rule.Agree response response' named named') :
    (rule.match env (metadata.withResponses response named)).1 =
      (rule.match env (metadata.withResponses response' named')).1 := by
  rw [(rule.match_decides env (metadata.withResponses response named) rested).possible_eq,
    (rule.match_decides env (metadata.withResponses response' named') rested).possible_eq,
    rule.verdict_withResponses binds metadata unasked agree]

end Rule

end Responses

end SingBox
