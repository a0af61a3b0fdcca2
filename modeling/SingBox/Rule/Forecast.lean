import SingBox.Rule.Alike
import SingBox.Rule.Denotation

/-! # Matching before and after a DNS response

A match with destinations ignored is a forecast of the match that looks at the
response. This module compares the two for default rules and for the rules of
rule sets: as long as no rule asks for a domain and an address together, the
first verdict lies below the second (`HeadlessRule.verdict_below`).
-/

namespace SingBox

open Lib.Kleene InboundContext List

/-! ## The two matches -/

/-- The metadata of the second match, in terms of that of the first. -/
def InboundContext.answered (metadata : InboundContext) (response : DnsMessage) (ignore : Bool) : InboundContext :=
  (metadata.forResponse response).ignoringDestinationIPCIDR ignore

section Answered

variable (metadata : InboundContext) (response : DnsMessage) (ignore : Bool)

theorem answered_resetRuleCache :
    (metadata.answered response ignore).resetRuleCache = metadata.resetRuleCache.answered response ignore := rfl

theorem answered_prepareNestedMatch (item : RuleSetItem) :
    item.prepareNestedMatch (metadata.answered response ignore) =
      (item.prepareNestedMatch metadata).answered response ignore := rfl

variable {metadata}

theorem RuleItem.match_answered (env : Environment) (item : RuleItem) (noResponse : item.isResponse = false) :
    item.match env (metadata.answered response ignore) = item.match env metadata := by
  cases item with
  | responseRcode | responseRecord => cases noResponse
  | _ => rfl

theorem RuleItem.isResponse_of_isHeadless (item : RuleItem) (headless : item.isHeadless) :
    item.isResponse = false := by
  cases item with
  | responseRcode | responseRecord => cases headless
  | _ => rfl

end Answered

/-! ## Leaves

Everything in a default rule is the same in both matches, except its addresses of
the destination: the first match leaves them out of the groups. -/

namespace AbstractDefaultRule

variable (rule : AbstractDefaultRule)

/-- The rule has address items that are matched against the destination. -/
def looksAtDestinationIP (matchSource : Bool) : Bool :=
  !matchSource && !rule.destinationIPCIDRItems.isEmpty

def looksAtDomain : Bool := !rule.destinationAddressItems.isEmpty

/-- What makes the two matches of a rule comparable: no item looks at the response
as such, and addresses matched against the source are plain prefixes. -/
structure Comparable (rule : AbstractDefaultRule) (matchSource : Bool) : Prop where
  noResponse : ∀ item ∈ rule.items, item.isResponse = false
  plainSource : matchSource → ∀ item ∈ rule.destinationIPCIDRItems, item.isIPCIDR

variable {env : Environment} {rule : AbstractDefaultRule} {metadata : InboundContext}
  {response : DnsMessage} {ignore : Bool}

theorem matchSourceAddress_answered :
    rule.matchSourceAddress env (metadata.answered response ignore) = rule.matchSourceAddress env metadata := by
  unfold matchSourceAddress
  congr 1

section
variable (comparable : rule.Comparable metadata.ipCidrMatchSource)
include comparable

theorem matchItems_answered :
    rule.matchItems env (metadata.answered response ignore) = rule.matchItems env metadata := by
  unfold matchItems
  rw [Bool.eq_iff_iff, all_eq_true, all_eq_true]
  refine forall₂_congr fun item mem => ?_
  rw [RuleItem.match_answered response ignore env item (comparable.noResponse item mem)]

theorem matchDestinationIPCIDR_answered (matchSource : metadata.ipCidrMatchSource) :
    rule.matchDestinationIPCIDR env (metadata.answered response ignore) = rule.matchDestinationIPCIDR env metadata := by
  have answeredSource : (metadata.answered response ignore).ipCidrMatchSource := matchSource
  unfold matchDestinationIPCIDR
  rw [Bool.eq_iff_iff, any_eq_true, any_eq_true]
  refine exists_congr fun item => and_congr_right fun mem => ?_
  have plain := comparable.plainSource matchSource item mem
  cases item with
  | ipCidr ipSet => simp [DestinationIPCIDRItem.match, ipCIDRItemMatch, matchSource, answeredSource]; rfl
  | ipIsPrivate | ipAcceptAny => cases plain

theorem satisfies_answered (group : Group) (other : group ≠ .destinationAddress) :
    rule.satisfies env (metadata.answered response ignore) group = rule.satisfies env metadata group := by
  cases group with
  | destinationAddress => contradiction
  | sourcePort | destinationPort => rfl
  | sourceAddress =>
    have same : rule.destinationIPCIDRMatchesSource (metadata.answered response ignore) =
        rule.destinationIPCIDRMatchesSource metadata := rfl
    simp only [satisfies, matchSourceAddress_answered, same]
    by_cases matchSource : metadata.ipCidrMatchSource
    · rw [matchDestinationIPCIDR_answered comparable matchSource]
    · simp [destinationIPCIDRMatchesSource, matchSource]

end

theorem requires_answered (group : Group) (other : group ≠ .destinationAddress) :
    rule.requires (metadata.answered response ignore) group = rule.requires metadata group := by
  cases group with
  | destinationAddress => contradiction
  | sourceAddress | sourcePort | destinationPort => rfl

section
variable (ignoring : metadata.ignoreDestinationIPCIDRMatch)
include ignoring

theorem requires_destination_ignoring : rule.requires metadata .destinationAddress = rule.looksAtDomain := by
  simp [requires, looksAtDomain, destinationIPCIDRMatchesDestination, ignoring]

theorem satisfies_destination_ignoring :
    rule.satisfies env metadata .destinationAddress = rule.matchDestinationAddress env metadata := by
  simp [satisfies, destinationIPCIDRMatchesDestination, ignoring]

theorem defersDestination_ignoring :
    rule.defersDestination metadata =
      (rule.looksAtDestinationIP metadata.ipCidrMatchSource && !rule.looksAtDomain) := by
  simp [defersDestination, looksAtDestinationIP, looksAtDomain, ignoring]

end

theorem defersDestination_answered :
    rule.defersDestination (metadata.answered response ignore) =
      (ignore && (rule.looksAtDestinationIP metadata.ipCidrMatchSource && !rule.looksAtDomain)) := by
  simp [defersDestination, looksAtDomain, looksAtDestinationIP, answered,
    ignoringDestinationIPCIDR, forResponse, Bool.and_assoc]

theorem requires_destination_answered :
    rule.requires (metadata.answered response ignore) .destinationAddress =
      (rule.looksAtDomain || (!ignore && rule.looksAtDestinationIP metadata.ipCidrMatchSource)) := by
  simp [requires, looksAtDomain, looksAtDestinationIP, destinationIPCIDRMatchesDestination, answered,
    ignoringDestinationIPCIDR, forResponse, Bool.and_assoc]

theorem satisfies_destination_answered :
    rule.satisfies env (metadata.answered response ignore) .destinationAddress =
      (rule.matchDestinationAddress env metadata ||
        (!ignore && rule.looksAtDestinationIP metadata.ipCidrMatchSource &&
          rule.matchDestinationIPCIDR env (metadata.answered response ignore))) := by
  simp only [satisfies, destinationIPCIDRMatchesDestination, looksAtDestinationIP, Bool.and_assoc]
  rfl

/-- A domain item of the rule matches: the rule has one. -/
theorem looksAtDomain_of_match (hit : rule.matchDestinationAddress env metadata) :
    rule.looksAtDomain := by
  unfold matchDestinationAddress at hit
  unfold looksAtDomain
  cases items : rule.destinationAddressItems with
  | nil => simp [items] at hit
  | cons => rfl

section
variable (comparable : rule.Comparable metadata.ipCidrMatchSource)
  (ignoring : metadata.ignoreDestinationIPCIDRMatch)
include comparable ignoring

/-- With destinations ignored in both matches nothing of the rule can tell them apart. -/
theorem alike_ignoring : rule.Alike env (metadata.answered response true) metadata where
  items item mem := RuleItem.match_answered response true env item (comparable.noResponse item mem)
  requires := by
    funext group
    by_cases destination : group = .destinationAddress
    · subst destination
      rw [requires_destination_answered, requires_destination_ignoring ignoring]
      simp
    · exact requires_answered group destination
  satisfies := by
    funext group
    by_cases destination : group = .destinationAddress
    · subst destination
      rw [satisfies_destination_answered, satisfies_destination_ignoring ignoring]
      simp
    · exact satisfies_answered comparable group destination
  defers := by rw [defersDestination_answered, defersDestination_ignoring ignoring, Bool.true_and]

/-- The groups of the second match hold if those of the first do and the addresses
of the rule cannot spoil it. -/
theorem groupsHold_answered (holds : rule.GroupsHold env metadata)
    (notDeferred : rule.defersDestination metadata = false) :
    rule.GroupsHold env (metadata.answered response ignore) := by
  intro group required
  by_cases destination : group = .destinationAddress
  · subst destination
    have domain := holds .destinationAddress
    rw [requires_destination_ignoring ignoring, satisfies_destination_ignoring ignoring] at domain
    rw [defersDestination_ignoring ignoring] at notDeferred
    rw [requires_destination_answered] at required
    rw [satisfies_destination_answered]
    grind
  · rw [requires_answered group destination] at required
    rw [satisfies_answered comparable group destination]
    exact holds group required

theorem groupsHold_of_answered (unmixed : ¬(rule.looksAtDomain ∧ rule.looksAtDestinationIP metadata.ipCidrMatchSource))
    (holds : rule.GroupsHold env (metadata.answered response ignore)) : rule.GroupsHold env metadata := by
  intro group required
  by_cases destination : group = .destinationAddress
  · subst destination
    have both := holds .destinationAddress
    rw [requires_destination_answered, satisfies_destination_answered] at both
    rw [requires_destination_ignoring ignoring] at required
    rw [satisfies_destination_ignoring ignoring]
    grind
  · have same := holds group
    rw [requires_answered group destination, satisfies_answered comparable group destination] at same
    exact same required

end

theorem satisfies_destination_of_defers (deferred : rule.defersDestination metadata) :
    rule.satisfies env metadata .destinationAddress = false := by
  simp only [defersDestination, Bool.and_eq_true, List.isEmpty_iff, Bool.not_eq_true'] at deferred
  obtain ⟨⟨⟨ignoring, -⟩, -⟩, noDomain⟩ := deferred
  rw [satisfies_destination_ignoring ignoring]
  simp [matchDestinationAddress, noDomain]

theorem innerVerdict_own_eq_yes :
    rule.innerVerdict env metadata [rule.ownBranch env metadata] = .yes ↔
      rule.matchItems env metadata ∧ rule.GroupsHold env metadata ∧ rule.defersDestination metadata = false := by
  rw [← groups_done, innerVerdict, ownBranch]
  by_cases done : (rule.groups env metadata).done
  · cases deferred : rule.defersDestination metadata with
    | false => simp [Branch.collect, done]
    | true =>
      simp only [done, satisfies_destination_of_defers deferred, if_true]
      cases rule.matchItems env metadata <;> simp [Branch.collect]
  · simp [Branch.collect, done]

section
variable (comparable : rule.Comparable metadata.ipCidrMatchSource)
  (ignoring : metadata.ignoreDestinationIPCIDRMatch)
include comparable ignoring

theorem innerVerdict_own_answered (isYes : rule.innerVerdict env metadata [rule.ownBranch env metadata] = .yes) :
    rule.innerVerdict env (metadata.answered response ignore)
      [rule.ownBranch env (metadata.answered response ignore)] = .yes := by
  rw [innerVerdict_own_eq_yes] at isYes ⊢
  obtain ⟨itemsMatch, holds, notDeferred⟩ := isYes
  refine ⟨(matchItems_answered comparable).trans itemsMatch,
    groupsHold_answered comparable ignoring holds notDeferred, ?_⟩
  rw [defersDestination_ignoring ignoring] at notDeferred
  rw [defersDestination_answered, notDeferred, Bool.and_false]

theorem ownVerdict_answered (unmixed : ¬(rule.looksAtDomain ∧ rule.looksAtDestinationIP metadata.ipCidrMatchSource)) :
    Verdict.Below (rule.verdict env metadata none) (rule.verdict env (metadata.answered response ignore) none) := by
  have items : rule.matchItems env (metadata.answered response ignore) = rule.matchItems env metadata :=
    matchItems_answered comparable
  have inner : Verdict.Below (rule.innerVerdict env metadata [rule.ownBranch env metadata])
      (rule.innerVerdict env (metadata.answered response ignore)
        [rule.ownBranch env (metadata.answered response ignore)]) := by
    apply Verdict.Below.of_known
    · -- a rule that matches the response was possible before
      intro isNo
      rw [Verdict.eq_no_iff, ← Bool.not_eq_true, innerVerdict_possible] at isNo ⊢
      simp only [mem_singleton, exists_eq_left, ownBranch_ne_miss, items] at isNo ⊢
      exact fun matched => isNo ⟨matched.1, groupsHold_of_answered comparable ignoring unmixed matched.2⟩
    · exact innerVerdict_own_answered comparable ignoring
  unfold verdict
  split
  · exact .refl _
  · split
    · exact Verdict.not_below inner
    · exact inner

end

theorem innerVerdict_ne_unknown {branches : List Branch} (notDeferred : rule.defersDestination metadata = false)
    (noPending : .pending ∉ branches) : rule.innerVerdict env metadata branches ≠ .unknown := by
  have closed := Branch.collect_closed branches noPending
  simp only [innerVerdict, notDeferred, closed, Bool.false_and, Bool.false_eq_true, if_false]
  split
  · split <;> simp
  · simp

theorem ownVerdict_ne_unknown (noAddrs : ¬rule.looksAtDestinationIP metadata.ipCidrMatchSource) :
    rule.verdict env metadata none ≠ .unknown := by
  have notDeferred : rule.defersDestination metadata = false := by
    rw [looksAtDestinationIP] at noAddrs
    simp only [defersDestination]
    grind
  have inner : rule.innerVerdict env metadata [rule.ownBranch env metadata] ≠ .unknown :=
    innerVerdict_ne_unknown notDeferred (pending_notMem_ownBranch env rule metadata)
  unfold verdict
  split
  · decide
  · split
    · exact Verdict.not_eq_unknown inner
    · exact inner

end AbstractDefaultRule

section Logical

variable {α : Type} {mode : LogicalMode} {invert : Bool} {rules : List α}

theorem logicalVerdict_below {first second : α → Verdict}
    (below : ∀ rule ∈ rules, Verdict.Below (first rule) (second rule)) :
    Verdict.Below (logicalVerdict mode invert (rules.map first)) (logicalVerdict mode invert (rules.map second)) := by
  have children : ∀ mode, Verdict.Below (logicalVerdict mode false (rules.map first))
      (logicalVerdict mode false (rules.map second)) := by
    intro mode
    cases mode with
    | and => exact Verdict.all_map_below rules first second below
    | or => exact Verdict.any_map_below rules first second below
  cases invert with
  | false => exact children mode
  | true => exact Verdict.not_below (children mode)

theorem logicalVerdict_ne_unknown {verdict : α → Verdict} (known : ∀ rule ∈ rules, verdict rule ≠ .unknown) :
    logicalVerdict mode invert (rules.map verdict) ≠ .unknown := by
  have children : ∀ mode, logicalVerdict mode false (rules.map verdict) ≠ .unknown := by
    intro mode
    cases mode with
    | and => exact Verdict.all_ne_unknown (forall_mem_map.mpr known)
    | or => exact Verdict.any_ne_unknown (forall_mem_map.mpr known)
  cases invert with
  | false => exact children mode
  | true => exact Verdict.not_eq_unknown (children mode)

end Logical

/-! ## Rule sets -/

theorem DefaultHeadlessRule.comparable (rule : DefaultHeadlessRule) (matchSource : Bool) :
    rule.toAbstractDefaultRule.Comparable matchSource where
  noResponse item mem := item.isResponse_of_isHeadless (rule.headlessItems item mem)
  plainSource _ := rule.ipCidrItems

/-- The second match with destinations ignored in both: headless rules cannot tell it from the first. -/
theorem congruence_ignoring (env : Environment) (response : DnsMessage) :
    Congruence env fun second first =>
      first.ignoreDestinationIPCIDRMatch ∧ second = first.answered response true where
  reset := by
    rintro _ first ⟨ignoring, rfl⟩
    exact ⟨ignoring, answered_resetRuleCache first response true⟩
  nested := by
    rintro _ first ⟨ignoring, rfl⟩ item
    exact ⟨ignoring, answered_prepareNestedMatch first response true item⟩
  headless := by
    rintro _ first ⟨ignoring, rfl⟩ rule
    exact AbstractDefaultRule.alike_ignoring (rule.comparable _) ignoring

-- Inside a logical rule the addresses count for the destination again.
mutual
/-- Some default rule of the tree has addresses matched against the destination. -/
def HeadlessRule.HoldsDestinationIP : HeadlessRule → Bool → Prop
  | .default rule, matchSource => rule.looksAtDestinationIP matchSource
  | .logical _ _ rules, _ => HeadlessRule.AnyHoldsDestinationIP rules
def HeadlessRule.AnyHoldsDestinationIP : List HeadlessRule → Prop
  | [] => False
  | rule :: rules => rule.HoldsDestinationIP false ∨ HeadlessRule.AnyHoldsDestinationIP rules
end

mutual
/-- No default rule of the tree asks for a domain and a destination address. -/
def HeadlessRule.Unmixed : HeadlessRule → Bool → Prop
  | .default rule, matchSource => ¬(rule.looksAtDomain ∧ rule.looksAtDestinationIP matchSource)
  | .logical _ _ rules, _ => HeadlessRule.AllUnmixed rules
def HeadlessRule.AllUnmixed : List HeadlessRule → Prop
  | [] => True
  | rule :: rules => rule.Unmixed false ∧ HeadlessRule.AllUnmixed rules
end

namespace HeadlessRule

variable (rules : List HeadlessRule)

theorem anyHoldsDestinationIP_iff : AnyHoldsDestinationIP rules ↔ ∃ rule ∈ rules, rule.HoldsDestinationIP false := by
  induction rules with
  | nil => simp [AnyHoldsDestinationIP]
  | cons rule rules ih => simp [AnyHoldsDestinationIP, ih]

theorem allUnmixed_iff : AllUnmixed rules ↔ ∀ rule ∈ rules, rule.Unmixed false := by
  induction rules with
  | nil => simp [AllUnmixed]
  | cons rule rules ih => rw [AllUnmixed, ih, forall_mem_cons]

variable {env : Environment} {response : DnsMessage} (rule : HeadlessRule) (metadata : InboundContext)

theorem verdict_below {ignore : Bool}
    (ignoring : metadata.ignoreDestinationIPCIDRMatch) (unmixed : rule.Unmixed metadata.ipCidrMatchSource) :
    Verdict.Below (rule.verdict env metadata) (rule.verdict env (metadata.answered response ignore)) := by
  induction rule using HeadlessRule.induction generalizing metadata with
  | default rule =>
    exact AbstractDefaultRule.ownVerdict_answered (rule.comparable _) ignoring unmixed
  | logical mode invert rules ih =>
    rw [Unmixed, allUnmixed_iff] at unmixed
    rw [verdict, verdict, verdicts_eq_map, verdicts_eq_map, answered_resetRuleCache]
    apply logicalVerdict_below
    intro rule mem
    exact ih rule mem metadata.resetRuleCache ignoring (unmixed rule mem)

theorem verdict_ne_unknown (noAddrs : ¬rule.HoldsDestinationIP metadata.ipCidrMatchSource) :
    rule.verdict env metadata ≠ .unknown := by
  induction rule using HeadlessRule.induction generalizing metadata with
  | default rule =>
    exact AbstractDefaultRule.ownVerdict_ne_unknown noAddrs
  | logical mode invert rules ih =>
    rw [HoldsDestinationIP, anyHoldsDestinationIP_iff] at noAddrs
    rw [verdict, verdicts_eq_map]
    apply logicalVerdict_ne_unknown
    intro rule mem
    exact ih rule mem metadata.resetRuleCache fun holds => noAddrs ⟨rule, mem, holds⟩

end HeadlessRule

end SingBox
