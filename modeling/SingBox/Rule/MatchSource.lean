import SingBox.Rule.Alike

/-! # Rule sets matched against the source

With `rule_set_ip_cidr_match_source` the addresses of a rule set are meant for the
source, so that its answer should not depend on where the connection goes. That
holds of the default rules of a set. A logical rule resets the flag for the rules
below it, whose addresses are then matched against the destination after all
(`RuleSetItem.match_source_iff`).
-/

open List

namespace SingBox

open Lib.Kleene HeadlessRule AbstractDefaultRule

/-! ## Metadata with other destination addresses -/

/-- Everything in the metadata that holds addresses of the destination. -/
structure Whereabouts where
  destination : Socksaddr
  destinationAddresses : List Addr
  cacheIPs : List Addr
  dnsResponse : Option DnsMessage

namespace InboundContext

variable (metadata : InboundContext)

def whereabouts : Whereabouts where
  destination := metadata.destination
  destinationAddresses := metadata.destinationAddresses
  cacheIPs := metadata.cacheIPs
  dnsResponse := metadata.dnsResponse

def movedTo (place : Whereabouts) : InboundContext :=
  { metadata with
    destination := place.destination
    destinationAddresses := place.destinationAddresses
    cacheIPs := place.cacheIPs
    dnsResponse := place.dnsResponse }

/-- The two agree on everything but the addresses of the destination. -/
structure SameButAddresses (first second : InboundContext) : Prop where
  moved : second = first.movedTo second.whereabouts
  fqdn : second.destination.fqdn = first.destination.fqdn
  port : second.destination.port = first.destination.port

end InboundContext

/-- The place has the name and the port that the metadata has. -/
def Whereabouts.Named (place : Whereabouts) (metadata : InboundContext) : Prop :=
  place.destination.fqdn = metadata.destination.fqdn ∧ place.destination.port = metadata.destination.port

section Moved

variable {env : Environment} {metadata : InboundContext} {place : Whereabouts}

theorem movedTo_resetRuleCache : (metadata.movedTo place).resetRuleCache = metadata.resetRuleCache.movedTo place := rfl

theorem movedTo_prepareNestedMatch (item : RuleSetItem) :
    item.prepareNestedMatch (metadata.movedTo place) = (item.prepareNestedMatch metadata).movedTo place := rfl

theorem RuleItem.match_movedTo (item : RuleItem) (headless : item.isHeadless) :
    item.match env (metadata.movedTo place) = item.match env metadata := by
  cases item with
  | queryType | network | processName | processPath | processPathRegex | packageName | packageNameRegex | networkType
  | networkIsExpensive | networkIsConstrained | wifiSSID | wifiBSSID | networkInterfaceAddress
  | defaultInterfaceAddress => rfl
  | _ => cases headless

theorem domainHost_movedTo (strategy : DomainMatchStrategy) (named : place.Named metadata) :
    domainHost env strategy (metadata.movedTo place) = domainHost env strategy metadata := by
  have fqdn : (metadata.movedTo place).destination.fqdn = metadata.destination.fqdn := named.1
  have isDomain : env.isDomain (metadata.movedTo place).destination = env.isDomain metadata.destination := by
    rw [Environment.isDomain, Environment.isDomain, fqdn]
  unfold domainHost
  rw [isDomain, fqdn]
  rfl

end Moved

/-! ## Default rules -/

namespace AbstractDefaultRule

variable {env : Environment} {rule : AbstractDefaultRule} {metadata : InboundContext} {place : Whereabouts}

/-- The rule's addresses answer the same for both, in whatever role they are asked. -/
def SameAddresses (env : Environment) (rule : AbstractDefaultRule) (first second : InboundContext) : Prop :=
  rule.destinationIPCIDRMatchesSource first ∨ rule.destinationIPCIDRMatchesDestination first →
    rule.matchDestinationIPCIDR env first = rule.matchDestinationIPCIDR env second

section
variable (named : place.Named metadata)
include named

theorem matchDestinationAddress_movedTo :
    rule.matchDestinationAddress env (metadata.movedTo place) = rule.matchDestinationAddress env metadata := by
  unfold matchDestinationAddress
  congr 1
  funext item
  rw [DestinationAddressItem.match, DestinationAddressItem.match, domainHost_movedTo _ named]

theorem matchDestinationPort_movedTo :
    rule.matchDestinationPort (metadata.movedTo place) = rule.matchDestinationPort metadata := by
  have port : (metadata.movedTo place).destination.port = metadata.destination.port := named.2
  unfold matchDestinationPort
  congr 1
  funext item
  simp [PortItem.match, port]

theorem satisfies_movedTo (same : rule.SameAddresses env metadata (metadata.movedTo place)) :
    rule.satisfies env (metadata.movedTo place) = rule.satisfies env metadata := by
  have source : rule.matchSourceAddress env (metadata.movedTo place) = rule.matchSourceAddress env metadata := rfl
  have matchesSource : rule.destinationIPCIDRMatchesSource (metadata.movedTo place) =
      rule.destinationIPCIDRMatchesSource metadata := rfl
  have matchesDestination : rule.destinationIPCIDRMatchesDestination (metadata.movedTo place) =
      rule.destinationIPCIDRMatchesDestination metadata := rfl
  funext group
  cases group with
  | sourcePort => rfl
  | destinationPort => exact matchDestinationPort_movedTo named
  | sourceAddress =>
    simp only [satisfies, source, matchesSource]
    cases asked : rule.destinationIPCIDRMatchesSource metadata with
    | false => simp
    | true => rw [same (.inl asked)]
  | destinationAddress =>
    simp only [satisfies, matchDestinationAddress_movedTo named, matchesDestination]
    cases asked : rule.destinationIPCIDRMatchesDestination metadata with
    | false => simp
    | true => rw [same (.inr asked)]

theorem alike_movedTo (headless : ∀ item ∈ rule.items, item.isHeadless)
    (same : rule.SameAddresses env metadata (metadata.movedTo place)) :
    rule.Alike env (metadata.movedTo place) metadata :=
  ⟨fun item mem => item.match_movedTo (headless item mem), rfl, satisfies_movedTo named same, rfl⟩

end

end AbstractDefaultRule

variable {place : Whereabouts}

/-! ## Rules of a rule set -/

variable (rule : DefaultHeadlessRule)

theorem DefaultHeadlessRule.sameAddresses_movedTo {env : Environment} {metadata : InboundContext}
    (source : metadata.ipCidrMatchSource) : rule.SameAddresses env metadata (metadata.movedTo place) := by
  intro _
  unfold matchDestinationIPCIDR
  rw [Bool.eq_iff_iff, any_eq_true, any_eq_true]
  refine exists_congr fun item => and_congr_right fun mem => ?_
  have plain := rule.ipCidrItems item mem
  have movedSource : (metadata.movedTo place).ipCidrMatchSource := source
  cases item with
  | ipCidr ipSet =>
    simp only [DestinationIPCIDRItem.match, ipCIDRItemMatch, source, movedSource, Bool.or_true, if_true]
    rfl
  | ipIsPrivate | ipAcceptAny => cases plain

mutual
/-- Every default rule of the tree meets the condition. -/
def HeadlessRule.Leaves (condition : DefaultHeadlessRule → Prop) : HeadlessRule → Prop
  | .default rule => condition rule
  | .logical _ _ rules => HeadlessRule.AllLeaves condition rules
def HeadlessRule.AllLeaves (condition : DefaultHeadlessRule → Prop) : List HeadlessRule → Prop
  | [] => True
  | rule :: rules => rule.Leaves condition ∧ HeadlessRule.AllLeaves condition rules
end

namespace HeadlessRule

theorem allLeaves_iff (condition : DefaultHeadlessRule → Prop) (rules : List HeadlessRule) :
    AllLeaves condition rules ↔ ∀ rule ∈ rules, rule.Leaves condition := by
  induction rules with
  | nil => simp [AllLeaves]
  | cons rule rules ih => rw [AllLeaves, ih, forall_mem_cons]

def isLogical : HeadlessRule → Bool
  | .default _ => false
  | .logical _ _ _ => true

/-- No address below a logical rule tells the two destinations apart. -/
def SameNestedAddresses (env : Environment) (first second : InboundContext) : HeadlessRule → Prop
  | .default _ => True
  | .logical _ _ rules => AllLeaves (fun rule => rule.SameAddresses env first.resetRuleCache second.resetRuleCache) rules

variable {env : Environment} {place : Whereabouts}

theorem verdict_movedTo (rule : HeadlessRule) (metadata : InboundContext) (named : place.Named metadata)
    (same : rule.Leaves fun leaf =>
      leaf.SameAddresses env metadata.resetRuleCache (metadata.movedTo place).resetRuleCache) :
    rule.verdict env (metadata.resetRuleCache.movedTo place) = rule.verdict env metadata.resetRuleCache := by
  induction rule using induction generalizing metadata with
  | default rule =>
    have alike : rule.Alike env (metadata.resetRuleCache.movedTo place) metadata.resetRuleCache :=
      alike_movedTo named rule.headlessItems same
    exact alike.verdict none
  | logical mode invert rules ih =>
    rw [Leaves, allLeaves_iff] at same
    rw [verdict, verdict, verdicts_eq_map, verdicts_eq_map, movedTo_resetRuleCache]
    congr 1
    apply map_congr_left
    intro rule mem
    exact ih rule mem metadata.resetRuleCache named (same rule mem)

theorem verdict_default_movedTo (metadata : InboundContext)
    (source : metadata.ipCidrMatchSource) (named : place.Named metadata) :
    (default rule).verdict env (metadata.movedTo place) = (default rule).verdict env metadata := by
  exact (alike_movedTo named rule.headlessItems (rule.sameAddresses_movedTo source)).verdict none

theorem verdict_logical_movedTo (mode : LogicalMode) (invert : Bool) (rules : List HeadlessRule)
    (metadata : InboundContext) (named : place.Named metadata)
    (same : SameNestedAddresses env metadata (metadata.movedTo place) (.logical mode invert rules)) :
    (logical mode invert rules).verdict env (metadata.movedTo place) =
      (logical mode invert rules).verdict env metadata := by
  rw [SameNestedAddresses, allLeaves_iff] at same
  rw [verdict, verdict, verdicts_eq_map, verdicts_eq_map, movedTo_resetRuleCache]
  congr 1
  apply map_congr_left
  intro rule mem
  exact verdict_movedTo rule metadata named (same rule mem)

end HeadlessRule

/-! ## Rule sets

The answer of a rule set item, taken apart into what its default rules and what its
logical rules contribute. -/

theorem any_or_distrib {α : Type} (items : List α) (first second : α → Bool) :
    (items.any fun item => first item || second item) = (items.any first || items.any second) := by
  induction items with
  | nil => rfl
  | cons item items ih =>
    rw [any_cons, any_cons, any_cons, ih]
    cases first item <;> cases second item <;> simp

namespace RuleSet

variable (env : Environment) (ruleSet : RuleSet) (nested : InboundContext)

def plainHit : Bool := ruleSet.rules.any fun rule => !rule.isLogical && (rule.match env nested).1

def logicalHit : Bool := ruleSet.rules.any fun rule => rule.isLogical && (rule.match env nested).1

variable {env ruleSet nested}

theorem match_eq_hits (rested : nested.Rested) :
    (ruleSet.match env nested).1 = (ruleSet.plainHit env nested || ruleSet.logicalHit env nested) := by
  have each : ∀ rule : HeadlessRule, (rule.match env nested).1 = (rule.verdict env nested).possible :=
    fun rule => (rule.match_decides env nested rested).possible_eq
  rw [(ruleSet.match_decides env nested rested).possible_eq, plainHit, logicalHit, ← any_or_distrib, Bool.eq_iff_iff,
    verdict, Verdict.any_possible, any_eq_true]
  simp only [mem_map, exists_exists_and_eq_and, ← each]
  refine exists_congr fun rule => and_congr_right fun _ => ?_
  cases rule.isLogical <;> simp

theorem plainHit_movedTo (source : nested.ipCidrMatchSource) (rested : nested.Rested) (named : place.Named nested) :
    ruleSet.plainHit env (nested.movedTo place) = ruleSet.plainHit env nested := by
  unfold plainHit
  congr 1
  funext rule
  cases rule with
  | logical => rfl
  | default rule =>
    rw [(HeadlessRule.match_decides env _ nested rested).possible_eq,
      (HeadlessRule.match_decides env _ (nested.movedTo place) rested).possible_eq,
      HeadlessRule.verdict_default_movedTo rule nested source named]

theorem logicalHit_movedTo (rested : nested.Rested) (named : place.Named nested)
    (same : ∀ rule ∈ ruleSet.rules, rule.SameNestedAddresses env nested (nested.movedTo place)) :
    ruleSet.logicalHit env (nested.movedTo place) = ruleSet.logicalHit env nested := by
  unfold logicalHit
  rw [Bool.eq_iff_iff, any_eq_true, any_eq_true]
  refine exists_congr fun rule => and_congr_right fun mem => ?_
  cases rule with
  | default => rfl
  | logical mode invert rules =>
    rw [(HeadlessRule.match_decides env _ nested rested).possible_eq,
      (HeadlessRule.match_decides env _ (nested.movedTo place) rested).possible_eq,
      HeadlessRule.verdict_logical_movedTo mode invert rules nested named (same _ mem)]

theorem logicalHit_of_mergeable {rule : DefaultHeadlessRule} (mergeable : ruleSet.mergeableRule = some rule) :
    ruleSet.logicalHit env nested = false := by
  unfold mergeableRule at mergeable
  split at mergeable
  next only => simp [logicalHit, only, isLogical]
  · cases mergeable

end RuleSet

namespace RuleSetItem

variable (env : Environment) (item : RuleSetItem) (outerGroups : RuleGroupMatch) (metadata : InboundContext)

/-- Some default rule of some rule set matches. -/
def plainHit : Bool := item.setList.any fun ruleSet => ruleSet.plainHit env (item.prepareNestedMatch metadata)

/-- Some logical rule of some rule set matches. -/
def logicalHit : Bool := item.setList.any fun ruleSet => ruleSet.logicalHit env (item.prepareNestedMatch metadata)

variable (ruleSet : RuleSet)

/-- Under the groups of an outer rule, the rule set is satisfied by a default rule:
the one it consists of, merged, or else one of its rules. -/
def acceptsPlainly : Bool :=
  match ruleSet.mergeableRule with
  | some rule => rule.matchItems env (item.prepareNestedMatch metadata) &&
      (outerGroups.mergeWith (rule.groups env (item.prepareNestedMatch metadata))).done
  | none => outerGroups.done && ruleSet.plainHit env (item.prepareNestedMatch metadata)

def plainAccepts : Bool := item.setList.any (item.acceptsPlainly env outerGroups metadata)

variable {env item outerGroups metadata}

/-- Whatever a rule set did, the next one starts on the same metadata. -/
theorem prepareNestedMatch_after :
    item.prepareNestedMatch (ruleSet.match env (item.prepareNestedMatch metadata)).2 =
      item.prepareNestedMatch metadata := by
  obtain ⟨deferred, result, -⟩ := ruleSet.match_decides env (item.prepareNestedMatch metadata) rfl
  rw [result, InboundContext.prepareNestedMatch_withDeferred, prepareNestedMatch_idem]

variable (snapshot : RuleMatchSnapshot) (ruleSets : List RuleSet)

theorem matchLoop_answer (current : InboundContext)
    (same : item.prepareNestedMatch current = item.prepareNestedMatch metadata) :
    (matchLoop env item snapshot ruleSets current).1 =
      ruleSets.any fun ruleSet => (ruleSet.match env (item.prepareNestedMatch metadata)).1 := by
  induction ruleSets generalizing current with
  | nil => rfl
  | cons ruleSet ruleSets ih =>
    have next := ih _ (@prepareNestedMatch_after env item metadata ruleSet)
    simp only [matchLoop, same, any_cons]
    cases hit : (ruleSet.match env (item.prepareNestedMatch metadata)).1 with
    | true => simp
    | false => simpa using next

theorem match_answer : (item.match env metadata).1 = (item.plainHit env metadata || item.logicalHit env metadata) := by
  rw [RuleSetItem.match, matchLoop_answer _ _ metadata rfl]
  have each : ∀ ruleSet : RuleSet, (ruleSet.match env (item.prepareNestedMatch metadata)).1 =
      (ruleSet.plainHit env (item.prepareNestedMatch metadata) ||
        ruleSet.logicalHit env (item.prepareNestedMatch metadata)) :=
    fun ruleSet => ruleSet.match_eq_hits rfl
  simp [each, plainHit, logicalHit, any_or_distrib]

/-- What one rule set contributes under the groups of an outer rule. -/
def accepts (env : Environment) (item : RuleSetItem) (outerGroups : RuleGroupMatch) (metadata : InboundContext)
    (ruleSet : RuleSet) : Bool :=
  match ruleSet.mergeableRule with
  | some rule => rule.matchItems env (item.prepareNestedMatch metadata) &&
      (outerGroups.mergeWith (rule.groups env (item.prepareNestedMatch metadata))).done
  | none => outerGroups.done && (ruleSet.match env (item.prepareNestedMatch metadata)).1

theorem matchWithOuterGroupsLoop_answer (matched : Bool) (deferredGroups : UInt8) (current : InboundContext)
    (same : item.prepareNestedMatch current = item.prepareNestedMatch metadata) :
    (matchWithOuterGroupsLoop env item outerGroups snapshot ruleSets matched deferredGroups current).1 =
      (matched || ruleSets.any (item.accepts env outerGroups metadata)) := by
  induction ruleSets generalizing matched deferredGroups current with
  | nil => simp [matchWithOuterGroupsLoop]
  | cons ruleSet ruleSets ih =>
    have nestedRested : (item.prepareNestedMatch metadata).Rested := rfl
    simp only [matchWithOuterGroupsLoop, same, any_cons, accepts]
    cases mergeable : ruleSet.mergeableRule with
    | some rule =>
      have next := fun matched deferredGroups deferred => ih matched deferredGroups
        ((item.prepareNestedMatch metadata).withDeferred deferred)
        (by rw [InboundContext.prepareNestedMatch_withDeferred, prepareNestedMatch_idem])
      simp only [evaluateForMerge, evaluateGroups_rested nestedRested,
        matchItems_withDeferred]
      cases rule.matchItems env (item.prepareNestedMatch metadata) with
      | false => simpa using next matched deferredGroups _
      | true =>
        simp only [if_true, Bool.true_and]
        cases (outerGroups.mergeWith (rule.groups env (item.prepareNestedMatch metadata))).done with
        | false => simpa using next matched deferredGroups _
        | true =>
          simp only [if_true, Bool.true_or, Bool.or_true]
          split
          · rfl
          · simpa using next true _ _
    | none =>
      have next := fun matched deferredGroups => ih matched deferredGroups _
        (@prepareNestedMatch_after env item metadata ruleSet)
      cases outerGroups.done with
      | false => simpa using ih matched deferredGroups _ prepareNestedMatch_idem
      | true =>
        simp only [if_true, Bool.true_and]
        cases hit : (ruleSet.match env (item.prepareNestedMatch metadata)).1 with
        | false => simpa using next matched deferredGroups
        | true =>
          simp only [if_true, Bool.true_or, Bool.or_true]
          split
          · rfl
          · simpa using next true _

theorem matchWithOuterGroups_answer :
    (item.matchWithOuterGroups env outerGroups metadata).1 =
      (item.plainAccepts env outerGroups metadata || (outerGroups.done && item.logicalHit env metadata)) := by
  rw [matchWithOuterGroups, matchWithOuterGroupsLoop_answer _ _ _ _ metadata rfl, Bool.false_or]
  have each : ∀ ruleSet : RuleSet, item.accepts env outerGroups metadata ruleSet =
      (item.acceptsPlainly env outerGroups metadata ruleSet ||
        (outerGroups.done && ruleSet.logicalHit env (item.prepareNestedMatch metadata))) := by
    intro ruleSet
    unfold accepts acceptsPlainly
    split
    next mergeable => rw [RuleSet.logicalHit_of_mergeable mergeable, Bool.and_false, Bool.or_false]
    · rw [RuleSet.match_eq_hits rfl, Bool.and_or_distrib_left]
  rw [funext each, any_or_distrib, plainAccepts, logicalHit]
  congr 1
  cases outerGroups.done <;> simp

section Moved

variable {place : Whereabouts} (source : item.ipCidrMatchSource) (named : place.Named metadata)
include source named

theorem plainHit_movedTo : item.plainHit env (metadata.movedTo place) = item.plainHit env metadata := by
  unfold plainHit
  congr 1
  funext ruleSet
  rw [movedTo_prepareNestedMatch]
  exact RuleSet.plainHit_movedTo source rfl named

theorem plainAccepts_movedTo :
    item.plainAccepts env outerGroups (metadata.movedTo place) = item.plainAccepts env outerGroups metadata := by
  unfold plainAccepts
  congr 1
  funext ruleSet
  unfold acceptsPlainly
  rw [movedTo_prepareNestedMatch]
  cases ruleSet.mergeableRule with
  | none => exact congrArg (outerGroups.done && ·) (RuleSet.plainHit_movedTo source rfl named)
  | some rule =>
    have nestedNamed : place.Named (item.prepareNestedMatch metadata) := named
    have alike := @AbstractDefaultRule.alike_movedTo env _ _ _ nestedNamed rule.headlessItems
      (rule.sameAddresses_movedTo source)
    dsimp only
    rw [alike.matchItems, alike.groups]

end Moved

theorem logicalHit_movedTo (named : place.Named metadata) (same : ∀ ruleSet ∈ item.setList, ∀ rule ∈ ruleSet.rules,
      rule.SameNestedAddresses env metadata (metadata.movedTo place)) :
    item.logicalHit env (metadata.movedTo place) = item.logicalHit env metadata := by
  unfold logicalHit
  rw [Bool.eq_iff_iff, any_eq_true, any_eq_true]
  refine exists_congr fun ruleSet => and_congr_right fun mem => ?_
  have nestedNamed : place.Named (item.prepareNestedMatch metadata) := named
  rw [movedTo_prepareNestedMatch, RuleSet.logicalHit_movedTo rfl nestedNamed]
  -- what a logical rule hands down does not depend on the flags of the rule set
  have reset (metadata : InboundContext) : (item.prepareNestedMatch metadata).resetRuleCache = metadata.resetRuleCache := rfl
  intro rule ruleMember
  have handedDown := same ruleSet mem rule ruleMember
  cases rule with
  | default => trivial
  | logical =>
    rw [HeadlessRule.SameNestedAddresses, ← movedTo_prepareNestedMatch, reset, reset]
    exact handedDown

/-- With `rule_set_ip_cidr_match_source` a rule set item tells two destinations apart
exactly when no default rule decides it and a logical rule tells them apart, which
takes an address below a logical rule. -/
theorem match_source_iff (env : Environment) (item : RuleSetItem) (source : item.ipCidrMatchSource)
    (first second : InboundContext) (agree : first.SameButAddresses second) :
    ((item.match env first).1 = (item.match env second).1 ↔
        item.plainHit env first ∨ item.logicalHit env first = item.logicalHit env second) ∧
      (∀ outerGroups, (item.matchWithOuterGroups env outerGroups first).1 =
          (item.matchWithOuterGroups env outerGroups second).1 ↔
        item.plainAccepts env outerGroups first ∨
          (outerGroups.done → item.logicalHit env first = item.logicalHit env second)) ∧
      ((∀ ruleSet ∈ item.setList, ∀ rule ∈ ruleSet.rules, rule.SameNestedAddresses env first second) →
        item.logicalHit env first = item.logicalHit env second) := by
  obtain ⟨moved, fqdn, port⟩ := agree
  have named : second.whereabouts.Named first := ⟨fqdn, port⟩
  rw [moved]
  refine ⟨?_, fun outerGroups => ?_, fun same => (logicalHit_movedTo named same).symm⟩
  · rw [match_answer, match_answer, plainHit_movedTo source named]
    cases item.plainHit env first <;> simp
  · rw [matchWithOuterGroups_answer, matchWithOuterGroups_answer, plainAccepts_movedTo source named]
    cases item.plainAccepts env outerGroups first <;> cases outerGroups.done <;> simp

/-- 10.0.0.0/8, as it stands alone in a rule set. -/
def tenNetRule : HeadlessRule := .default { destinationIPCIDRItems := [.ipCidr Ipset.tenNet] }

/-- A connection from 192.168.0.1 to an address, port 443. -/
def connectionTo (addr : BitVec 32) : InboundContext :=
  { source := .ofAddr (.v4 0xc0a80001) 50000, destination := .ofAddr (.v4 addr) 443 }

/-- Below a logical rule the prefix is matched against the destination. -/
theorem match_source_nested :
    let item : RuleSetItem := { setList := [⟨[.logical .or false [tenNetRule]]⟩], ipCidrMatchSource := true }
    (connectionTo 0x0a000001).SameButAddresses (connectionTo 0x01010101) ∧
      (item.match {} (connectionTo 0x0a000001)).1 ∧ (item.match {} (connectionTo 0x01010101)).1 = false :=
  ⟨⟨rfl, rfl, rfl⟩, by decide, by decide⟩

/-- Outside a logical rule the two destinations are the same to it. -/
theorem match_source_flat :
    let item : RuleSetItem := { setList := [⟨[tenNetRule]⟩], ipCidrMatchSource := true }
    (item.match {} (connectionTo 0x0a000001)).1 = (item.match {} (connectionTo 0x01010101)).1 :=
  (match_source_iff {} _ rfl (connectionTo 0x0a000001) (connectionTo 0x01010101) ⟨rfl, rfl, rfl⟩).1.mpr (.inr (by decide))

end RuleSetItem

end SingBox
