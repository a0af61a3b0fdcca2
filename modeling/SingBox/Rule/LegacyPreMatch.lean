import SingBox.Rule.Forecast

/-! # The legacy DNS pre-match

In legacy mode a DNS rule is matched before the lookup, with the addresses of the
response left open, and once more against the response. The first match is a
sound forecast of the second as long as no rule asks for a domain and an address
together (`Rule.legacyPreMatch_sound`). An inverted rule whose rule sets are not
plain may be dropped although the response would select it;
`DefaultRule.legacyPreMatch_keeps_iff` says when.
-/

open List Option

namespace SingBox

open Lib.Kleene AbstractDefaultRule RuleSetItem

/-! ## Branches of the two matches -/

theorem Branch.collect_cases (deferred : Bool) (branches : List Branch) (matched : Bool)
    (hit : (collect deferred branches matched).1) :
    (∃ destination, .settled destination ∈ branches ∧
        (collect deferred branches matched).2 = (deferred && !destination)) ∨
      ((matched ∨ .pending ∈ branches) ∧ (collect deferred branches matched).2) := by
  induction branches generalizing matched with
  | nil =>
    obtain rfl : matched := hit
    exact .inr ⟨.inl rfl, by simp [collect]⟩
  | cons branch branches ih =>
    cases branch with
    | settled destination => exact .inl ⟨destination, by simp, rfl⟩
    | miss =>
      rcases ih matched hit with ⟨destination, mem, result⟩ | ⟨seen, result⟩
      · exact .inl ⟨destination, by simp [mem], result⟩
      · exact .inr ⟨by simpa using seen, result⟩
    | pending =>
      rcases ih true hit with ⟨destination, mem, result⟩ | ⟨-, result⟩
      · exact .inl ⟨destination, by simp [mem], result⟩
      · exact .inr ⟨.inr (by simp), result⟩

theorem Branch.collect_of_settled (branches : List Branch) (matched : Bool) {destination : Bool}
    (mem : .settled destination ∈ branches) : collect false branches matched = (true, false) := by
  induction branches generalizing matched with
  | nil => cases mem
  | cons branch branches ih =>
    cases branch with
    | settled other => rfl
    | miss => exact ih matched (by simpa using mem)
    | pending => exact ih true (by simpa using mem)

namespace AbstractDefaultRule

variable {env : Environment} {rule : AbstractDefaultRule} {metadata : InboundContext} {branches : List Branch}

/-- How a rule comes to match without anything left open. -/
theorem innerVerdict_yes_cases (isYes : rule.innerVerdict env metadata branches = .yes) :
    rule.matchItems env metadata ∧ ∃ branch ∈ branches,
      (∃ destination, branch = .settled destination ∧
        (rule.defersDestination metadata = false ∨ destination)) ∨
      (branch = .pending ∧ rule.satisfies env metadata .destinationAddress) := by
  have notDeferred (satisfied : rule.satisfies env metadata .destinationAddress) :
      rule.defersDestination metadata = false := by
    refine Bool.eq_false_iff.mpr fun deferred => ?_
    rw [satisfies_destination_of_defers deferred] at satisfied
    cases satisfied
  unfold innerVerdict at isYes
  split at isYes
  next itemsMatch =>
    refine ⟨itemsMatch, ?_⟩
    dsimp only at isYes
    split at isYes
    next hit =>
      have closed := Branch.collect_cases _ _ _ hit
      split at isYes
      · cases isYes
      next notOpen =>
        rcases closed with ⟨destination, mem, result⟩ | ⟨seen, result⟩
        · refine ⟨_, mem, .inl ⟨destination, rfl, ?_⟩⟩
          grind
        · refine ⟨.pending, by simpa using seen, .inr ⟨rfl, ?_⟩⟩
          simpa [result] using notOpen
    · cases isYes
  · cases isYes

theorem innerVerdict_yes_of (itemsMatch : rule.matchItems env metadata)
    (decided : (rule.satisfies env metadata .destinationAddress ∧ ∃ branch ∈ branches, branch ≠ .miss) ∨
      (rule.defersDestination metadata = false ∧ ∃ destination, .settled destination ∈ branches)) :
    rule.innerVerdict env metadata branches = .yes := by
  simp only [innerVerdict, itemsMatch, if_true]
  rcases decided with ⟨satisfied, branch, mem, hit⟩ | ⟨notDeferred, destination, mem⟩
  · have matched : (Branch.collect (rule.defersDestination metadata) branches false).1 :=
      (Branch.collect_matched _ _ _).mpr (.inr ⟨branch, mem, hit⟩)
    simp [matched, satisfied]
  · simp [notDeferred, Branch.collect_of_settled branches false mem]

end AbstractDefaultRule

namespace RuleSet

variable {env : Environment} {response : DnsMessage} {metadata : InboundContext} (ruleSet : RuleSet)

theorem verdict_below {ignore : Bool} (ignoring : metadata.ignoreDestinationIPCIDRMatch)
    (unmixed : ∀ inner ∈ ruleSet.rules, inner.Unmixed metadata.ipCidrMatchSource) :
    Verdict.Below (ruleSet.verdict env metadata) (ruleSet.verdict env (metadata.answered response ignore)) :=
  Verdict.any_map_below _ _ _ fun inner mem => inner.verdict_below metadata ignoring (unmixed inner mem)

theorem verdict_ne_unknown (noAddrs : ∀ inner ∈ ruleSet.rules, ¬inner.HoldsDestinationIP metadata.ipCidrMatchSource) :
    ruleSet.verdict env metadata ≠ .unknown :=
  Verdict.any_ne_unknown (forall_mem_map.mpr
    fun inner mem => inner.verdict_ne_unknown metadata (noAddrs inner mem))

end RuleSet

/-! ## A rule and one of its rule sets -/

/-- The metadata a rule sees from the top of a tree. -/
structure PreMatching (metadata : InboundContext) : Prop where
  ignoring : metadata.ignoreDestinationIPCIDRMatch
  destination : metadata.ipCidrMatchSource = false
  rested : metadata.Rested

namespace RuleSetItem

variable (item : RuleSetItem) (outer : AbstractDefaultRule) (env : Environment) (metadata : InboundContext)

/-- The branch of a rule set under the groups of the rule that refers to it. -/
def branchUnder (ruleSet : RuleSet) : Branch :=
  item.branch env (outer.requires metadata) (outer.satisfies env metadata) metadata ruleSet

/-- Neither the rule set, nor the rule together with it, asks for a domain and a
destination address. -/
structure Unmixed (ruleSet : RuleSet) : Prop where
  inside : ∀ inner ∈ ruleSet.rules, inner.Unmixed item.ipCidrMatchSource
  merged : ∀ inner, ruleSet.mergeableRule = some inner →
    ¬((outer.looksAtDomain ∨ inner.looksAtDomain) ∧
      (outer.looksAtDestinationIP false ∨ inner.looksAtDestinationIP item.ipCidrMatchSource))
  referred : outer.looksAtDomain → ∀ inner ∈ ruleSet.rules, ¬inner.HoldsDestinationIP item.ipCidrMatchSource

variable {item outer env metadata} {ruleSet : RuleSet} {response : DnsMessage} {ignore : Bool}

section
variable {nested : InboundContext} (inner : DefaultHeadlessRule) (comparable : outer.Comparable metadata.ipCidrMatchSource)
  (ignoring : metadata.ignoreDestinationIPCIDRMatch) (nestedIgnoring : nested.ignoreDestinationIPCIDRMatch)
include comparable ignoring nestedIgnoring

theorem mergedHold_of_answered (unmixed : ¬((outer.looksAtDomain ∨ inner.looksAtDomain) ∧
      (outer.looksAtDestinationIP metadata.ipCidrMatchSource ∨ inner.looksAtDestinationIP nested.ipCidrMatchSource)))
    (holds : MergedHold inner env (nested.answered response ignore) (outer.requires (metadata.answered response ignore))
      (outer.satisfies env (metadata.answered response ignore))) :
    MergedHold inner env nested (outer.requires metadata) (outer.satisfies env metadata) := by
  intro group required
  have second := holds group
  by_cases destination : group = .destinationAddress
  · subst destination
    rw [requires_destination_answered, requires_destination_answered,
      satisfies_destination_answered, satisfies_destination_answered] at second
    rw [requires_destination_ignoring ignoring, requires_destination_ignoring nestedIgnoring] at required
    rw [satisfies_destination_ignoring ignoring, satisfies_destination_ignoring nestedIgnoring]
    grind
  · rw [requires_answered group destination, requires_answered group destination,
      satisfies_answered comparable group destination,
      satisfies_answered (inner.comparable _) group destination] at second
    exact second required

/-- Groups that hold with nothing left open still hold with the response. -/
theorem mergedHold_answered
    (holds : MergedHold inner env nested (outer.requires metadata) (outer.satisfies env metadata))
    (closed : outer.defersDestination metadata ∨ inner.defersDestination nested →
      outer.satisfies env metadata .destinationAddress ∨ inner.satisfies env nested .destinationAddress) :
    MergedHold inner env (nested.answered response ignore) (outer.requires (metadata.answered response ignore))
      (outer.satisfies env (metadata.answered response ignore)) := by
  intro group required
  have first := holds group
  by_cases destination : group = .destinationAddress
  · subst destination
    rw [requires_destination_answered, requires_destination_answered] at required
    rw [satisfies_destination_answered, satisfies_destination_answered]
    rw [requires_destination_ignoring ignoring, requires_destination_ignoring nestedIgnoring] at first
    rw [defersDestination_ignoring ignoring, defersDestination_ignoring nestedIgnoring] at closed
    rw [satisfies_destination_ignoring ignoring, satisfies_destination_ignoring nestedIgnoring] at first closed
    grind
  · rw [requires_answered group destination, requires_answered group destination] at required
    rw [satisfies_answered comparable group destination, satisfies_answered (inner.comparable _) group destination]
    exact first required

end

section
variable (preMatching : PreMatching metadata) (comparable : outer.Comparable false)
include preMatching comparable

/-- A rule set that lets the rule match the response was not missed before. -/
theorem branch_of_answered (outerUnmixed : ¬(outer.looksAtDomain ∧ outer.looksAtDestinationIP false))
    (unmixed : item.Unmixed outer ruleSet)
    (hit : item.branchUnder outer env (metadata.answered response ignore) ruleSet ≠ .miss) :
    item.branchUnder outer env metadata ruleSet ≠ .miss := by
  obtain ⟨ignoring, source, -⟩ := preMatching
  have nestedIgnoring : (item.prepareNestedMatch metadata).ignoreDestinationIPCIDRMatch := ignoring
  rw [← source] at comparable outerUnmixed
  unfold branchUnder at hit ⊢
  cases mergeable : ruleSet.mergeableRule with
  | some inner =>
    rw [branch_merged_ne_miss mergeable, answered_prepareNestedMatch] at hit
    rw [branch_merged_ne_miss mergeable]
    obtain ⟨itemsMatch, holds⟩ := hit
    rw [matchItems_answered (inner.comparable _)] at itemsMatch
    exact ⟨itemsMatch, mergedHold_of_answered inner comparable ignoring nestedIgnoring
      (source ▸ unmixed.merged inner mergeable) holds⟩
  | none =>
    rw [branch_alone_ne_miss mergeable, answered_prepareNestedMatch] at hit
    rw [branch_alone_ne_miss mergeable]
    exact ⟨groupsHold_of_answered comparable ignoring outerUnmixed hit.1,
      (ruleSet.verdict_below nestedIgnoring unmixed.inside).possible hit.2⟩

/-- A branch closed by its own destination, or not left open by the rule, stays. -/
theorem branch_answered_of_settled
    (inside : ruleSet.mergeableRule = none → ∀ inner ∈ ruleSet.rules, inner.Unmixed item.ipCidrMatchSource)
    {destination : Bool} (settled : item.branchUnder outer env metadata ruleSet = .settled destination)
    (closed : outer.defersDestination metadata = false ∨ destination) :
    item.branchUnder outer env (metadata.answered response ignore) ruleSet ≠ .miss := by
  obtain ⟨ignoring, source, -⟩ := preMatching
  have nestedIgnoring : (item.prepareNestedMatch metadata).ignoreDestinationIPCIDRMatch := ignoring
  rw [← source] at comparable
  unfold branchUnder at settled ⊢
  cases mergeable : ruleSet.mergeableRule with
  | some inner =>
    obtain ⟨isDestination, innerCloses⟩ := branch_merged_settled mergeable settled
    have hit := (branch_merged_ne_miss mergeable).mp (by rw [settled]; exact Branch.noConfusion)
    rw [branch_merged_ne_miss mergeable, answered_prepareNestedMatch, matchItems_answered (inner.comparable _)]
    refine ⟨hit.1, mergedHold_answered inner comparable ignoring nestedIgnoring hit.2 ?_⟩
    rintro (deferred | deferred)
    · simpa [isDestination, deferred] using closed
    · simpa [isDestination] using innerCloses deferred
  | none =>
    rw [branch_alone_settled mergeable] at settled
    obtain ⟨holds, isYes, rfl⟩ := settled
    rw [branch_alone_ne_miss mergeable, answered_prepareNestedMatch]
    refine ⟨groupsHold_answered comparable ignoring holds (by simpa using closed), ?_⟩
    rw [(ruleSet.verdict_below nestedIgnoring (inside mergeable)).eq_of_yes isYes]
    rfl

end

end RuleSetItem

/-! ## Rules -/

namespace DefaultRule

/-- A rule of the legacy mode: it does not ask for anything of the response. -/
structure Legacy (rule : DefaultRule) : Prop where
  noMatchResponse : rule.matchResponse = false
  noResponse : ∀ item ∈ rule.items, item.isResponse = false

/-- Domains and destination addresses are not combined, in the rule or through its
rule sets. -/
structure Unmixed (rule : DefaultRule) : Prop where
  own : ¬(rule.looksAtDomain ∧ rule.looksAtDestinationIP false)
  ruleSets : ∀ item, rule.ruleSetItem = some item → ∀ ruleSet ∈ item.setList, item.Unmixed rule.toAbstractDefaultRule ruleSet

variable {env : Environment} {rule : DefaultRule} {metadata : InboundContext} {response : DnsMessage} {ignore : Bool}

theorem Legacy.comparable (legacy : rule.Legacy) : rule.toAbstractDefaultRule.Comparable false where
  noResponse := legacy.noResponse
  plainSource := by simp

theorem mem_branches {item : RuleSetItem} {branch : Branch} :
    branch ∈ rule.branches env metadata item ↔
      ∃ ruleSet ∈ item.setList, item.branchUnder rule.toAbstractDefaultRule env metadata ruleSet = branch :=
  mem_map

theorem innerVerdict_branches_ne_unknown (item : RuleSetItem) :
    rule.innerVerdict env (metadata.answered response false)
      (rule.branches env (metadata.answered response false) item) ≠ .unknown := by
  refine innerVerdict_ne_unknown ?_ (pending_notMem_branches rfl item.setList)
  rw [defersDestination_answered, Bool.false_and]

section
variable (preMatching : PreMatching metadata)
include preMatching

section
variable (legacy : rule.Legacy)
include legacy

/-- With destinations ignored in both matches nothing tells them apart. -/
theorem Legacy.alike : rule.Alike env (metadata.answered response true) metadata :=
  alike_ignoring (preMatching.destination ▸ legacy.comparable) preMatching.ignoring

theorem innerVerdict_branches_ignoring (item : RuleSetItem) :
    rule.innerVerdict env (metadata.answered response true) (rule.branches env (metadata.answered response true) item) =
      rule.innerVerdict env metadata (rule.branches env metadata item) := by
  have alike := @legacy.alike env _ _ response preMatching
  rw [alike.innerVerdict, (congruence_ignoring env response).branches rule alike ⟨preMatching.ignoring, rfl⟩]

theorem innerVerdict_branches_below
    (unmixed : rule.Unmixed) (item : RuleSetItem) (refers : rule.ruleSetItem = some item) :
    Verdict.Below (rule.innerVerdict env metadata (rule.branches env metadata item))
      (rule.innerVerdict env (metadata.answered response false)
        (rule.branches env (metadata.answered response false) item)) := by
  have items : rule.matchItems env (metadata.answered response false) = rule.matchItems env metadata :=
    matchItems_answered (preMatching.destination ▸ legacy.comparable)
  apply Verdict.Below.of_known
  · intro isNo
    rw [Verdict.eq_no_iff, ← Bool.not_eq_true, innerVerdict_possible] at isNo ⊢
    rintro ⟨itemsMatch, branch, mem, hit⟩
    obtain ⟨ruleSet, ruleSetMember, rfl⟩ := mem_branches.mp mem
    refine isNo ⟨items ▸ itemsMatch, _, mem_branches.mpr ⟨ruleSet, ruleSetMember, rfl⟩, ?_⟩
    exact item.branch_of_answered preMatching legacy.comparable unmixed.own
      (unmixed.ruleSets item refers ruleSet ruleSetMember) hit
  · intro isYes
    obtain ⟨itemsMatch, branch, mem, cases⟩ := innerVerdict_yes_cases isYes
    obtain ⟨ruleSet, ruleSetMember, isBranch⟩ := mem_branches.mp mem
    have ruleSetUnmixed := unmixed.ruleSets item refers ruleSet ruleSetMember
    have hit : item.branchUnder rule.toAbstractDefaultRule env (metadata.answered response false) ruleSet ≠ .miss := by
      rcases cases with ⟨destination, rfl, closed⟩ | ⟨rfl, satisfied⟩
      · exact item.branch_answered_of_settled preMatching legacy.comparable (fun _ => ruleSetUnmixed.inside)
          isBranch closed
      · exfalso
        -- the domain of the rule leaves no address in the rule set to wait for
        cases mergeable : ruleSet.mergeableRule with
        | some inner =>
          rw [branch_merged_pending mergeable isBranch] at satisfied
          cases satisfied
        | none =>
          rw [satisfies_destination_ignoring preMatching.ignoring] at satisfied
          have noAddrs := ruleSetUnmixed.referred (looksAtDomain_of_match satisfied)
          exact ruleSet.verdict_ne_unknown noAddrs ((branch_alone_pending mergeable).mp isBranch).2
    have possible := (innerVerdict_possible _).mpr
      ⟨items.trans itemsMatch, _, mem_branches.mpr ⟨ruleSet, ruleSetMember, rfl⟩, hit⟩
    have known := @innerVerdict_branches_ne_unknown env rule metadata response item
    revert possible known
    cases rule.innerVerdict env (metadata.answered response false) _ <;> simp

theorem abstractVerdict_below (unmixed : rule.Unmixed) :
    Verdict.Below (rule.abstractVerdict env metadata)
      (rule.abstractVerdict env (metadata.answered response ignore)) := by
  cases ignore with
  | true =>
    have same := (congruence_ignoring env response).abstractVerdict rule (legacy.alike preMatching) ⟨preMatching.ignoring, rfl⟩
    exact .of_eq same.symm
  | false =>
    unfold abstractVerdict
    cases refers : rule.ruleSetItem with
    | none =>
      refine AbstractDefaultRule.ownVerdict_answered ?_ preMatching.ignoring ?_
      · exact preMatching.destination ▸ legacy.comparable
      · exact preMatching.destination ▸ unmixed.own
    | some item =>
      have inner := @innerVerdict_branches_below env rule metadata response preMatching legacy unmixed item refers
      simp only [AbstractDefaultRule.verdict, map_some, isNone_some, Bool.and_false, Bool.false_eq_true,
        if_false, getD_some]
      split
      · exact Verdict.not_below inner
      · exact inner

end

end

end DefaultRule

mutual
/-- Every default rule of the tree meets the condition. -/
def Rule.Leaves (condition : DefaultRule → Prop) : Rule → Prop
  | .default rule => condition rule
  | .logical _ _ rules => Rule.AllLeaves condition rules
def Rule.AllLeaves (condition : DefaultRule → Prop) : List Rule → Prop
  | [] => True
  | rule :: rules => rule.Leaves condition ∧ Rule.AllLeaves condition rules
end

namespace Rule

theorem allLeaves_iff (condition : DefaultRule → Prop) (rules : List Rule) :
    AllLeaves condition rules ↔ ∀ rule ∈ rules, rule.Leaves condition := by
  induction rules with
  | nil => simp [AllLeaves]
  | cons rule rules ih => rw [AllLeaves, ih, forall_mem_cons]

variable {env : Environment} {rule : Rule}

theorem verdict_below {response : DnsMessage} {ignore : Bool} (metadata : InboundContext)
    (preMatching : PreMatching metadata) (legacy : rule.Leaves DefaultRule.Legacy)
    (unmixed : rule.Leaves DefaultRule.Unmixed) :
    Verdict.Below (rule.verdict env metadata) (rule.verdict env (metadata.answered response ignore)) := by
  induction rule using Rule.induction generalizing metadata with
  | default rule =>
    simp only [verdict, DefaultRule.verdict, legacy.noMatchResponse, Bool.false_eq_true, if_false]
    exact DefaultRule.abstractVerdict_below preMatching legacy unmixed
  | logical mode invert rules ih =>
    rw [Leaves, allLeaves_iff] at legacy unmixed
    rw [verdict, verdict, verdicts_eq_map, verdicts_eq_map, answered_resetRuleCache]
    apply logicalVerdict_below
    intro rule mem
    exact ih rule mem metadata.resetRuleCache ⟨preMatching.ignoring, rfl, rfl⟩
      (legacy rule mem) (unmixed rule mem)

/-- The metadata of the pre-match. -/
def preMatchMetadata (metadata : InboundContext) : InboundContext :=
  metadata.resetRuleCache.ignoringDestinationIPCIDR true

section
variable (legacy : rule.Leaves DefaultRule.Legacy)
include legacy

theorem abstractMatch_of_legacy :
    rule.matchesResponse = false ∧ rule.abstractMatch env = rule.match env := by
  cases rule with
  | default rule =>
    refine ⟨legacy.noMatchResponse, ?_⟩
    funext metadata
    simp [abstractMatch, Rule.match, DefaultRule.match, legacy.noMatchResponse]
  | logical mode invert rules => exact ⟨rfl, by rw [abstractMatch, Rule.match]⟩

variable (metadata : InboundContext)

theorem matchAddressLimit_eq (response : DnsMessage) :
    rule.matchAddressLimit env metadata.resetRuleCache response =
      (rule.verdict env ((preMatchMetadata metadata).answered response metadata.ignoreDestinationIPCIDRMatch)).possible := by
  rw [matchAddressLimit, (abstractMatch_of_legacy legacy).2]
  exact (rule.match_decides env ((preMatchMetadata metadata).answered response _) rfl).possible_eq

theorem legacyPreMatch_eq :
    (rule.legacyPreMatch env metadata.resetRuleCache).1 = (rule.verdict env (preMatchMetadata metadata)).possible ∧
      ((rule.legacyPreMatch env metadata.resetRuleCache).1 →
        (rule.legacyPreMatch env metadata.resetRuleCache).2.deferredIPCIDRMatchGroups = 0 →
          rule.verdict env (preMatchMetadata metadata) = .yes) := by
  obtain ⟨noMatchResponse, same⟩ := @abstractMatch_of_legacy env rule legacy
  have decides := rule.match_decides env (preMatchMetadata metadata) rfl
  simp only [legacyPreMatch, noMatchResponse, Bool.false_eq_true, if_false, same]
  exact ⟨decides.possible_eq, fun matched closed => decides.eq_yes_iff.mpr ⟨matched, closed⟩⟩

end

theorem preMatching_preMatchMetadata (metadata : InboundContext) : PreMatching (preMatchMetadata metadata) :=
  ⟨rfl, rfl, rfl⟩

/-- Before the lookup a rule is dropped only if no response could make it match, and
settled only if every response does. -/
theorem legacyPreMatch_sound (env : Environment) (rule : Rule) (legacy : rule.Leaves DefaultRule.Legacy)
    (unmixed : rule.Leaves DefaultRule.Unmixed) (metadata : InboundContext) :
    ((rule.legacyPreMatch env metadata.resetRuleCache).1 = false →
        ∀ response, rule.matchAddressLimit env metadata.resetRuleCache response = false) ∧
      ((rule.legacyPreMatch env metadata.resetRuleCache).1 →
        (rule.legacyPreMatch env metadata.resetRuleCache).2.deferredIPCIDRMatchGroups = 0 →
          ∀ response, rule.matchAddressLimit env metadata.resetRuleCache response) := by
  have below := fun response => @verdict_below env rule response metadata.ignoreDestinationIPCIDRMatch _
    (preMatching_preMatchMetadata metadata) legacy unmixed
  obtain ⟨first, settled⟩ := @legacyPreMatch_eq env rule legacy metadata
  constructor
  · intro dropped response
    rw [first, ← Verdict.eq_no_iff] at dropped
    rw [matchAddressLimit_eq legacy, (below response).eq_of_no dropped]
    rfl
  · intro matched closed response
    rw [matchAddressLimit_eq legacy, (below response).eq_of_yes (settled matched closed)]
    rfl

/-- A rule for another domain is dropped, and a response for 1.1.1.1 does not select it. -/
theorem legacyPreMatch_sound_otherDomain :
    (Rule.logical .and false [
      .default { destinationAddressItems := [.domain (fun host => host == "example.org") .asIs] },
      .default { destinationIPCIDRItems := [.ipIsPrivate], invert := true }]).matchAddressLimit {}
        (InboundContext.resetRuleCache { destination := .ofFqdn "example.com" 443 })
        { answer := [.a [1, 1, 1, 1]] } = false := by
  refine (legacyPreMatch_sound {} _ ?_ ?_ { destination := .ofFqdn "example.com" 443 }).1 (by decide) _
  · exact ⟨⟨rfl, by simp⟩, ⟨rfl, by simp⟩, trivial⟩
  · exact ⟨⟨by decide, by simp⟩, ⟨by decide, by simp⟩, trivial⟩

end Rule

/-! ## Inverted rules -/

/-- A rule set that is not merged answers before the lookup, and the rule takes the
answer for definite: it left nothing open itself, or a domain of the rule
matches. The domain also closes what the rule set left open. -/
def RuleSetItem.AnswersEarly (env : Environment) (item : RuleSetItem) (outer : AbstractDefaultRule)
    (metadata : InboundContext) (ruleSet : RuleSet) : Prop :=
  ruleSet.mergeableRule = none ∧
    (ruleSet.match env (item.prepareNestedMatch metadata)).1 ∧
    ((outer.defersDestination metadata = false ∧
        (ruleSet.match env (item.prepareNestedMatch metadata)).2.deferredIPCIDRMatchGroups = 0) ∨
      outer.matchDestinationAddress env metadata)

/-- An inverted rule is given up for an early answer of a rule set, although with the
response no rule set lets it match. -/
structure DefaultRule.GivenUp (env : Environment) (rule : DefaultRule) (item : RuleSetItem)
    (metadata : InboundContext) (response : DnsMessage) : Prop where
  evaluated : metadata.ignoreDestinationIPCIDRMatch = false
  itemsMatch : rule.matchItems env (Rule.preMatchMetadata metadata)
  groupsHold : rule.GroupsHold env (Rule.preMatchMetadata metadata)
  early : ∃ ruleSet ∈ item.setList,
    item.AnswersEarly env rule.toAbstractDefaultRule (Rule.preMatchMetadata metadata) ruleSet
  refused : ∀ ruleSet ∈ item.setList,
    ¬item.Accepts env rule.toAbstractDefaultRule (metadata.resetRuleCache.forResponse response) ruleSet

namespace DefaultRule

variable {env : Environment} {rule : DefaultRule} {metadata : InboundContext} {response : DnsMessage} {ignore : Bool}

theorem answered_preMatchMetadata (metadata : InboundContext) (response : DnsMessage) :
    (Rule.preMatchMetadata metadata).answered response metadata.ignoreDestinationIPCIDRMatch =
      metadata.resetRuleCache.forResponse response := rfl

theorem innerVerdict_branches_ne_yes_iff (item : RuleSetItem)
    (evaluated : metadata.Evaluated) (itemsMatch : rule.matchItems env metadata) :
    rule.innerVerdict env metadata (rule.branches env metadata item) ≠ .yes ↔
      ∀ ruleSet ∈ item.setList, ¬item.Accepts env rule.toAbstractDefaultRule metadata ruleSet := by
  have possible := innerVerdict_possible (rule.branches env metadata item)
    |>.trans (and_iff_right itemsMatch)
  have known : rule.innerVerdict env metadata (rule.branches env metadata item) ≠ .unknown := by
    refine innerVerdict_ne_unknown ?_ (pending_notMem_branches evaluated item.setList)
    simp [defersDestination, evaluated]
  have isYes : ∀ verdict : Verdict, verdict ≠ .unknown → (verdict = .yes ↔ verdict.possible) := by
    intro verdict
    cases verdict <;> simp
  rw [ne_eq, isYes _ known, possible]
  simp [branches, branch_ne_miss evaluated]

theorem innerVerdict_givenUp_iff (legacy : rule.Legacy) (item : RuleSetItem) (metadata : InboundContext)
    (response : DnsMessage) :
    (rule.innerVerdict env (Rule.preMatchMetadata metadata) (rule.branches env (Rule.preMatchMetadata metadata) item) = .yes ∧
      rule.innerVerdict env (metadata.resetRuleCache.forResponse response)
        (rule.branches env (metadata.resetRuleCache.forResponse response) item) ≠ .yes) ↔
      rule.GivenUp env item metadata response := by
  have preMatching := Rule.preMatching_preMatchMetadata metadata
  have items : rule.matchItems env (metadata.resetRuleCache.forResponse response) =
      rule.matchItems env (Rule.preMatchMetadata metadata) := by
    rw [← answered_preMatchMetadata]
    exact matchItems_answered legacy.comparable
  have decides (ruleSet : RuleSet) :=
    ruleSet.match_decides env (item.prepareNestedMatch (Rule.preMatchMetadata metadata)) rfl
  constructor
  · rintro ⟨isYes, lost⟩
    have evaluated : metadata.Evaluated := by
      refine Bool.eq_false_iff.mpr fun ignoring => lost ?_
      rw [← answered_preMatchMetadata, ignoring]
      exact (innerVerdict_branches_ignoring preMatching legacy item).trans isYes
    have evaluatedAfter : (metadata.resetRuleCache.forResponse response).Evaluated := evaluated
    obtain ⟨itemsMatch, branch, member, decided⟩ := innerVerdict_yes_cases isYes
    have refused := (innerVerdict_branches_ne_yes_iff item evaluatedAfter (items.trans itemsMatch)).mp lost
    obtain ⟨ruleSet, ruleSetMember, isBranch⟩ := mem_branches.mp member
    have missed : ¬item.branchUnder rule.toAbstractDefaultRule env (metadata.resetRuleCache.forResponse response) ruleSet ≠
        .miss := fun hit => refused ruleSet ruleSetMember ((branch_ne_miss evaluatedAfter ruleSet).mp hit)
    cases mergeable : ruleSet.mergeableRule with
    | some inner =>
      exfalso
      rcases decided with ⟨destination, rfl, closed⟩ | ⟨rfl, satisfied⟩
      · rw [← answered_preMatchMetadata] at missed
        exact missed (item.branch_answered_of_settled preMatching legacy.comparable (by simp [mergeable]) isBranch closed)
      · rw [branch_merged_pending mergeable isBranch] at satisfied
        cases satisfied
    | none =>
      rcases decided with ⟨destination, rfl, closed⟩ | ⟨rfl, satisfied⟩
      · obtain ⟨holds, ruleSetYes, rfl⟩ := (branch_alone_settled mergeable _).mp isBranch
        obtain ⟨hit, nothingOpen⟩ := (decides ruleSet).eq_yes_iff.mp ruleSetYes
        exact ⟨evaluated, itemsMatch, holds, ⟨ruleSet, ruleSetMember, mergeable, hit,
          .inl ⟨by simpa using closed, nothingOpen⟩⟩, refused⟩
      · obtain ⟨holds, ruleSetUnknown⟩ := (branch_alone_pending mergeable).mp isBranch
        rw [satisfies_destination_ignoring preMatching.ignoring] at satisfied
        refine ⟨evaluated, itemsMatch, holds, ⟨ruleSet, ruleSetMember, mergeable, ?_, .inr satisfied⟩, refused⟩
        rw [(decides ruleSet).possible_eq, ruleSetUnknown]
        rfl
  · rintro ⟨evaluated, itemsMatch, holds, ⟨ruleSet, ruleSetMember, mergeable, hit, definite⟩, refused⟩
    have evaluatedAfter : (metadata.resetRuleCache.forResponse response).Evaluated := evaluated
    refine ⟨innerVerdict_yes_of itemsMatch ?_,
      (innerVerdict_branches_ne_yes_iff item evaluatedAfter (items.trans itemsMatch)).mpr refused⟩
    rcases definite with ⟨notDeferred, nothingOpen⟩ | domain
    · exact .inr ⟨notDeferred, false, mem_branches.mpr ⟨ruleSet, ruleSetMember,
        (branch_alone_settled mergeable _).mpr ⟨holds, (decides ruleSet).eq_yes_iff.mpr ⟨hit, nothingOpen⟩, rfl⟩⟩⟩
    · rw [(decides ruleSet).possible_eq] at hit
      rw [← satisfies_destination_ignoring preMatching.ignoring] at domain
      exact .inl ⟨domain, _, mem_branches.mpr ⟨ruleSet, ruleSetMember, rfl⟩,
        (branch_alone_ne_miss mergeable).mpr ⟨holds, hit⟩⟩

theorem inverted_dropped_iff (inverted : rule.invert) (legacy : rule.Legacy) (metadata : InboundContext)
    (response : DnsMessage) :
    (rule.abstractVerdict env (Rule.preMatchMetadata metadata) = .no ∧
      (rule.abstractVerdict env (metadata.resetRuleCache.forResponse response)).possible) ↔
      ∃ item, rule.ruleSetItem = some item ∧ rule.GivenUp env item metadata response := by
  have preMatching := Rule.preMatching_preMatchMetadata metadata
  have negated : ∀ first second : Verdict, first.not = .no ∧ second.not.possible ↔ first = .yes ∧ second ≠ .yes := by
    intro first second
    cases first <;> cases second <;> decide
  unfold abstractVerdict AbstractDefaultRule.verdict
  cases rule.ruleSetItem with
  | none =>
    simp only [map_none, isNone_none, getD_none, reduceCtorEq, false_and, exists_false, iff_false]
    by_cases noItems : rule.noItems
    · simp [noItems]
    · simp only [noItems, Bool.false_and, Bool.false_eq_true, if_false, inverted, if_true]
      rw [negated]
      rintro ⟨isYes, lost⟩
      rw [← answered_preMatchMetadata] at lost
      exact lost (AbstractDefaultRule.innerVerdict_own_answered legacy.comparable preMatching.ignoring isYes)
  | some item =>
    simp only [map_some, isNone_some, Bool.and_false, Bool.false_eq_true, if_false, getD_some,
      inverted, if_true, Option.some.injEq, exists_eq_left']
    rw [negated]
    exact innerVerdict_givenUp_iff legacy item metadata response

/-- An inverted rule that would match the response is kept by the pre-match, unless it
is given up for the early answer of a rule set. -/
theorem legacyPreMatch_keeps_iff (env : Environment) (rule : DefaultRule) (inverted : rule.invert)
    (legacy : rule.Legacy) (metadata : InboundContext) (response : DnsMessage) :
    ((Rule.default rule).matchAddressLimit env metadata.resetRuleCache response →
        ((Rule.default rule).legacyPreMatch env metadata.resetRuleCache).1) ↔
      ∀ item, rule.ruleSetItem = some item → ¬rule.GivenUp env item metadata response := by
  have leaves : (Rule.default rule).Leaves DefaultRule.Legacy := legacy
  have asVerdict : ∀ metadata, (Rule.default rule).verdict env metadata = rule.abstractVerdict env metadata := by
    intro metadata
    simp [Rule.verdict, DefaultRule.verdict, legacy.noMatchResponse]
  have dropped := @inverted_dropped_iff env rule inverted legacy metadata response
  rw [Verdict.eq_no_iff] at dropped
  rw [Rule.matchAddressLimit_eq leaves, (Rule.legacyPreMatch_eq leaves metadata).1, asVerdict, asVerdict,
    answered_preMatchMetadata]
  grind

/-- `domain: example.org`, inverted, with a rule set. -/
def invertedDomainRule (rules : List HeadlessRule) : DefaultRule where
  destinationAddressItems := [.domain (fun host => host == "example.org") .asIs]
  invert := true
  ruleSetItem := some { setList := [⟨rules⟩] }

/-- The rule set holds an address and, as a second rule, a port: it is not merged, and
the domain closes what the address left open. -/
theorem invertedDomainRule_dropped :
    let rule := Rule.default (invertedDomainRule
      [.default { destinationIPCIDRItems := [.ipCidr Ipset.tenNet] }, .default { destinationPortItems := [.port [853]] }])
    let metadata : InboundContext := { destination := .ofFqdn "example.org" 53 }
    rule.matchAddressLimit {} metadata.resetRuleCache { answer := [.a [1, 1, 1, 1]] } ∧
      (rule.legacyPreMatch {} metadata.resetRuleCache).1 = false := by
  decide

/-- With the address as the only rule the rule set is merged into the rule. -/
theorem legacyPreMatch_keeps_merged :
    ((Rule.default (invertedDomainRule [.default { destinationIPCIDRItems := [.ipCidr Ipset.tenNet] }])).legacyPreMatch {}
      (InboundContext.resetRuleCache { destination := .ofFqdn "example.com" 53 })).1 := by
  have legacy : (invertedDomainRule [.default { destinationIPCIDRItems := [.ipCidr Ipset.tenNet] }]).Legacy :=
    ⟨rfl, by simp [invertedDomainRule]⟩
  refine (legacyPreMatch_keeps_iff {} _ rfl legacy { destination := .ofFqdn "example.com" 53 }
    { answer := [.a [1, 1, 1, 1]] }).mpr ?_ (by decide)
  rintro item ⟨⟩ ⟨-, -, -, ⟨ruleSet, member, unmerged, -⟩, -⟩
  obtain rfl := List.mem_singleton.mp member
  cases unmerged

end DefaultRule

end SingBox
