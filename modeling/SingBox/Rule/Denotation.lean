import SingBox.Rule.Verdict

/-! # What a rule means

Outside the legacy pre-match a rule is a plain condition on the metadata. This
module states that condition, with groups as predicates and rule sets as
disjunctions, and shows that matching decides it, in whatever order the rule sets
stand, and gives the metadata back as it found it.
-/

namespace SingBox

open Lib.Kleene List

variable {invert : Bool} {mode : LogicalMode}

/-- A condition, negated when the rule is inverted. -/
def Inverted (invert : Bool) (condition : Prop) : Prop := if invert then ¬condition else condition

theorem Inverted.congr {first second : Prop} (same : first ↔ second) :
    Inverted invert first ↔ Inverted invert second := by
  rw [propext same]

/-- `and` over the items, or `or`. -/
def LogicalMode.Combines {α : Type} (mode : LogicalMode) (items : List α) (condition : α → Prop) : Prop :=
  match mode with
  | .and => ∀ item ∈ items, condition item
  | .or => ∃ item ∈ items, condition item

theorem LogicalMode.combines_congr {α : Type} {items : List α} {first second : α → Prop}
    (same : ∀ item ∈ items, first item ↔ second item) : mode.Combines items first ↔ mode.Combines items second := by
  cases mode with
  | and => exact forall₂_congr same
  | or => exact exists_congr fun item => and_congr_right (same item)

/-! ## The conditions -/

namespace AbstractDefaultRule

variable (env : Environment) (rule : AbstractDefaultRule) (metadata : InboundContext)

/-- Every group the rule requires is satisfied. -/
def GroupsHold : Prop :=
  ∀ group, rule.requires metadata group → rule.satisfies env metadata group

/-- A rule without rule sets. One without any items matches even when inverted. -/
def Matches : Prop :=
  rule.noItems ∨
    Inverted rule.invert (rule.matchItems env metadata ∧ rule.GroupsHold env metadata)

end AbstractDefaultRule

-- A logical rule clears the flags that a rule set has set for the rules inside it.
mutual
def HeadlessRule.Matches (env : Environment) : HeadlessRule → InboundContext → Prop
  | .default rule, metadata => rule.toAbstractDefaultRule.Matches env metadata
  | .logical .and invert rules, metadata => Inverted invert (HeadlessRule.AllMatch env rules metadata.resetRuleCache)
  | .logical .or invert rules, metadata => Inverted invert (HeadlessRule.AnyMatches env rules metadata.resetRuleCache)
def HeadlessRule.AllMatch (env : Environment) : List HeadlessRule → InboundContext → Prop
  | [], _ => True
  | rule :: rules, metadata => rule.Matches env metadata ∧ HeadlessRule.AllMatch env rules metadata
def HeadlessRule.AnyMatches (env : Environment) : List HeadlessRule → InboundContext → Prop
  | [], _ => False
  | rule :: rules, metadata => rule.Matches env metadata ∨ HeadlessRule.AnyMatches env rules metadata
end

/-- A rule set that is one plain rule `inner` is merged: each group that the rule or
`inner` requires is satisfied by the rule or by `inner`. Any other rule set is
a further condition: the rule's own groups hold and some rule of the set matches. -/
def RuleSetItem.Accepts (env : Environment) (item : RuleSetItem) (rule : AbstractDefaultRule)
    (metadata : InboundContext) (ruleSet : RuleSet) : Prop :=
  let nested := item.prepareNestedMatch metadata
  match ruleSet.mergeableRule with
  | some inner => inner.matchItems env nested ∧
      ∀ group, rule.requires metadata group ∨ inner.requires nested group →
        rule.satisfies env metadata group ∨ inner.satisfies env nested group
  | none => rule.GroupsHold env metadata ∧ ∃ inner ∈ ruleSet.rules, inner.Matches env nested

namespace DefaultRule

def AbstractMatches (env : Environment) (rule : DefaultRule) (metadata : InboundContext) : Prop :=
  match rule.ruleSetItem with
  | none => rule.toAbstractDefaultRule.Matches env metadata
  | some item => Inverted rule.invert (rule.matchItems env metadata ∧
      ∃ ruleSet ∈ item.setList, item.Accepts env rule.toAbstractDefaultRule metadata ruleSet)

def Matches (env : Environment) (rule : DefaultRule) (metadata : InboundContext) : Prop :=
  if rule.matchResponse then
    match rule.matchedResponse metadata with
    | none => rule.invert
    | some response => rule.AbstractMatches env (metadata.forResponse response)
  else rule.AbstractMatches env metadata

end DefaultRule

mutual
def Rule.Matches (env : Environment) : Rule → InboundContext → Prop
  | .default rule, metadata => rule.Matches env metadata
  | .logical .and invert rules, metadata => Inverted invert (Rule.AllMatch env rules metadata.resetRuleCache)
  | .logical .or invert rules, metadata => Inverted invert (Rule.AnyMatches env rules metadata.resetRuleCache)
def Rule.AllMatch (env : Environment) : List Rule → InboundContext → Prop
  | [], _ => True
  | rule :: rules, metadata => rule.Matches env metadata ∧ Rule.AllMatch env rules metadata
def Rule.AnyMatches (env : Environment) : List Rule → InboundContext → Prop
  | [], _ => False
  | rule :: rules, metadata => rule.Matches env metadata ∨ Rule.AnyMatches env rules metadata
end

/-! ## Rules that differ in the order of their rule sets -/

/-- The same rule set item up to the order of its rule sets. -/
def RuleSetItem.Reordered (item other : RuleSetItem) : Prop :=
  item.setList.Perm other.setList ∧ item.ipCidrMatchSource = other.ipCidrMatchSource ∧
    item.ipCidrAcceptEmpty = other.ipCidrAcceptEmpty

/-- The same default rule up to the order of its rule sets. -/
def DefaultRule.Reordered (rule other : DefaultRule) : Prop :=
  rule.toAbstractDefaultRule = other.toAbstractDefaultRule ∧ rule.matchResponse = other.matchResponse ∧
    rule.matchResponseTag = other.matchResponseTag ∧
    Option.Rel RuleSetItem.Reordered rule.ruleSetItem other.ruleSetItem

mutual
/-- The same rule tree up to the order of the rule sets at each of its leaves. -/
def Rule.Reordered : Rule → Rule → Prop
  | .default rule, .default other => rule.Reordered other
  | .logical mode invert rules, .logical mode' invert' others =>
    mode = mode' ∧ invert = invert' ∧ Rule.AllReordered rules others
  | _, _ => False
def Rule.AllReordered : List Rule → List Rule → Prop
  | [], [] => True
  | rule :: rules, other :: others => rule.Reordered other ∧ Rule.AllReordered rules others
  | _, _ => False
end

/-! ## Matching decides the condition -/

theorem Branch.collect_matched (deferred : Bool) (branches : List Branch) (matched : Bool) :
    (collect deferred branches matched).1 ↔ matched ∨ ∃ branch ∈ branches, branch ≠ .miss := by
  induction branches generalizing matched with
  | nil => simp [collect]
  | cons branch branches ih =>
    cases branch with
    | miss => simp [collect, ih]
    | pending => simp [collect, ih]
    | settled destination => simp [collect]

namespace AbstractDefaultRule

variable {env : Environment} {rule : AbstractDefaultRule} {metadata : InboundContext}

theorem innerVerdict_possible (branches : List Branch) :
    (rule.innerVerdict env metadata branches).possible ↔
      rule.matchItems env metadata ∧ ∃ branch ∈ branches, branch ≠ .miss := by
  have matched := Branch.collect_matched (rule.defersDestination metadata) branches false
  simp only [Bool.false_eq_true, false_or] at matched
  rw [← matched, innerVerdict]
  split
  next itemsMatch =>
    dsimp only
    split
    next hit => split <;> simp [itemsMatch, hit]
    next noHit => simp [noHit]
  next noMatch => simp [noMatch]

theorem groups_done : (rule.groups env metadata).done ↔ rule.GroupsHold env metadata :=
  RuleGroupMatch.done_ofGroups _ _

theorem ownBranch_ne_miss : rule.ownBranch env metadata ≠ .miss ↔ rule.GroupsHold env metadata := by
  rw [ownBranch, ← groups_done]
  split <;> simp_all

theorem possible_inverted {verdict : Verdict} {condition : Prop}
    (known : (if invert then verdict.not else verdict) ≠ .unknown) (same : verdict.possible ↔ condition) :
    (if invert then verdict.not else verdict).possible ↔ Inverted invert condition := by
  cases invert with
  | false => simpa [Inverted] using same
  | true =>
    have notUnknown : verdict ≠ .unknown := by
      rintro rfl
      exact known rfl
    simp [Inverted, Verdict.not_possible notUnknown, ← same]

theorem verdict_possible (known : rule.verdict env metadata none ≠ .unknown) :
    (rule.verdict env metadata none).possible ↔ rule.Matches env metadata := by
  unfold Matches
  unfold verdict at known ⊢
  by_cases empty : rule.noItems
  · simp [empty]
  · simp only [empty, Bool.false_and, Bool.false_eq_true, if_false, false_or] at known ⊢
    apply possible_inverted known
    rw [innerVerdict_possible]
    simp [ownBranch_ne_miss]

end AbstractDefaultRule

theorem logicalVerdict_possible {α : Type} {rules : List α}
    {verdict : α → Verdict} (known : logicalVerdict mode invert (rules.map verdict) ≠ .unknown) :
    (logicalVerdict mode invert (rules.map verdict)).possible ↔
      Inverted invert (mode.Combines rules fun rule => (verdict rule).possible) := by
  apply AbstractDefaultRule.possible_inverted known
  cases mode with
  | and => simp [Verdict.all_possible, LogicalMode.Combines]
  | or => simp [Verdict.any_possible, LogicalMode.Combines]

namespace HeadlessRule

variable (env : Environment) (rules : List HeadlessRule) (metadata : InboundContext)

theorem allMatch_iff : AllMatch env rules metadata ↔ ∀ rule ∈ rules, rule.Matches env metadata := by
  induction rules with
  | nil => simp [AllMatch]
  | cons rule rules ih => rw [AllMatch, ih, forall_mem_cons]

theorem anyMatches_iff : AnyMatches env rules metadata ↔ ∃ rule ∈ rules, rule.Matches env metadata := by
  induction rules with
  | nil => simp [AnyMatches]
  | cons rule rules ih => simp [AnyMatches, ih]

theorem matches_logical (mode : LogicalMode) (invert : Bool) (rules : List HeadlessRule) (metadata : InboundContext) :
    Matches env (.logical mode invert rules) metadata ↔
      Inverted invert (mode.Combines rules fun rule => rule.Matches env metadata.resetRuleCache) := by
  cases mode with
  | and => rw [Matches, allMatch_iff]; rfl
  | or => rw [Matches, anyMatches_iff]; rfl

theorem verdict_possible (rule : HeadlessRule) (metadata : InboundContext)
    (evaluated : metadata.Evaluated) (rested : metadata.Rested) :
    (rule.verdict env metadata).possible ↔ rule.Matches env metadata := by
  have known := (rule.match_decides env metadata rested).ne_unknown evaluated
  induction rule using HeadlessRule.induction generalizing metadata with
  | default rule =>
    exact AbstractDefaultRule.verdict_possible known
  | logical mode invert rules ih =>
    rw [verdict, verdicts_eq_map] at known ⊢
    rw [logicalVerdict_possible known, matches_logical]
    refine Inverted.congr (LogicalMode.combines_congr fun rule mem => ?_)
    exact ih rule mem metadata.resetRuleCache evaluated rfl
      ((rule.match_decides env metadata.resetRuleCache rfl).ne_unknown evaluated)

end HeadlessRule

theorem RuleSetItem.branch_ne_miss {env : Environment} {item : RuleSetItem} {rule : AbstractDefaultRule}
    {metadata : InboundContext} (evaluated : metadata.Evaluated) (ruleSet : RuleSet) :
    item.branch env (rule.requires metadata) (rule.satisfies env metadata) metadata ruleSet ≠ .miss ↔
      item.Accepts env rule metadata ruleSet := by
  unfold Accepts
  cases mergeable : ruleSet.mergeableRule with
  | some inner => exact branch_merged_ne_miss mergeable
  | none =>
    rw [branch_alone_ne_miss mergeable]
    refine and_congr Iff.rfl ?_
    simp only [RuleSet.verdict, Verdict.any_possible, mem_map, exists_exists_and_eq_and]
    exact exists_congr fun inner => and_congr_right fun _ => inner.verdict_possible env _ evaluated rfl

namespace DefaultRule

variable {env : Environment} {rule : DefaultRule} {metadata : InboundContext}

section
variable (evaluated : metadata.Evaluated)
include evaluated

theorem abstractVerdict_possible (rested : metadata.Rested) :
    (rule.abstractVerdict env metadata).possible ↔ rule.AbstractMatches env metadata := by
  have known := (@abstractMatch_decides env rule metadata rested).ne_unknown evaluated
  unfold abstractVerdict at known ⊢
  unfold AbstractMatches
  revert known
  cases rule.ruleSetItem with
  | none => exact AbstractDefaultRule.verdict_possible
  | some item =>
    intro known
    simp only [Option.map_some, AbstractDefaultRule.verdict, Option.isNone_some, Bool.and_false, Bool.false_eq_true,
      if_false, Option.getD_some] at known ⊢
    apply AbstractDefaultRule.possible_inverted known
    simp [AbstractDefaultRule.innerVerdict_possible, branches, RuleSetItem.branch_ne_miss evaluated]

theorem verdict_possible (rested : metadata.Rested) :
    (rule.verdict env metadata).possible ↔ rule.Matches env metadata := by
  unfold verdict Matches
  split
  · cases rule.matchedResponse metadata with
    | none => rw [Verdict.ofBool_possible]
    | some response =>
      rw [Verdict.ofBool_possible]
      exact @abstractVerdict_possible env rule (metadata.forResponse response) evaluated rested
  · exact abstractVerdict_possible evaluated rested

end

end DefaultRule

namespace Rule

variable (env : Environment)

section
variable (metadata : InboundContext)
include metadata

variable (rules : List Rule)

theorem allMatch_iff : AllMatch env rules metadata ↔ ∀ rule ∈ rules, rule.Matches env metadata := by
  induction rules with
  | nil => simp [AllMatch]
  | cons rule rules ih => rw [AllMatch, ih, forall_mem_cons]

theorem anyMatches_iff : AnyMatches env rules metadata ↔ ∃ rule ∈ rules, rule.Matches env metadata := by
  induction rules with
  | nil => simp [AnyMatches]
  | cons rule rules ih => simp [AnyMatches, ih]

theorem matches_logical (mode : LogicalMode) (invert : Bool) (rules : List Rule) :
    Matches env (.logical mode invert rules) metadata ↔
      Inverted invert (mode.Combines rules fun rule => rule.Matches env metadata.resetRuleCache) := by
  cases mode with
  | and => rw [Matches, allMatch_iff]; rfl
  | or => rw [Matches, anyMatches_iff]; rfl

theorem verdict_possible (rule : Rule) (evaluated : metadata.Evaluated) (rested : metadata.Rested) :
    (rule.verdict env metadata).possible ↔ rule.Matches env metadata := by
  have known := (rule.match_decides env metadata rested).ne_unknown evaluated
  induction rule using Rule.induction generalizing metadata with
  | default rule =>
    exact DefaultRule.verdict_possible evaluated rested
  | logical mode invert rules ih =>
    rw [verdict, verdicts_eq_map] at known ⊢
    rw [logicalVerdict_possible known, matches_logical]
    refine Inverted.congr (LogicalMode.combines_congr fun rule mem => ?_)
    exact ih rule mem metadata.resetRuleCache evaluated rfl
      ((rule.match_decides env metadata.resetRuleCache rfl).ne_unknown evaluated)

end

end Rule

/-! ## The order of the rule sets -/

variable (env : Environment)

theorem DefaultRule.matches_reordered {rule other : DefaultRule} (reordered : rule.Reordered other)
    (metadata : InboundContext) : rule.Matches env metadata ↔ other.Matches env metadata := by
  obtain ⟨base, item, response, tag⟩ := rule
  obtain ⟨otherBase, otherItem, otherResponse, otherTag⟩ := other
  obtain ⟨rfl, rfl, rfl, items⟩ := reordered
  have same : ∀ metadata, AbstractMatches env ⟨base, item, response, tag⟩ metadata ↔
      AbstractMatches env ⟨base, otherItem, response, tag⟩ metadata := by
    intro metadata
    cases items with
    | none => rfl
    | some itemsReordered =>
      rename_i item otherItem
      obtain ⟨setList, matchSource, acceptEmpty⟩ := item
      obtain ⟨otherSetList, otherMatchSource, otherAcceptEmpty⟩ := otherItem
      obtain ⟨permuted, rfl, rfl⟩ := itemsReordered
      refine Inverted.congr (and_congr_right fun _ => exists_congr fun ruleSet => ?_)
      exact and_congr_left fun _ => permuted.mem_iff
  have response : matchedResponse ⟨base, item, response, tag⟩ metadata =
      matchedResponse ⟨base, otherItem, response, tag⟩ metadata := rfl
  unfold Matches
  rw [response]
  split
  · cases matchedResponse ⟨base, otherItem, _, tag⟩ metadata with
    | none => rfl
    | some response => exact same _
  · exact same _

/-- Children that correspond one to one make the same list of conditions. -/
theorem Rule.allReordered_combines (mode : LogicalMode) (rules others : List Rule)
    (reordered : AllReordered rules others) (metadata : InboundContext)
    (same : ∀ rule ∈ rules, ∀ other, rule.Reordered other → (rule.Matches env metadata ↔ other.Matches env metadata)) :
    mode.Combines rules (fun rule => rule.Matches env metadata) ↔
      mode.Combines others fun rule => rule.Matches env metadata := by
  induction rules generalizing others with
  | nil =>
    cases others with
    | nil => rfl
    | cons => cases reordered
  | cons rule rules ih =>
    cases others with
    | nil => cases reordered
    | cons other others =>
      obtain ⟨headReordered, tailReordered⟩ := reordered
      have head := same rule (by simp) other headReordered
      have tail := ih others tailReordered fun rule mem => same rule (by simp [mem])
      cases mode with
      | and =>
        simp only [LogicalMode.Combines, forall_mem_cons] at tail ⊢
        rw [head, tail]
      | or =>
        simp only [LogicalMode.Combines, mem_cons, exists_eq_or_imp] at tail ⊢
        rw [head, tail]

theorem Rule.matches_reordered (rule other : Rule) (reordered : rule.Reordered other)
    (metadata : InboundContext) : rule.Matches env metadata ↔ other.Matches env metadata := by
  induction rule using Rule.induction generalizing other metadata with
  | default rule =>
    cases other with
    | default other =>
      exact DefaultRule.matches_reordered env reordered metadata
    | logical => simp [Reordered] at reordered
  | logical mode invert rules ih =>
    cases other with
    | default => simp [Reordered] at reordered
    | logical mode' invert' others =>
      obtain ⟨rfl, rfl, childrenReordered⟩ := reordered
      rw [matches_logical, matches_logical]
      refine Inverted.congr (allReordered_combines env mode rules others childrenReordered _ ?_)
      intro rule mem other childReordered
      exact ih rule mem other childReordered _

/-- Matching a rule outside the pre-match decides the condition the rule stands for,
in whatever order rule sets are referred to, and leaves no trace. -/
theorem Rule.match_denotes (env : Environment) (rule : Rule) (metadata : InboundContext)
    (evaluated : metadata.ignoreDestinationIPCIDRMatch = false) (rested : metadata.deferredIPCIDRMatchGroups = 0) :
    ((rule.match env metadata).1 ↔ rule.Matches env metadata) ∧
      (∀ other, rule.Reordered other → (other.match env metadata).1 = (rule.match env metadata).1) ∧
      (rule.match env metadata).2 = metadata := by
  have decided : ∀ rule : Rule, (rule.match env metadata).1 ↔ rule.Matches env metadata := by
    intro rule
    rw [(rule.match_decides env metadata rested).possible_eq, rule.verdict_possible env metadata evaluated rested]
  refine ⟨decided rule, ?_, ?_⟩
  · intro other reordered
    rw [Bool.eq_iff_iff, decided rule, decided other, Rule.matches_reordered env rule other reordered]
  · obtain ⟨deferred, result, -, clean⟩ := rule.match_decides env metadata rested
    rw [result, clean evaluated, metadata.withDeferred_false rested]

/-- A port rule in a rule set completes the domain rule that refers to it. -/
theorem Rule.match_denotes_merged :
    Rule.Matches {}
      (.default {
        destinationAddressItems := [.domain (fun host => host == "example.org") .asIs]
        ruleSetItem := some { setList := [⟨[.default { destinationPortItems := [.port [443]] }]⟩] } })
      { destination := .ofFqdn "example.org" 443 } :=
  (Rule.match_denotes {} _ _ rfl rfl).1.mp (by decide)

end SingBox
