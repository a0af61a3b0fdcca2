import SingBox.Rule.Verdict

/-! # Metadata that a rule answers alike

A default rule looks at the metadata through its items, its groups and what it defers. Where
these are the same for two metadata, so is the verdict; and a relation between metadata that
survives the preparation of nested matches carries this to rule sets.
-/

namespace SingBox

open HeadlessRule List

/-- Nothing in the rule tells the two metadata apart. -/
structure AbstractDefaultRule.Alike (env : Environment) (rule : AbstractDefaultRule) (first second : InboundContext) :
    Prop where
  items : ∀ item ∈ rule.items, item.match env first = item.match env second
  requires : rule.requires first = rule.requires second
  satisfies : rule.satisfies env first = rule.satisfies env second
  defers : rule.defersDestination first = rule.defersDestination second

section Alike

variable {env : Environment} {first second : InboundContext}

namespace AbstractDefaultRule.Alike

variable {rule : AbstractDefaultRule} (alike : rule.Alike env first second)
include alike

theorem matchItems : rule.matchItems env first = rule.matchItems env second := by
  unfold AbstractDefaultRule.matchItems
  rw [Bool.eq_iff_iff, all_eq_true, all_eq_true]
  exact forall₂_congr fun item mem => by rw [alike.items item mem]

theorem groups : rule.groups env first = rule.groups env second := by
  rw [AbstractDefaultRule.groups, AbstractDefaultRule.groups, alike.requires, alike.satisfies]

theorem innerVerdict (branches : List Branch) :
    rule.innerVerdict env first branches = rule.innerVerdict env second branches := by
  rw [AbstractDefaultRule.innerVerdict, AbstractDefaultRule.innerVerdict, alike.matchItems, alike.defers, alike.satisfies]

theorem verdict (ruleSets : Option (List Branch)) :
    rule.verdict env first ruleSets = rule.verdict env second ruleSets := by
  rw [AbstractDefaultRule.verdict, AbstractDefaultRule.verdict, ownBranch, ownBranch, alike.groups, alike.innerVerdict]

end AbstractDefaultRule.Alike

/-- Two metadata that are the same in this sense stay so in nested matches, and no headless rule
tells them apart. -/
structure Congruence (env : Environment) (Same : InboundContext → InboundContext → Prop) : Prop where
  reset : ∀ {first second}, Same first second → Same first.resetRuleCache second.resetRuleCache
  nested : ∀ {first second}, Same first second → ∀ item : RuleSetItem,
    Same (item.prepareNestedMatch first) (item.prepareNestedMatch second)
  headless : ∀ {first second}, Same first second → ∀ rule : DefaultHeadlessRule,
    rule.toAbstractDefaultRule.Alike env first second

namespace Congruence

variable {Same : InboundContext → InboundContext → Prop} (congruence : Congruence env Same)
include congruence

theorem headlessVerdict (rule : HeadlessRule) (same : Same first second) :
    rule.verdict env first = rule.verdict env second := by
  induction rule using induction generalizing first second with
  | default rule =>
    exact (congruence.headless same rule).verdict none
  | logical mode invert rules ih =>
    rw [verdict, verdict, verdicts_eq_map, verdicts_eq_map]
    congr 1
    exact map_congr_left fun rule mem => ih rule mem (congruence.reset same)

theorem branch (item : RuleSetItem) (required satisfied : Group → Bool) (ruleSet : RuleSet) (same : Same first second) :
    item.branch env required satisfied first ruleSet = item.branch env required satisfied second ruleSet := by
  have nested := congruence.nested same item
  unfold RuleSetItem.branch RuleSet.verdict
  cases ruleSet.mergeableRule with
  | none => simp [congruence.headlessVerdict _ nested]
  | some rule =>
    have alike := congruence.headless nested rule
    simp [alike.matchItems, alike.groups, alike.defers, alike.satisfies]

variable (rule : DefaultRule)

theorem branches (alike : rule.Alike env first second) (same : Same first second) :
    rule.branches env first = rule.branches env second := by
  funext item
  unfold DefaultRule.branches
  rw [alike.requires, alike.satisfies]
  exact map_congr_left fun ruleSet _ => congruence.branch item _ _ ruleSet same

theorem abstractVerdict (alike : rule.Alike env first second) (same : Same first second) :
    rule.abstractVerdict env first = rule.abstractVerdict env second := by
  rw [DefaultRule.abstractVerdict, DefaultRule.abstractVerdict, congruence.branches rule alike same]
  exact alike.verdict _

end Congruence

end Alike

end SingBox
