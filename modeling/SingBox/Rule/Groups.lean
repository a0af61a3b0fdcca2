import SingBox.Rule.Abstract

/-! # The groups of a default rule

`evaluateGroups` works on two bit masks. Here they are read as two predicates on
the four groups: the groups a rule requires, and those it satisfies.
-/

namespace SingBox

open Lib.Mask

/-! ## Masks of groups -/

/-- The mask that holds exactly the given groups. -/
def groupMask (groups : Group → Bool) : UInt8 :=
  (if groups .sourceAddress then Group.sourceAddress.state else 0) |||
    (if groups .sourcePort then Group.sourcePort.state else 0) |||
    (if groups .destinationAddress then Group.destinationAddress.state else 0) |||
    (if groups .destinationPort then Group.destinationPort.state else 0)

variable (condition : Bool)

theorem has_ite (mask : UInt8) (index : Fin 8) : has (if condition then mask else 0) index = (condition && has mask index) := by
  cases condition <;> simp

variable (groups : Group → Bool)

theorem has_groupMask_index (index : Fin 8) :
    has (groupMask groups) index ↔ ∃ group : Group, group.index = index ∧ groups group := by
  simp only [groupMask, has_or, has_ite, Group.state, has_bit, Bool.or_eq_true, Bool.and_eq_true, decide_eq_true_eq]
  constructor
  · rintro (((⟨holds, rfl⟩ | ⟨holds, rfl⟩) | ⟨holds, rfl⟩) | ⟨holds, rfl⟩)
    all_goals exact ⟨_, rfl, holds⟩
  · rintro ⟨group, rfl, holds⟩
    cases group <;> simp [holds]

theorem Group.index_inj {first second : Group} : first.index = second.index ↔ first = second := by
  cases first <;> cases second <;> decide

variable (group : Group)

@[simp] theorem has_groupMask : has (groupMask groups) group.index = groups group := by
  rw [Bool.eq_iff_iff, has_groupMask_index]
  simp [Group.index_inj]

variable (first second : Group → Bool)

theorem groupMask_or : groupMask first ||| groupMask second = groupMask fun group => first group || second group := by
  apply Lib.Mask.ext
  intro index
  rw [Bool.eq_iff_iff, has_or, Bool.or_eq_true, has_groupMask_index, has_groupMask_index, has_groupMask_index]
  grind

theorem groupMask_singleton : group.state = groupMask fun other => decide (other = group) := by
  cases group <;> decide

theorem groupMask_and_not :
    groupMask first &&& ~~~groupMask second = groupMask fun group => first group && !second group := by
  apply Lib.Mask.ext
  intro index
  by_cases isGroup : ∃ group : Group, group.index = index
  · obtain ⟨group, rfl⟩ := isGroup
    simp
  · have outside : ∀ groups : Group → Bool, has (groupMask groups) index = false := by
      intro groups
      rw [Bool.eq_false_iff, ne_eq, has_groupMask_index]
      rintro ⟨group, same, -⟩
      exact isGroup ⟨group, same⟩
    simp [outside]

theorem groupMask_eq_zero_iff : groupMask groups = 0 ↔ ∀ group, groups group = false := by
  rw [eq_zero_iff]
  constructor
  · intro unset group
    rw [← has_groupMask groups, unset]
  · intro unset index
    rw [Bool.eq_false_iff, ne_eq, has_groupMask_index]
    rintro ⟨group, -, holds⟩
    rw [unset] at holds
    cases holds

namespace RuleGroupMatch

/-- The groups required and the groups satisfied, as masks. -/
def ofGroups (required satisfied : Group → Bool) : RuleGroupMatch := ⟨groupMask required, groupMask satisfied⟩

variable (required satisfied : Group → Bool)

theorem done_ofGroups :
    (ofGroups required satisfied).done ↔ ∀ group, required group → satisfied group := by
  simp only [done, ofGroups, groupMask_and_not, beq_iff_eq, groupMask_eq_zero_iff]
  refine forall_congr' fun group => ?_
  cases required group <;> cases satisfied group <;> simp

theorem mergeWith_ofGroups (required satisfied required' satisfied' : Group → Bool) :
    (ofGroups required satisfied).mergeWith (ofGroups required' satisfied') =
      ofGroups (fun group => required group || required' group) fun group => satisfied group || satisfied' group := by
  simp [mergeWith, ofGroups, groupMask_or]

theorem require_ofGroups (hit : Bool) :
    (ofGroups required satisfied).require group hit =
      ofGroups (fun other => required other || decide (other = group))
        fun other => satisfied other || (hit && decide (other = group)) := by
  cases hit <;> simp [require, ofGroups, groupMask_singleton, groupMask_or]

theorem require_if (required satisfied : Group → Bool) (group : Group) (hit : Bool) :
    (if condition then (ofGroups required satisfied).require group hit else ofGroups required satisfied) =
      ofGroups (fun other => required other || (condition && decide (other = group)))
        fun other => satisfied other || (condition && hit && decide (other = group)) := by
  cases condition
  · simp
  · simp [require_ofGroups]

theorem require_unless (required satisfied : Group → Bool) (group : Group) (hit : Bool) :
    (if condition then ofGroups required satisfied else (ofGroups required satisfied).require group hit) =
      ofGroups (fun other => required other || (!condition && decide (other = group)))
        fun other => satisfied other || (!condition && hit && decide (other = group)) := by
  cases condition
  · simp [require_ofGroups]
  · simp

theorem unsatisfied_ofGroups : ((ofGroups required satisfied).satisfied &&& group.state == 0) = !satisfied group := by
  rw [Bool.eq_iff_iff, beq_iff_eq, Group.state, and_bit_eq_zero_iff, ofGroups, has_groupMask, Bool.not_eq_true']

end RuleGroupMatch

/-! ## What `evaluateGroups` computes -/

namespace AbstractDefaultRule

variable (rule : AbstractDefaultRule)

/-- The groups for which a rule has items; those for destination addresses count
for the group in which they are looked at. -/
def requires (metadata : InboundContext) : Group → Bool
  | .sourceAddress => !rule.sourceAddressItems.isEmpty || rule.destinationIPCIDRMatchesSource metadata
  | .sourcePort => !rule.sourcePortItems.isEmpty
  | .destinationAddress =>
    !rule.destinationAddressItems.isEmpty || rule.destinationIPCIDRMatchesDestination metadata
  | .destinationPort => !rule.destinationPortItems.isEmpty

variable (env : Environment)

/-- The groups of which an item matches. -/
def satisfies (rule : AbstractDefaultRule) (metadata : InboundContext) : Group → Bool
  | .sourceAddress => rule.matchSourceAddress env metadata ||
      (rule.destinationIPCIDRMatchesSource metadata && rule.matchDestinationIPCIDR env metadata)
  | .sourcePort => rule.matchSourcePort metadata
  | .destinationAddress => rule.matchDestinationAddress env metadata ||
      (rule.destinationIPCIDRMatchesDestination metadata && rule.matchDestinationIPCIDR env metadata)
  | .destinationPort => rule.matchDestinationPort metadata

theorem any_of_not_isEmpty {α : Type} (items : List α) (test : α → Bool) :
    (!items.isEmpty && items.any test) = items.any test := by
  cases items <;> simp

theorem evaluateGroups_eq (metadata : InboundContext) :
    rule.evaluateGroups env metadata =
      (.ofGroups (rule.requires metadata) (rule.satisfies env metadata),
        if rule.defersDestination metadata then metadata.defer Group.destinationAddress.state else metadata) := by
  have start : ({} : RuleGroupMatch) = .ofGroups (fun _ => false) fun _ => false := by decide
  unfold evaluateGroups
  rw [start]
  simp only [RuleGroupMatch.require_if, RuleGroupMatch.require_unless, RuleGroupMatch.unsatisfied_ofGroups]
  congr 2
  · funext group
    cases group <;> simp [requires]
  · funext group
    cases group <;>
      simp only [satisfies, matchSourceAddress, matchSourcePort, matchDestinationAddress, matchDestinationPort,
        any_of_not_isEmpty, reduceCtorEq, decide_false, decide_true, Bool.and_false, Bool.and_true, Bool.or_false,
        Bool.false_or]
    -- a second hit in a satisfied group changes nothing
    all_goals grind

end AbstractDefaultRule

end SingBox
