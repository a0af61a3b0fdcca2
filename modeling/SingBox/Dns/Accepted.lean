import SingBox.Dns.RuleLegacy
import SingBox.Dns.Simulation

/-! # Rules that the validation accepts

What `validateLegacyDNSModeDisabledRules` establishes about the rules that are then built:
a rule looks at no response but those it binds, and a tag is given to one query only.
-/

open List

namespace SingBox

open Lib.Guard Options.DNSRuleAction

variable {lookup : String → Except String RuleSetMetadata} {ruleSets : String → Option RuleSet}

theorem cause_eq_ok {α : Type} {message : String} {result : Except String α} {value : α} :
    Srs.cause message result = .ok value ↔ result = .ok value := mapError_eq_ok

/-! ## Conditions -/

theorem mem_optional {α : Type} {condition : Bool} {item found : α} (mem : found ∈ optional condition item) : found = item := by
  unfold optional at mem
  split at mem
  · exact mem_singleton.mp mem
  · cases mem

theorem responseItems_eq_nil {options : Options.DefaultDNSRule} (none : options.hasResponseMatchFields = false) :
    responseItems options = [] := by
  unfold Options.DefaultDNSRule.hasResponseMatchFields at none
  simp only [Bool.or_eq_false_iff, Option.isSome_eq_false_iff, Option.isNone_iff_eq_none, Bool.not_eq_false',
    List.isEmpty_iff] at none
  obtain ⟨⟨⟨rcode, answer⟩, ns⟩, extra⟩ := none
  simp [responseItems, rcode, answer, ns, extra, optional]

variable {action : Options.DNSRuleAction} {use : DnsRuleResponseUse} {index : Nat} {options : List Options.DNSRule}
  {validation : RuleListValidation}

/-- A default rule has response items only with `match_response`, and is known to bind the
tag it matches. -/
theorem newDefaultDNSRule_binds {options : Options.DefaultDNSRule} {rule : DefaultRule}
    (validated : validateLegacyDNSModeDisabledDefaultRule lookup options action = .ok use)
    (built : newDefaultDNSRule ruleSets options = .ok rule) :
    rule.BindsResponses ∧ (Rule.default rule).matchResponseTags ⊆ use.referencedTags := by
  simp only [validateLegacyDNSModeDisabledDefaultRule, bind_eq_ok, ensure_eq_ok, pure_eq_ok] at validated
  obtain ⟨-, looks, -, -, -, -, rfl⟩ := validated
  simp only [newDefaultDNSRule, bind_eq_ok, ensure_eq_ok, pure_eq_ok] at built
  obtain ⟨-, -, -, -, setList, -, rfl⟩ := built
  constructor
  · intro disabled item mem
    have blind : options.hasResponseMatchFields = false := by
      by_contra sees
      have enabled := looks (by simp [Options.DefaultDNSRule.looksAtResponse, sees])
      exact absurd (disabled.symm.trans enabled) (by decide)
    simp only [dnsRuleItems, responseItems_eq_nil blind, append_nil, mem_append] at mem
    rcases mem with (mem | mem) | mem
    · rw [mem_optional mem]
      rfl
    · rw [mem_optional mem]
      rfl
    · exact options.items_plain item mem
  · by_cases untagged : options.matchResponse.tag = ""
    · simp [Rule.matchResponseTags, untagged]
    · simp [Rule.matchResponseTags, options.matchResponse.enabled_of_tag untagged]

theorem validateSubRules_mono {result : DnsRuleResponseUse}
    (validated : validateSubRules lookup index options use = .ok result) : use.referencedTags ⊆ result.referencedTags := by
  induction options generalizing index use with
  | nil =>
    cases validated
    exact List.Subset.refl _
  | cons option options ih =>
    simp only [validateSubRules, bind_eq_ok] at validated
    obtain ⟨subUse, -, rest⟩ := validated
    exact List.Subset.trans (subset_append_left _ _) (ih rest)

mutual
theorem newDNSRuleConditions_binds : (options : Options.DNSRule) → {use : DnsRuleResponseUse} → {rule : Rule} →
    validateLegacyDNSModeDisabledRuleTree lookup options = .ok use → newDNSRuleConditions ruleSets options = .ok rule →
      rule.Leaves DefaultRule.BindsResponses ∧ rule.matchResponseTags ⊆ use.referencedTags
  | .default options action _, use, rule, validated, built => by
    simp only [newDNSRuleConditions, bind_eq_ok, pure_eq_ok] at built
    obtain ⟨-, -, rule, built, rfl⟩ := built
    exact newDefaultDNSRule_binds validated built
  | .logical mode options invert action, use, rule, validated, built => by
    simp only [validateLegacyDNSModeDisabledRuleTree, bind_eq_ok, pure_eq_ok] at validated
    obtain ⟨subUse, validated, -, -, rfl⟩ := validated
    simp only [newDNSRuleConditions, bind_eq_ok, pure_eq_ok] at built
    obtain ⟨-, -, mode, -, rules, built, rfl⟩ := built
    obtain ⟨leaves, tags⟩ := newSubRules_binds options validated built
    refine ⟨leaves, fun tag isTag => ?_⟩
    rw [Rule.matchResponseTags, mem_eraseDups] at isTag
    have known := tags isTag
    split <;> exact known
theorem newSubRules_binds : (options : List Options.DNSRule) → {index index' : Nat} → {use result : DnsRuleResponseUse} →
    {rules : List Rule} → validateSubRules lookup index options use = .ok result →
    newSubRules ruleSets index' options = .ok rules →
      Rule.AllLeaves DefaultRule.BindsResponses rules ∧ Rule.allMatchResponseTags rules ⊆ result.referencedTags
  | [], _, _, _, _, rules, _, built => by
    cases built
    exact ⟨trivial, by simp [Rule.allMatchResponseTags]⟩
  | option :: options, _, _, use, result, rules, validated, built => by
    simp only [validateSubRules, bind_eq_ok, cause_eq_ok] at validated
    obtain ⟨subUse, validatedHere, validatedRest⟩ := validated
    simp only [newSubRules, bind_eq_ok, cause_eq_ok, pure_eq_ok] at built
    obtain ⟨-, -, rule, builtHere, rules, builtRest, rfl⟩ := built
    obtain ⟨leavesHere, tagsHere⟩ := newDNSRuleConditions_binds option validatedHere builtHere
    obtain ⟨leavesRest, tagsRest⟩ := newSubRules_binds options validatedRest builtRest
    refine ⟨⟨leavesHere, leavesRest⟩, ?_⟩
    have kept := List.Subset.trans (subset_append_right _ _) (validateSubRules_mono validatedRest)
    exact append_subset.mpr ⟨List.Subset.trans tagsHere kept, tagsRest⟩
end

/-! ## Rules -/

variable {rule : DNSRule} {noted : RuleListValidation} {rules : List DNSRule}

/-- A rule that is built has the conditions, the flags and the action of its options. -/
theorem newDNSRule_eq_ok {options : Options.DNSRule} (built : newDNSRule ruleSets options = .ok rule) :
    newDNSRuleConditions ruleSets options = .ok rule.rule ∧ rule.race = options.action.race ∧
      ∃ action, options.action.action = some action ∧ rule.action = newDNSRuleAction action := by
  unfold newDNSRule at built
  simp only [bind_eq_ok] at built
  obtain ⟨-, -, conditions, isConditions, built⟩ := built
  cases isAction : options.action.action with
  | none => simp [isAction] at built
  | some action =>
    simp only [isAction, bind_eq_ok] at built
    obtain ⟨-, -, built⟩ := built
    unfold finishDNSRule at built
    split at built
    · cases built
      exact ⟨isConditions, rfl, action, rfl, rfl⟩
    · split at built <;> cases built

theorem isRespond_of_respond {found : Options.DNSAction}
    (isAction : action.action = some found) (respond : newDNSRuleAction found = .respond) :
    action.isRespond := by
  cases found with
  | respond =>
    rw [isRespond, isAction]
    rfl
  | _ => cases respond

/-- `respond` of a logical rule reads the anonymous response, and so do its conditions. -/
theorem newDNSRule_sound {options : Options.DNSRule}
    (validated : validateLegacyDNSModeDisabledRuleTree lookup options = .ok use)
    (built : newDNSRule ruleSets options = .ok rule) : rule.Sound := by
  obtain ⟨conditions, -, action, isAction, builtAction⟩ := newDNSRule_eq_ok built
  obtain ⟨leaves, tags⟩ := newDNSRuleConditions_binds options validated conditions
  refine ⟨leaves, fun respond untagged => ?_⟩
  cases isRule : rule.rule with
  | default leaf =>
    rw [isRule] at untagged
    exact if_pos untagged
  | logical mode invert rules =>
    cases options with
    | default options action fallbackRules =>
      simp only [newDNSRuleConditions, bind_eq_ok, pure_eq_ok] at conditions
      obtain ⟨-, -, leaf, -, isLeaf⟩ := conditions
      cases isLeaf.trans isRule
    | logical mode options invert ruleAction =>
      have responds : ruleAction.isRespond := isRespond_of_respond isAction (builtAction.symm.trans respond)
      simp only [validateLegacyDNSModeDisabledRuleTree, bind_eq_ok, pure_eq_ok, ensure_eq_ok, responds, if_true,
        forall_const] at validated
      obtain ⟨subUse, -, -, none, rfl⟩ := validated
      rw [isRule] at tags
      exact subset_nil.mp (none ▸ tags)

/-! ## Lists of rules -/

theorem evaluateTag_eq {action : Options.DNSAction} {race : Bool} (built : rule.action = newDNSRuleAction action) :
    rule.evaluateTag = if evaluateTag ⟨some action, race⟩ = "" then none
      else some (evaluateTag ⟨some action, race⟩) := by
  unfold DNSRule.evaluateTag
  rw [built]
  cases action <;> rfl

theorem RuleListValidation.noteEvaluate_tags (isNoted : validation.noteEvaluate index action = .ok noted) :
    if action.evaluateTag = "" then noted.definedTags = validation.definedTags
    else action.evaluateTag ∉ validation.definedTags ∧
      noted.definedTags = validation.definedTags ++ [action.evaluateTag] := by
  unfold noteEvaluate at isNoted
  split at isNoted
  case isTrue evaluates =>
    split at isNoted
    case isTrue untagged =>
      cases isNoted
      rw [if_pos untagged]
    case isFalse tagged =>
      simp only [bind_eq_ok, ensure_eq_ok, pure_eq_ok] at isNoted
      obtain ⟨-, unused, rfl⟩ := isNoted
      rw [if_neg tagged]
      exact ⟨unused, rfl⟩
  case isFalse passes =>
    cases isNoted
    have untagged : action.evaluateTag = "" := by
      unfold isEvaluate at passes
      unfold evaluateTag
      split
      case _ isAction => simp [isAction, Options.DNSAction.isEvaluate] at passes
      case _ => rfl
    rw [if_pos untagged]

theorem RuleListValidation.noteUse_tags (isNoted : validation.noteUse index use = .ok noted) :
    noted.definedTags = validation.definedTags := by
  unfold noteUse at isNoted
  simp only [bind_eq_ok, ensure_eq_ok] at isNoted
  obtain ⟨-, -, isNoted⟩ := isNoted
  split at isNoted
  · cases isNoted
  · cases isNoted
    rfl

/-- The invariant of the loop: the tags that are still to come are not defined yet. -/
theorem accepted_from {index' : Nat}
    {result : RuleListValidation} (validated : validateRulesFrom lookup index options validation = .ok result)
    (built : newDNSRules ruleSets index' options = .ok rules) :
    (∀ rule ∈ rules, rule.Sound) ∧ (rules.filterMap DNSRule.evaluateTag).Nodup ∧
      ∀ tag ∈ rules.filterMap DNSRule.evaluateTag, tag ∉ validation.definedTags := by
  induction options generalizing index index' rules validation with
  | nil =>
    cases built
    simp
  | cons option options ih =>
    simp only [validateRulesFrom, bind_eq_ok, cause_eq_ok] at validated
    obtain ⟨use, validatedHere, used, isUsed, noted, isNoted, validatedRest⟩ := validated
    simp only [newDNSRules, bind_eq_ok, cause_eq_ok, pure_eq_ok] at built
    obtain ⟨rule, builtHere, rules, builtRest, rfl⟩ := built
    obtain ⟨sound, unique, ahead⟩ := ih validatedRest builtRest
    have soundHere := newDNSRule_sound validatedHere builtHere
    obtain ⟨-, -, action, isAction, builtAction⟩ := newDNSRule_eq_ok builtHere
    have tags := RuleListValidation.noteEvaluate_tags isNoted
    have before : used.definedTags = (validation.noteSpeculative index option.action).definedTags :=
      RuleListValidation.noteUse_tags isUsed
    have isTag := @evaluateTag_eq rule action option.action.race builtAction
    have whole : (⟨some action, option.action.race⟩ : Options.DNSRuleAction) = option.action := by rw [← isAction]
    rw [whole] at isTag
    refine ⟨forall_mem_cons.mpr ⟨soundHere, sound⟩, ?_⟩
    rw [before] at tags
    rw [filterMap_cons, isTag]
    by_cases untagged : option.action.evaluateTag = ""
    · rw [if_pos untagged] at tags ⊢
      exact ⟨unique, tags ▸ ahead⟩
    · rw [if_neg untagged] at tags ⊢
      obtain ⟨unused, defined⟩ := tags
      rw [defined] at ahead
      refine ⟨nodup_cons.mpr ⟨fun again => ahead _ again (by simp), unique⟩, forall_mem_cons.mpr ⟨unused, ?_⟩⟩
      intro tag isLater known
      exact ahead tag isLater (mem_append_left _ known)

theorem acceptedRules_of_validated {warnings : List String}
    (validated : validateLegacyDNSModeDisabledRules lookup options = .ok warnings)
    (built : newDNSRules ruleSets 0 options = .ok rules) : AcceptedRules rules := by
  simp only [validateLegacyDNSModeDisabledRules, bind_eq_ok] at validated
  obtain ⟨validation, validated, -⟩ := validated
  obtain ⟨sound, unique, -⟩ := accepted_from validated built
  exact ⟨sound, unique⟩

end SingBox
