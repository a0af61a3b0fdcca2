import SingBox.Lib.Kleene
import SingBox.Rule.Groups

/-! # Rules as three-valued formulas

A match leaves two traces: its answer, and the mask of groups it deferred. Taken
together they are one of three verdicts, where a match that deferred something is
`unknown`. This module gives every rule its verdict as a function, with no state
to pass on, and shows that the code computes it (`Rule.match_decides`).
-/

open List Bool

namespace SingBox

open Lib.Mask Lib.Kleene AbstractDefaultRule InboundContext AbstractLogicalRule RuleGroupMatch Verdict

variable {matcher : Matcher} {metadata final : InboundContext}

/-! ## The mask of deferred groups -/

variable (deferred : Bool)

/-- Only the destination is ever deferred. -/
def destinationMask : UInt8 := if deferred then Group.destinationAddress.state else 0

@[simp] theorem destinationMask_false : destinationMask false = 0 := rfl

theorem destinationMask_eq_zero : (destinationMask deferred == 0) = !deferred := by
  cases deferred <;> decide

theorem destinationMask_or (first second : Bool) :
    destinationMask first ||| destinationMask second = destinationMask (first || second) := by
  cases first <;> cases second <;> decide

theorem destinationMask_and_not (groups : Group → Bool) :
    destinationMask deferred &&& ~~~groupMask groups = destinationMask (deferred && !groups .destinationAddress) := by
  have single : ∀ value, destinationMask value = groupMask fun group => value && decide (group = .destinationAddress) := by
    decide
  rw [single, single, groupMask_and_not]
  congr 1
  funext group
  cases group <;> simp

namespace InboundContext

/-- Nothing is deferred. -/
abbrev Rested (metadata : InboundContext) : Prop := metadata.deferredIPCIDRMatchGroups = 0

/-- Destination addresses are looked at. -/
abbrev Evaluated (metadata : InboundContext) : Prop := metadata.ignoreDestinationIPCIDRMatch = false

def withDeferred (metadata : InboundContext) (deferred : Bool) : InboundContext :=
  { metadata with deferredIPCIDRMatchGroups := destinationMask deferred }

variable (metadata : InboundContext) (deferred : Bool)

@[simp] theorem withDeferred_deferred :
    (metadata.withDeferred deferred).deferredIPCIDRMatchGroups = destinationMask deferred := rfl

@[simp] theorem resetRuleCache_withDeferred :
    (metadata.withDeferred deferred).resetRuleCache = metadata.resetRuleCache := rfl

@[simp] theorem resetRuleMatchCache_withDeferred :
    (metadata.withDeferred deferred).resetRuleMatchCache = metadata.resetRuleMatchCache := rfl

@[simp] theorem prepareNestedMatch_withDeferred (item : RuleSetItem) :
    item.prepareNestedMatch (metadata.withDeferred deferred) = item.prepareNestedMatch metadata := rfl

theorem withDeferred_false (rested : metadata.Rested) :
    metadata.withDeferred false = metadata := by
  rw [withDeferred, destinationMask_false, ← rested]

theorem defer_withDeferred (other : Bool) :
    (metadata.withDeferred deferred).defer (destinationMask other) = metadata.withDeferred (deferred || other) := by
  simp [defer, withDeferred, destinationMask_or]

theorem settle_withDeferred (groups : Group → Bool) :
    (metadata.withDeferred deferred).settle (groupMask groups) =
      metadata.withDeferred (deferred && !groups .destinationAddress) := by
  simp [settle, withDeferred, destinationMask_and_not]

end InboundContext

theorem RuleItem.match_withDeferred (env : Environment) (item : RuleItem) (metadata : InboundContext)
    (deferred : Bool) : item.match env (metadata.withDeferred deferred) = item.match env metadata := by
  cases item <;> rfl

/-! ## Verdicts of matchers -/

/-- On this metadata the matcher answers the verdict and changes nothing but the
mask of deferred groups, which is empty unless destinations are ignored. -/
def Decides (matcher : Matcher) (metadata : InboundContext) (verdict : Verdict) : Prop :=
  ∃ deferred : Bool, matcher metadata = (verdict.possible, metadata.withDeferred deferred) ∧
    (verdict ≠ .no → deferred = decide (verdict = .unknown)) ∧
    (metadata.Evaluated → deferred = false)

theorem Decides.possible_eq {verdict : Verdict}
    (decides : Decides matcher metadata verdict) : (matcher metadata).1 = verdict.possible := by
  obtain ⟨deferred, result, -, -⟩ := decides
  rw [result]

theorem Decides.eq_yes_iff {verdict : Verdict} (decides : Decides matcher metadata verdict) :
    verdict = .yes ↔ (matcher metadata).1 ∧ (matcher metadata).2.deferredIPCIDRMatchGroups = 0 := by
  obtain ⟨deferred, result, known, -⟩ := decides
  rw [result]
  cases verdict with
  | no => simp
  | yes => simp [show deferred = false by simpa using known]
  | unknown =>
    obtain rfl : deferred := by simpa using known
    have isOpen : destinationMask true ≠ 0 := by decide
    simp [isOpen]

theorem Decides.ne_unknown {verdict : Verdict}
    (decides : Decides matcher metadata verdict) (evaluated : metadata.Evaluated) :
    verdict ≠ .unknown := by
  rintro rfl
  obtain ⟨deferred, -, known, clean⟩ := decides
  have isDeferred := known (by decide)
  rw [clean evaluated] at isDeferred
  exact absurd isDeferred (by decide)

/-! ## Logical rules -/

variable (mode : LogicalMode)

def logicalVerdict (invert : Bool) (verdicts : List Verdict) : Verdict :=
  let verdict := match mode with
    | .and => Verdict.all verdicts
    | .or => Verdict.any verdicts
  if invert then verdict.not else verdict

section Loops

variable {α : Type} {matcher : α → Matcher} {verdict : α → Verdict} {base : InboundContext}

/-- A verdict as the loops return it: whether the rules matched, and the groups
deferred. -/
def outcome (verdict : Verdict) : Bool × UInt8 := (verdict.possible, destinationMask (verdict = .unknown))

/-- The verdict of an `and` loop that has seen matches only. -/
def soFar (deferred : Bool) : Verdict := if deferred then .unknown else .yes

theorem soFar_and_unknown (deferred : Bool) (verdict : Verdict) :
    (soFar deferred).and (unknown.and verdict) = (soFar true).and verdict := by
  cases deferred <;> cases verdict <;> rfl

variable (rules : List α)

theorem matchAll_decides (decides : ∀ rule ∈ rules, Decides (matcher rule) base (verdict rule))
    (deferred : Bool) (metadata : InboundContext) (same : metadata.resetRuleCache = base) :
    ∃ final, final.resetRuleCache = base ∧
      matchAll (rules.map matcher) (destinationMask deferred) metadata =
        (outcome ((soFar deferred).and (Verdict.all (rules.map verdict))), final) := by
  induction rules generalizing deferred metadata with
  | nil =>
    refine ⟨metadata, same, ?_⟩
    cases deferred <;> rfl
  | cons rule rules ih =>
    obtain ⟨left, result, known, -⟩ := decides rule (by simp)
    have rested : (base.withDeferred left).resetRuleCache = base := by
      rw [resetRuleCache_withDeferred, ← same]; rfl
    have next := ih fun other member => decides other (by simp [member])
    simp only [map_cons, matchAll, same, result, Verdict.all_cons]
    cases ruleVerdict : verdict rule with
    | no =>
      refine ⟨base.withDeferred left, rested, ?_⟩
      cases deferred <;> rfl
    | yes =>
      obtain rfl : left = false := by simpa [ruleVerdict] using known
      simpa using next deferred _ rested
    | unknown =>
      obtain rfl : left := by simpa [ruleVerdict] using known
      rw [soFar_and_unknown]
      simpa [destinationMask_or] using next true _ rested

/-- The verdict of an `or` loop whose matches have all been deferred. -/
def pendingSoFar (matched : Bool) : Verdict := if matched then .unknown else .no

theorem pendingSoFar_or_unknown (matched : Bool) (verdict : Verdict) :
    (pendingSoFar matched).or (unknown.or verdict) = (pendingSoFar true).or verdict := by
  cases matched <;> cases verdict <;> rfl

theorem matchAny_decides (decides : ∀ rule ∈ rules, Decides (matcher rule) base (verdict rule))
    (matched : Bool) (metadata : InboundContext) (same : metadata.resetRuleCache = base) :
    ∃ final, final.resetRuleCache = base ∧
      matchAny (rules.map matcher) matched (destinationMask matched) metadata =
        (outcome ((pendingSoFar matched).or (Verdict.any (rules.map verdict))), final) := by
  induction rules generalizing matched metadata with
  | nil =>
    refine ⟨metadata, same, ?_⟩
    cases matched <;> rfl
  | cons rule rules ih =>
    obtain ⟨left, result, known, -⟩ := decides rule (by simp)
    have rested : (base.withDeferred left).resetRuleCache = base := by
      rw [resetRuleCache_withDeferred, ← same]; rfl
    have next := ih fun other member => decides other (by simp [member])
    simp only [map_cons, matchAny, same, result, Verdict.any_cons]
    cases ruleVerdict : verdict rule with
    | no => simpa using next matched _ rested
    | yes =>
      obtain rfl : left = false := by simpa [ruleVerdict] using known
      refine ⟨base.withDeferred false, rested, ?_⟩
      cases matched <;> rfl
    | unknown =>
      obtain rfl : left := by simpa [ruleVerdict] using known
      rw [pendingSoFar_or_unknown]
      simpa [destinationMask_or, destinationMask_eq_zero] using next true _ rested

theorem restore_of_same (same : final.resetRuleCache = metadata.resetRuleCache) :
    (snapshotRuleMatch metadata).restore final = metadata := by
  -- `restore` overwrites what `resetRuleCache` clears
  change (snapshotRuleMatch metadata).restore final.resetRuleCache = metadata
  rw [same]
  rfl

/-- A loop that is over hands its verdict to the metadata it started from. -/
theorem decides_outcome {invert : Bool} {verdict : Verdict} {metadata : InboundContext} (rested : metadata.Rested)
    (known : metadata.Evaluated → verdict ≠ .unknown) {matcher : Matcher} (result : matcher metadata =
      (if invert then !(outcome verdict).1 || (outcome verdict).2 != 0 else (outcome verdict).1,
        if (outcome verdict).1 then metadata.defer (outcome verdict).2 else metadata)) :
    Decides matcher metadata (if invert then verdict.not else verdict) := by
  have start := metadata.withDeferred_false rested
  refine ⟨verdict = .unknown, ?_, ?_, fun evaluated => by simpa using known evaluated⟩
  · rw [result]
    nth_rewrite 1 2 [← start]
    rw [outcome, defer_withDeferred]
    cases verdict <;> cases invert <;> rfl
  · cases verdict <;> cases invert <;> simp

theorem logicalRule_decides (invert : Bool) {rules : List α} {metadata : InboundContext} (rested : metadata.Rested)
    (decides : ∀ rule ∈ rules, Decides (matcher rule) metadata.resetRuleCache (verdict rule)) :
    Decides (AbstractLogicalRule.match mode invert (rules.map matcher)) metadata
      (logicalVerdict mode invert (rules.map verdict)) := by
  have known : metadata.Evaluated →
      ∀ childVerdict ∈ rules.map verdict, childVerdict ≠ .unknown :=
    fun evaluated => forall_mem_map.mpr fun rule member => (decides rule member).ne_unknown evaluated
  cases mode with
  | and =>
    obtain ⟨final, same, result⟩ := matchAll_decides rules decides false metadata rfl
    refine decides_outcome rested (fun evaluated => all_ne_unknown (known evaluated)) ?_
    simp only [AbstractLogicalRule.match, ← destinationMask_false, result, restore_of_same same]
    rfl
  | or =>
    obtain ⟨final, same, result⟩ := matchAny_decides rules decides false metadata rfl
    refine decides_outcome rested (fun evaluated => any_ne_unknown (known evaluated)) ?_
    simp only [AbstractLogicalRule.match, ← destinationMask_false, result, restore_of_same same]
    rfl

theorem matchAnyHeadlessRuleLoop_decides {start : InboundContext} (rested : start.Rested)
    (rules : List α) (decides : ∀ rule ∈ rules, Decides (matcher rule) start (verdict rule))
    (matched : Bool) (metadata : InboundContext) (same : metadata.resetRuleMatchCache = start) :
    matchAnyHeadlessRuleLoop (snapshotRuleMatch start) (rules.map matcher) matched (destinationMask matched)
        metadata =
      (let verdict := (pendingSoFar matched).or (Verdict.any (rules.map verdict))
      (verdict.possible, start.withDeferred (verdict = .unknown))) := by
  have restored : ∀ final : InboundContext, final.resetRuleMatchCache = start →
      (snapshotRuleMatch start).restore final = start := by
    intro final finalSame
    change (snapshotRuleMatch start).restore final.resetRuleMatchCache = start
    rw [finalSame]
    rfl
  induction rules generalizing matched metadata with
  | nil =>
    rw [map_nil, matchAnyHeadlessRuleLoop, restored metadata same]
    nth_rewrite 1 2 [← start.withDeferred_false rested]
    rw [defer_withDeferred]
    cases matched <;> rfl
  | cons rule rules ih =>
    obtain ⟨left, result, known, -⟩ := decides rule (by simp)
    have nextSame : (start.withDeferred left).resetRuleMatchCache = start := by
      rw [resetRuleMatchCache_withDeferred, ← same]; rfl
    have next := ih fun other member => decides other (by simp [member])
    simp only [map_cons, matchAnyHeadlessRuleLoop, same, result, Verdict.any_cons]
    cases ruleVerdict : verdict rule with
    | no => exact next matched _ nextSame
    | yes =>
      obtain rfl : left = false := by simpa [ruleVerdict] using known
      rw [restored _ nextSame, ← start.withDeferred_false rested]
      cases matched <;> rfl
    | unknown =>
      obtain rfl : left := by simpa [ruleVerdict] using known
      rw [pendingSoFar_or_unknown]
      simpa [destinationMask_or, destinationMask_eq_zero] using next true _ nextSame

theorem matchAnyHeadlessRule_decides {rules : List α} {metadata : InboundContext} (rested : metadata.Rested)
    (decides : ∀ rule ∈ rules, Decides (matcher rule) metadata (verdict rule)) :
    Decides (matchAnyHeadlessRule (rules.map matcher)) metadata (any (rules.map verdict)) := by
  have same : metadata.resetRuleMatchCache = metadata := metadata.withDeferred_false rested
  have result := matchAnyHeadlessRuleLoop_decides rested rules decides false metadata same
  refine ⟨_, result, fun _ => rfl, fun evaluated => ?_⟩
  have known : ∀ childVerdict ∈ rules.map verdict, childVerdict ≠ .unknown :=
    forall_mem_map.mpr fun rule member => (decides rule member).ne_unknown evaluated
  simpa [pendingSoFar] using any_ne_unknown known

end Loops

/-! ## Default rules -/

/-- What one rule set that a rule refers to says of it. A branch that has settled
tells whether it did so with the destination satisfied. -/
inductive Branch where
  | miss
  | settled (destination : Bool)
  | pending
deriving DecidableEq, Repr

/-- The loop over the branches of a rule that has or has not `deferred` its own
destination: whether the rule matches, and whether the destination is open. -/
def Branch.collect (deferred : Bool) : List Branch → Bool → Bool × Bool
  | [], matched => (matched, deferred || matched)
  | .miss :: branches, matched => collect deferred branches matched
  | .pending :: branches, _ => collect deferred branches true
  | .settled destination :: _, _ => (true, deferred && !destination)

theorem Branch.collect_closed (branches : List Branch) (noPending : .pending ∉ branches) :
    (collect false branches false).2 = false := by
  induction branches with
  | nil => rfl
  | cons branch branches ih =>
    cases branch with
    | miss => exact ih fun mem => noPending (by simp [mem])
    | pending => simp at noPending
    | settled destination => simp [collect]

variable {ruleSet : Option (RuleGroupMatch → Matcher)} {rule : DefaultHeadlessRule}

namespace AbstractDefaultRule

variable (env : Environment) (rule : AbstractDefaultRule) (metadata : InboundContext)

/-- The groups as `evaluateGroups` returns them. -/
def groups : RuleGroupMatch := .ofGroups (rule.requires metadata) (rule.satisfies env metadata)

def innerVerdict (branches : List Branch) : Verdict :=
  if rule.matchItems env metadata then
    let collected := Branch.collect (rule.defersDestination metadata) branches false
    if collected.1 then
      if collected.2 && !rule.satisfies env metadata .destinationAddress then .unknown else .yes
    else .no
  else .no

/-- A rule without rule sets has the one branch of its own groups. -/
def ownBranch : Branch := if (rule.groups env metadata).done then .settled false else .miss

def verdict (ruleSets : Option (List Branch)) : Verdict :=
  if rule.noItems && ruleSets.isNone then .yes
  else
    let inner := rule.innerVerdict env metadata (ruleSets.getD [rule.ownBranch env metadata])
    if rule.invert then inner.not else inner

variable {env rule metadata}

theorem matchItems_withDeferred (deferred : Bool) :
    rule.matchItems env (metadata.withDeferred deferred) = rule.matchItems env metadata := by
  simp [matchItems, RuleItem.match_withDeferred]

/-- The branches say what the code of the rule sets does, whatever the rule itself
has deferred. -/
def BranchesOf (env : Environment) (rule : AbstractDefaultRule) (metadata : InboundContext)
    (ruleSet : Option (RuleGroupMatch → Matcher)) (branches : List Branch) : Prop :=
  ∀ deferred : Bool, matchRuleSets ruleSet (rule.groups env metadata) (metadata.withDeferred deferred) =
    ((Branch.collect deferred branches false).1, metadata.withDeferred (Branch.collect deferred branches false).2)

section
variable (rested : metadata.Rested)
include rested

theorem evaluateGroups_rested :
    rule.evaluateGroups env metadata =
      (rule.groups env metadata, metadata.withDeferred (rule.defersDestination metadata)) := by
  rw [evaluateGroups_eq, groups]
  congr 1
  split
  next deferred => rw [deferred, defer, rested]; rfl
  next evaluated => rw [eq_false_iff.mpr evaluated, metadata.withDeferred_false rested]

theorem matchInner_decides {branches : List Branch} (branchesOf : BranchesOf env rule metadata ruleSet branches)
    (evaluates : metadata.Evaluated → .pending ∉ branches) :
    Decides (rule.matchInner env ruleSet) metadata (rule.innerVerdict env metadata branches) := by
  have noDefer : metadata.Evaluated → rule.defersDestination metadata = false := by
    intro evaluated
    simp [defersDestination, evaluated]
  unfold Decides matchInner innerVerdict
  simp only [evaluateGroups_rested rested, matchItems_withDeferred, branchesOf _]
  cases rule.matchItems env metadata with
  | false => exact ⟨_, rfl, by simp, noDefer⟩
  | true =>
    have closed : metadata.Evaluated →
        (Branch.collect (rule.defersDestination metadata) branches false).2 = false := by
      intro evaluated
      rw [noDefer evaluated, Branch.collect_closed branches (evaluates evaluated)]
    cases collected : Branch.collect (rule.defersDestination metadata) branches false with
    | mk matched deferred =>
      rw [collected] at closed
      cases matched with
      | false => exact ⟨deferred, rfl, by simp, closed⟩
      | true =>
        simp only [if_true, groups, ofGroups, settle_withDeferred]
        refine ⟨deferred && !rule.satisfies env metadata .destinationAddress, ?_, fun _ => ?_, ?_⟩
        · split <;> rfl
        · split <;> simp_all
        · intro evaluated
          rw [show deferred = false from closed evaluated, Bool.false_and]

theorem match_decides {ruleSets : Option (List Branch)} (same : ruleSet.isNone = ruleSets.isNone)
    (branchesOf : BranchesOf env rule metadata ruleSet (ruleSets.getD [rule.ownBranch env metadata]))
    (evaluates : metadata.Evaluated →
      .pending ∉ ruleSets.getD [rule.ownBranch env metadata]) :
    Decides (rule.match env ruleSet) metadata (rule.verdict env metadata ruleSets) := by
  obtain ⟨deferred, result, known, clean⟩ := matchInner_decides rested branchesOf evaluates
  unfold Decides AbstractDefaultRule.match verdict
  simp only [result, same]
  split
  · exact ⟨false, by rw [metadata.withDeferred_false rested]; rfl, by simp, by simp⟩
  · cases innerVerdict : rule.innerVerdict env metadata (ruleSets.getD [rule.ownBranch env metadata]) with
    | no =>
      cases rule.invert
      · exact ⟨deferred, rfl, by simp, clean⟩
      · exact ⟨false, rfl, by simp, by simp⟩
    | yes =>
      obtain rfl : deferred = false := by simpa [innerVerdict] using known
      cases rule.invert
      · exact ⟨false, rfl, by simp, by simp⟩
      · exact ⟨false, rfl, by simp, by simp⟩
    | unknown =>
      obtain rfl : deferred := by simpa [innerVerdict] using known
      cases rule.invert
      · exact ⟨true, rfl, by simp, clean⟩
      · exact ⟨true, rfl, by simp, clean⟩

end

theorem branchesOf_none : BranchesOf env rule metadata none [rule.ownBranch env metadata] := by
  intro deferred
  simp only [ownBranch, matchRuleSets]
  cases (rule.groups env metadata).done <;> cases deferred <;> rfl

end AbstractDefaultRule

/-! ## Headless rules and rule sets -/

/-- Induction over a headless rule, with the hypothesis for every child. -/
@[elab_as_elim] theorem HeadlessRule.induction {motive : HeadlessRule → Prop} (default : ∀ rule, motive (.default rule))
    (logical : ∀ mode invert rules, (∀ rule ∈ rules, motive rule) → motive (.logical mode invert rules))
    (rule : HeadlessRule) : motive rule := by
  refine @HeadlessRule.rec motive (fun rules => ∀ rule ∈ rules, motive rule) default logical nofun ?_ rule
  exact fun _ _ headHolds tailHolds => forall_mem_cons.mpr ⟨headHolds, tailHolds⟩

mutual
def HeadlessRule.verdict (env : Environment) : HeadlessRule → InboundContext → Verdict
  | .default rule, metadata => rule.toAbstractDefaultRule.verdict env metadata none
  | .logical mode invert rules, metadata =>
    logicalVerdict mode invert (HeadlessRule.verdicts env rules metadata.resetRuleCache)
def HeadlessRule.verdicts (env : Environment) : List HeadlessRule → InboundContext → List Verdict
  | [], _ => []
  | rule :: rules, metadata => rule.verdict env metadata :: HeadlessRule.verdicts env rules metadata
end

section
variable (env : Environment)
include env

variable (rules : List HeadlessRule)

theorem HeadlessRule.matchers_eq_map :
    HeadlessRule.matchers env rules = rules.map (HeadlessRule.match env) := by
  induction rules with
  | nil => rfl
  | cons rule rules ih => rw [matchers, ih, map_cons]

theorem HeadlessRule.verdicts_eq_map (metadata : InboundContext) :
    HeadlessRule.verdicts env rules metadata = rules.map fun rule => rule.verdict env metadata := by
  induction rules with
  | nil => rfl
  | cons rule rules ih => rw [verdicts, ih, map_cons]

theorem AbstractDefaultRule.pending_notMem_ownBranch (rule : AbstractDefaultRule)
    (metadata : InboundContext) : .pending ∉ [rule.ownBranch env metadata] := by
  simp only [ownBranch, mem_singleton]
  split <;> simp

theorem HeadlessRule.match_decides (rule : HeadlessRule) (metadata : InboundContext) (rested : metadata.Rested) :
    Decides (rule.match env) metadata (rule.verdict env metadata) := by
  induction rule using HeadlessRule.induction generalizing metadata with
  | default rule =>
    exact AbstractDefaultRule.match_decides rested rfl AbstractDefaultRule.branchesOf_none
      fun _ => AbstractDefaultRule.pending_notMem_ownBranch env _ metadata
  | logical mode invert rules ih =>
    rw [HeadlessRule.match, verdict, matchers_eq_map, verdicts_eq_map]
    exact logicalRule_decides mode invert rested
      fun rule mem => ih rule mem metadata.resetRuleCache rfl

end

namespace RuleSet

def verdict (env : Environment) (ruleSet : RuleSet) (metadata : InboundContext) : Verdict :=
  Verdict.any (ruleSet.rules.map fun rule => rule.verdict env metadata)

theorem match_decides (env : Environment) (ruleSet : RuleSet) (metadata : InboundContext) (rested : metadata.Rested) :
    Decides (ruleSet.match env) metadata (ruleSet.verdict env metadata) :=
  matchAnyHeadlessRule_decides rested
    fun rule _ => rule.match_decides env metadata rested

end RuleSet

namespace RuleSetItem

variable (env : Environment) (item : RuleSetItem) (required satisfied : Group → Bool) (metadata : InboundContext)

/-- One turn of the loop in `matchWithOuterGroups`: a rule set that is one plain
rule is merged into the groups of the outer rule, any other one is a condition
of its own beside them. -/
def branch (ruleSet : RuleSet) : Branch :=
  let nested := item.prepareNestedMatch metadata
  let outerGroups := RuleGroupMatch.ofGroups required satisfied
  match ruleSet.mergeableRule with
  | some rule =>
    if rule.matchItems env nested && (outerGroups.mergeWith (rule.groups env nested)).done then
      let destination := satisfied .destinationAddress || rule.satisfies env nested .destinationAddress
      if rule.defersDestination nested && !destination then .pending else .settled destination
    else .miss
  | none =>
    if outerGroups.done then
      match ruleSet.verdict env nested with
      | .no => .miss
      | .yes => .settled false
      | .unknown => .pending
    else .miss

variable {env item required satisfied metadata}

section BranchCases

variable {ruleSet : RuleSet}

/-- Each group required on either side is satisfied on one of them. -/
def MergedHold (rule : DefaultHeadlessRule) (env : Environment) (nested : InboundContext)
    (required satisfied : Group → Bool) : Prop :=
  ∀ group, required group ∨ rule.requires nested group →
    satisfied group ∨ rule.satisfies env nested group

theorem merged_done (rule : DefaultHeadlessRule) (nested : InboundContext) :
    ((ofGroups required satisfied).mergeWith (rule.groups env nested)).done ↔
      MergedHold rule env nested required satisfied := by
  rw [groups, mergeWith_ofGroups, done_ofGroups]
  simp only [or_eq_true]
  rfl

section
variable (mergeable : ruleSet.mergeableRule = some rule)
include mergeable

theorem branch_merged_ne_miss :
    item.branch env required satisfied metadata ruleSet ≠ .miss ↔
      rule.matchItems env (item.prepareNestedMatch metadata) ∧
        MergedHold rule env (item.prepareNestedMatch metadata) required satisfied := by
  rw [← merged_done, ← and_eq_true]
  simp only [branch, mergeable]
  split
  next holds => rw [holds]; split <;> simp
  next fails => simpa using fails

theorem branch_merged_settled
    {destination : Bool} (settled : item.branch env required satisfied metadata ruleSet = .settled destination) :
    destination = (satisfied .destinationAddress ||
        rule.satisfies env (item.prepareNestedMatch metadata) .destinationAddress) ∧
      (rule.defersDestination (item.prepareNestedMatch metadata) → destination) := by
  simp only [branch, mergeable] at settled
  split at settled
  · split at settled
    · cases settled
    next notPending =>
      cases settled
      refine ⟨rfl, fun deferred => ?_⟩
      rwa [deferred, Bool.true_and, Bool.not_eq_true, Bool.not_eq_false'] at notPending
  · cases settled

theorem branch_merged_pending (pending : item.branch env required satisfied metadata ruleSet = .pending) :
    satisfied .destinationAddress = false := by
  simp only [branch, mergeable] at pending
  split at pending
  · split at pending
    next isOpen =>
      simp only [and_eq_true, not_eq_true', or_eq_false_iff] at isOpen
      exact isOpen.2.1
    · cases pending
  · cases pending

end

section
variable (mergeable : ruleSet.mergeableRule = none)
include mergeable

theorem branch_alone_ne_miss :
    item.branch env required satisfied metadata ruleSet ≠ .miss ↔
      (∀ group, required group → satisfied group) ∧
        (ruleSet.verdict env (item.prepareNestedMatch metadata)).possible := by
  rw [← done_ofGroups]
  simp only [branch, mergeable]
  split
  next done => rw [done]; cases ruleSet.verdict env (item.prepareNestedMatch metadata) <;> simp
  next undone => simp [undone]

theorem branch_alone_settled (destination : Bool) :
    item.branch env required satisfied metadata ruleSet = .settled destination ↔
      (∀ group, required group → satisfied group) ∧
        ruleSet.verdict env (item.prepareNestedMatch metadata) = .yes ∧ destination = false := by
  rw [← done_ofGroups]
  simp only [branch, mergeable]
  split
  next done => rw [done]; cases ruleSet.verdict env (item.prepareNestedMatch metadata) <;> simp
  next undone => simp [undone]

theorem branch_alone_pending :
    item.branch env required satisfied metadata ruleSet = .pending ↔
      (∀ group, required group → satisfied group) ∧
        ruleSet.verdict env (item.prepareNestedMatch metadata) = .unknown := by
  rw [← done_ofGroups]
  simp only [branch, mergeable]
  split
  next done => rw [done]; cases ruleSet.verdict env (item.prepareNestedMatch metadata) <;> simp
  next undone => simp [undone]

end

end BranchCases

theorem prepareNestedMatch_idem :
    item.prepareNestedMatch (item.prepareNestedMatch metadata) = item.prepareNestedMatch metadata := by
  simp [prepareNestedMatch, resetRuleMatchCache]

theorem restore_of_nested (same : item.prepareNestedMatch final = item.prepareNestedMatch metadata) :
    (snapshotRuleMatch metadata).restore final = metadata := by
  -- `restore` overwrites what `prepareNestedMatch` sets
  change (snapshotRuleMatch metadata).restore (item.prepareNestedMatch final) = metadata
  rw [same]
  rfl

theorem matchWithOuterGroupsLoop_eq (deferred : Bool) (ruleSets : List RuleSet) (matched : Bool)
    (current : InboundContext) (same : item.prepareNestedMatch current = item.prepareNestedMatch metadata) :
    matchWithOuterGroupsLoop env item (.ofGroups required satisfied)
        (snapshotRuleMatch (metadata.withDeferred deferred)) ruleSets matched (destinationMask matched) current =
      (let collected := Branch.collect deferred
        (ruleSets.map (item.branch env required satisfied metadata)) matched
      (collected.1, metadata.withDeferred collected.2)) := by
  induction ruleSets generalizing matched current with
  | nil =>
    have restored : (snapshotRuleMatch (metadata.withDeferred deferred)).restore current =
        metadata.withDeferred deferred := restore_of_nested same
    simp only [matchWithOuterGroupsLoop, restored, defer_withDeferred]
    cases matched
    · simp [Branch.collect]
    · simp [Branch.collect]
  | cons ruleSet ruleSets ih =>
    have nestedRested : (item.prepareNestedMatch metadata).Rested := rfl
    have nextSame : ∀ left, item.prepareNestedMatch ((item.prepareNestedMatch metadata).withDeferred left) =
        item.prepareNestedMatch metadata := by
      intro left
      rw [prepareNestedMatch_withDeferred, prepareNestedMatch_idem]
    have next := fun matched left => ih matched _ (nextSame left)
    have restored : ∀ left, (snapshotRuleMatch (metadata.withDeferred deferred)).restore
        ((item.prepareNestedMatch metadata).withDeferred left) = metadata.withDeferred deferred :=
      fun left => restore_of_nested (nextSame left)
    simp only [matchWithOuterGroupsLoop, same, map_cons]
    cases mergeable : ruleSet.mergeableRule with
    | some rule =>
      simp only [branch, mergeable, evaluateForMerge,
        evaluateGroups_rested nestedRested, matchItems_withDeferred]
      cases rule.matchItems env (item.prepareNestedMatch metadata) with
      | false => exact next matched _
      | true =>
        simp only [if_true, groups, mergeWith_ofGroups, Bool.true_and]
        split
        · -- the branch's own deferral falls with the destination of the merged groups
          simp only [ofGroups, withDeferred_deferred, destinationMask_and_not,
            destinationMask_eq_zero, restored, settle_withDeferred]
          cases rule.defersDestination (item.prepareNestedMatch metadata) &&
              !(satisfied .destinationAddress ||
                rule.satisfies env (item.prepareNestedMatch metadata) .destinationAddress) with
          | false => rfl
          | true =>
            rw [destinationMask_or, Bool.or_true]
            exact next true _
        · exact next matched _
    | none =>
      obtain ⟨left, result, known, -⟩ := ruleSet.match_decides env _ nestedRested
      simp only [branch, mergeable, result]
      split
      · cases ruleSetVerdict : ruleSet.verdict env (item.prepareNestedMatch metadata) with
        | no => exact next matched left
        | yes =>
          obtain rfl : left = false := by simpa [ruleSetVerdict] using known
          simp only [restored]
          cases deferred <;> rfl
        | unknown =>
          obtain rfl : left := by simpa [ruleSetVerdict] using known
          rw [withDeferred_deferred, destinationMask_or, Bool.or_true]
          exact next true true
      · exact ih matched _ prepareNestedMatch_idem

theorem pending_notMem_branches (evaluated : metadata.Evaluated) (ruleSets : List RuleSet) :
    .pending ∉ ruleSets.map (item.branch env required satisfied metadata) := by
  intro mem
  obtain ⟨ruleSet, -, isPending⟩ := mem_map.mp mem
  have nestedEvaluated : (item.prepareNestedMatch metadata).Evaluated := evaluated
  simp only [branch] at isPending
  split at isPending
  next rule _ =>
    have noDefer : rule.defersDestination (item.prepareNestedMatch metadata) = false := by
      simp [defersDestination, nestedEvaluated]
    simp only [noDefer, Bool.false_and, Bool.false_eq_true, if_false] at isPending
    split at isPending <;> cases isPending
  next =>
    have known := (ruleSet.match_decides env (item.prepareNestedMatch metadata) rfl).ne_unknown nestedEvaluated
    split at isPending
    · split at isPending
      · cases isPending
      · cases isPending
      next isUnknown => exact known isUnknown
    · cases isPending

end RuleSetItem

/-! ## Route and DNS rules -/

namespace DefaultRule

variable (env : Environment) (rule : DefaultRule) (metadata : InboundContext)

/-- The branches of the rule sets the rule refers to. -/
def branches (item : RuleSetItem) : List Branch :=
  item.setList.map (item.branch env (rule.requires metadata) (rule.satisfies env metadata) metadata)

def abstractVerdict : Verdict :=
  rule.toAbstractDefaultRule.verdict env metadata (rule.ruleSetItem.map (rule.branches env metadata))

def verdict : Verdict :=
  if rule.matchResponse then
    match rule.matchedResponse metadata with
    | none => .ofBool rule.invert
    | some response => .ofBool (rule.abstractVerdict env (metadata.forResponse response)).possible
  else rule.abstractVerdict env metadata

variable {env rule metadata}

section
variable (rested : metadata.Rested)
include rested

theorem abstractMatch_decides : Decides (rule.abstractMatch env) metadata (rule.abstractVerdict env metadata) := by
  unfold abstractMatch abstractVerdict
  cases rule.ruleSetItem with
  | none =>
    exact match_decides rested rfl branchesOf_none
      fun _ => pending_notMem_ownBranch env _ metadata
  | some item =>
    refine match_decides rested rfl ?_
      fun evaluated => RuleSetItem.pending_notMem_branches evaluated item.setList
    intro deferred
    exact RuleSetItem.matchWithOuterGroupsLoop_eq deferred item.setList false _
      (prepareNestedMatch_withDeferred metadata deferred item)

theorem decides_unchanged {answer : Bool}
    (result : matcher metadata = (answer, metadata)) : Decides matcher metadata (.ofBool answer) := by
  refine ⟨false, ?_, ?_, fun _ => rfl⟩
  · rw [result, ofBool_possible, metadata.withDeferred_false rested]
  · cases answer <;> simp [ofBool]

theorem match_decides :
    Decides (rule.match env) metadata (rule.verdict env metadata) := by
  by_cases matchesResponse : rule.matchResponse
  · simp only [verdict, matchesResponse, if_true]
    split
    next missing =>
      refine decides_unchanged rested ?_
      simp [DefaultRule.match, matchesResponse, missing]
    next response present =>
      refine decides_unchanged rested ?_
      simp only [DefaultRule.match, matchesResponse, if_true, present]
      have copied : (metadata.forResponse response).Rested := rested
      rw [(abstractMatch_decides copied).possible_eq]
  · simp only [Decides, DefaultRule.match, verdict, matchesResponse]
    exact abstractMatch_decides rested

end

end DefaultRule

/-- Induction over a rule, with the hypothesis for every child. -/
@[elab_as_elim] theorem Rule.induction {motive : Rule → Prop} (default : ∀ rule, motive (.default rule))
    (logical : ∀ mode invert rules, (∀ rule ∈ rules, motive rule) → motive (.logical mode invert rules))
    (rule : Rule) : motive rule := by
  refine @Rule.rec motive (fun rules => ∀ rule ∈ rules, motive rule) default logical nofun ?_ rule
  exact fun _ _ headHolds tailHolds => forall_mem_cons.mpr ⟨headHolds, tailHolds⟩

mutual
def Rule.verdict (env : Environment) : Rule → InboundContext → Verdict
  | .default rule, metadata => rule.verdict env metadata
  | .logical mode invert rules, metadata =>
    logicalVerdict mode invert (Rule.verdicts env rules metadata.resetRuleCache)
def Rule.verdicts (env : Environment) : List Rule → InboundContext → List Verdict
  | [], _ => []
  | rule :: rules, metadata => rule.verdict env metadata :: Rule.verdicts env rules metadata
end

theorem Rule.matchers_eq_map (env : Environment) (rules : List Rule) :
    Rule.matchers env rules = rules.map (Rule.match env) := by
  induction rules with
  | nil => rfl
  | cons rule rules ih => rw [matchers, ih, map_cons]

theorem Rule.verdicts_eq_map (env : Environment) (rules : List Rule) (metadata : InboundContext) :
    Rule.verdicts env rules metadata = rules.map fun rule => rule.verdict env metadata := by
  induction rules with
  | nil => rfl
  | cons rule rules ih => rw [verdicts, ih, map_cons]

/-- Matching a rule on metadata with nothing deferred is evaluating its formula. -/
theorem Rule.match_decides (env : Environment) (rule : Rule) (metadata : InboundContext) (rested : metadata.Rested) :
    Decides (rule.match env) metadata (rule.verdict env metadata) := by
  induction rule using Rule.induction generalizing metadata with
  | default rule =>
    exact DefaultRule.match_decides rested
  | logical mode invert rules ih =>
    rw [Rule.match, verdict, matchers_eq_map, verdicts_eq_map]
    exact logicalRule_decides mode invert rested
      fun rule mem => ih rule mem metadata.resetRuleCache rfl

end SingBox
