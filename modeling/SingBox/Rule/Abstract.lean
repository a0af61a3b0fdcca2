import SingBox.Lib.Mask
import SingBox.Rule.Item

/-! # Rules and how they are matched

`route/rule`: default rules over items, logical rules over other rules, and rule
sets. A match reads the metadata and writes three of its fields, the rule cache:
two flags that a rule set sets for the rules inside it, and the mask of groups
whose verdict is deferred. Every function here therefore passes the metadata on,
as the source does through its pointer.
-/

namespace SingBox

open Lib.Mask

/-- A match answers and leaves the metadata behind. -/
abbrev Matcher := InboundContext → Bool × InboundContext

/-! ## Match state -/

/-- The four groups of a default rule. -/
inductive Group where
  | sourceAddress
  | sourcePort
  | destinationAddress
  | destinationPort
deriving DecidableEq, Repr

def Group.index : Group → Fin 8
  | .sourceAddress => 0
  | .sourcePort => 1
  | .destinationAddress => 2
  | .destinationPort => 3

/-- The group's `ruleMatchState`. -/
def Group.state (group : Group) : UInt8 := bit group.index

structure RuleGroupMatch where
  required : UInt8 := 0
  satisfied : UInt8 := 0
deriving DecidableEq, Repr

namespace RuleGroupMatch

variable (groups : RuleGroupMatch)

def done : Bool := groups.required &&& ~~~groups.satisfied == 0

def mergeWith (groups other : RuleGroupMatch) : RuleGroupMatch where
  required := groups.required ||| other.required
  satisfied := groups.satisfied ||| other.satisfied

/-- A group that the rule asks for, and whether one of its items matched. -/
def require (group : Group) (hit : Bool) : RuleGroupMatch where
  required := groups.required ||| group.state
  satisfied := if hit then groups.satisfied ||| group.state else groups.satisfied

end RuleGroupMatch

structure RuleMatchSnapshot where
  ipCidrMatchSource : Bool
  ipCidrAcceptEmpty : Bool
  deferredIPCIDRMatchGroups : UInt8

variable (metadata : InboundContext)

def snapshotRuleMatch : RuleMatchSnapshot where
  ipCidrMatchSource := metadata.ipCidrMatchSource
  ipCidrAcceptEmpty := metadata.ipCidrAcceptEmpty
  deferredIPCIDRMatchGroups := metadata.deferredIPCIDRMatchGroups

def RuleMatchSnapshot.restore (snapshot : RuleMatchSnapshot) (metadata : InboundContext) : InboundContext :=
  { metadata with
    ipCidrMatchSource := snapshot.ipCidrMatchSource
    ipCidrAcceptEmpty := snapshot.ipCidrAcceptEmpty
    deferredIPCIDRMatchGroups := snapshot.deferredIPCIDRMatchGroups }

/-- `metadata.IgnoreDestinationIPCIDRMatch = ignore`. -/
def InboundContext.ignoringDestinationIPCIDR (ignore : Bool) : InboundContext :=
  { metadata with ignoreDestinationIPCIDRMatch := ignore }

/-- `metadata.DeferredIPCIDRMatchGroups |= groups`. -/
def InboundContext.defer (groups : UInt8) : InboundContext :=
  { metadata with deferredIPCIDRMatchGroups := metadata.deferredIPCIDRMatchGroups ||| groups }

/-- `metadata.DeferredIPCIDRMatchGroups &^= groups`. -/
def InboundContext.settle (groups : UInt8) : InboundContext :=
  { metadata with deferredIPCIDRMatchGroups := metadata.deferredIPCIDRMatchGroups &&& ~~~groups }

/-! ## Default rules -/

/-- `abstractDefaultRule`, without the rule sets it refers to: what they do is a
parameter of the functions below. -/
structure AbstractDefaultRule where
  items : List RuleItem := []
  sourceAddressItems : List SourceAddressItem := []
  sourcePortItems : List PortItem := []
  destinationAddressItems : List DestinationAddressItem := []
  destinationIPCIDRItems : List DestinationIPCIDRItem := []
  destinationPortItems : List PortItem := []
  invert : Bool := false

namespace AbstractDefaultRule

variable (rule : AbstractDefaultRule)

/-- `len(r.allItems) == 0`, up to the rule sets. -/
def noItems : Bool :=
  rule.items.isEmpty && rule.sourceAddressItems.isEmpty && rule.sourcePortItems.isEmpty &&
    rule.destinationAddressItems.isEmpty && rule.destinationIPCIDRItems.isEmpty && rule.destinationPortItems.isEmpty

variable (env : Environment) (metadata : InboundContext)

def matchSourceAddress (rule : AbstractDefaultRule) (metadata : InboundContext) : Bool :=
  rule.sourceAddressItems.any fun item => item.match env metadata

def matchSourcePort : Bool :=
  rule.sourcePortItems.any fun item => item.match true metadata

def matchDestinationAddress (rule : AbstractDefaultRule) (metadata : InboundContext) : Bool :=
  rule.destinationAddressItems.any fun item => item.match env metadata

def matchDestinationIPCIDR (rule : AbstractDefaultRule) (metadata : InboundContext) : Bool :=
  rule.destinationIPCIDRItems.any fun item => item.match env metadata

def matchDestinationPort : Bool :=
  rule.destinationPortItems.any fun item => item.match false metadata

def destinationIPCIDRMatchesSource : Bool :=
  metadata.ipCidrMatchSource && !rule.destinationIPCIDRItems.isEmpty

def destinationIPCIDRMatchesDestination : Bool :=
  !metadata.ignoreDestinationIPCIDRMatch && !metadata.ipCidrMatchSource && !rule.destinationIPCIDRItems.isEmpty

/-- The condition under which `evaluateGroups` leaves the destination open. -/
def defersDestination : Bool :=
  metadata.ignoreDestinationIPCIDRMatch && !metadata.ipCidrMatchSource &&
    !rule.destinationIPCIDRItems.isEmpty && rule.destinationAddressItems.isEmpty

def evaluateGroups (rule : AbstractDefaultRule) (metadata : InboundContext) : RuleGroupMatch × InboundContext :=
  let groups : RuleGroupMatch := {}
  let groups := if rule.sourceAddressItems.isEmpty then groups
    else groups.require .sourceAddress (rule.matchSourceAddress env metadata)
  let groups := if rule.destinationIPCIDRMatchesSource metadata then
      groups.require .sourceAddress
        (groups.satisfied &&& Group.sourceAddress.state == 0 && rule.matchDestinationIPCIDR env metadata)
    else groups
  let groups := if rule.sourcePortItems.isEmpty then groups
    else groups.require .sourcePort (rule.matchSourcePort metadata)
  let groups := if rule.destinationAddressItems.isEmpty then groups
    else groups.require .destinationAddress (rule.matchDestinationAddress env metadata)
  let groups := if rule.destinationIPCIDRMatchesDestination metadata then
      groups.require .destinationAddress
        (groups.satisfied &&& Group.destinationAddress.state == 0 && rule.matchDestinationIPCIDR env metadata)
    else groups
  let groups := if rule.destinationPortItems.isEmpty then groups
    else groups.require .destinationPort (rule.matchDestinationPort metadata)
  (groups, if rule.defersDestination metadata then metadata.defer Group.destinationAddress.state else metadata)

def matchItems (rule : AbstractDefaultRule) (metadata : InboundContext) : Bool :=
  rule.items.all fun item => item.match env metadata

variable (ruleSet : Option (RuleGroupMatch → Matcher))

/-- The end of `matchInner`: `ruleSet` is `RuleSetItem.matchWithOuterGroups` of the
rule's rule sets, if it has any. -/
def matchRuleSets (groups : RuleGroupMatch) : Matcher :=
  match ruleSet with
  | some matchWithOuterGroups => matchWithOuterGroups groups
  | none => fun metadata => (groups.done, metadata)

def matchInner (rule : AbstractDefaultRule) (ruleSet : Option (RuleGroupMatch → Matcher)) : Matcher :=
  fun metadata =>
    let (groups, metadata) := rule.evaluateGroups env metadata
    if rule.matchItems env metadata then
      let (matched, metadata) := matchRuleSets ruleSet groups metadata
      (matched, if matched then metadata.settle groups.satisfied else metadata)
    else (false, metadata)

def «match» (rule : AbstractDefaultRule) (ruleSet : Option (RuleGroupMatch → Matcher)) : Matcher :=
  fun metadata =>
    if rule.noItems && ruleSet.isNone then (true, metadata)
    else
      let (matched, metadata) := rule.matchInner env ruleSet metadata
      if rule.invert then
        if matched then (metadata.deferredIPCIDRMatchGroups != 0, metadata)
        else (true, { metadata with deferredIPCIDRMatchGroups := 0 })
      else (matched, metadata)

/-- The groups of a rule whose other items match: `none` when one does not. -/
def evaluateForMerge (rule : AbstractDefaultRule) (metadata : InboundContext) :
    Option RuleGroupMatch × InboundContext :=
  let (groups, metadata) := rule.evaluateGroups env metadata
  (if rule.matchItems env metadata then some groups else none, metadata)

end AbstractDefaultRule

/-! ## Logical rules -/

inductive LogicalMode where
  | and
  | or
deriving DecidableEq, Repr

namespace AbstractLogicalRule

/-- The loop of an `and` rule: whether all matched, and the groups deferred. -/
def matchAll : List Matcher → UInt8 → InboundContext → (Bool × UInt8) × InboundContext
  | [], deferredGroups, metadata => ((true, deferredGroups), metadata)
  | rule :: rules, deferredGroups, metadata =>
    let (matched, metadata) := rule metadata.resetRuleCache
    if matched then matchAll rules (deferredGroups ||| metadata.deferredIPCIDRMatchGroups) metadata
    else ((false, 0), metadata)

/-- The loop of an `or` rule, which ends at the first match that defers nothing. -/
def matchAny : List Matcher → Bool → UInt8 → InboundContext → (Bool × UInt8) × InboundContext
  | [], matched, deferredGroups, metadata => ((matched, deferredGroups), metadata)
  | rule :: rules, matched, deferredGroups, metadata =>
    let (hit, metadata) := rule metadata.resetRuleCache
    if hit then
      if metadata.deferredIPCIDRMatchGroups == 0 then ((true, 0), metadata)
      else matchAny rules true (deferredGroups ||| metadata.deferredIPCIDRMatchGroups) metadata
    else matchAny rules matched deferredGroups metadata

def «match» (mode : LogicalMode) (invert : Bool) (rules : List Matcher) : Matcher := fun metadata =>
  let snapshot := snapshotRuleMatch metadata
  let ((matched, deferredGroups), metadata) := match mode with
    | .and => matchAll rules 0 metadata
    | .or => matchAny rules false 0 metadata
  let metadata := snapshot.restore metadata
  let metadata := if matched then metadata.defer deferredGroups else metadata
  (if invert then !matched || deferredGroups != 0 else matched, metadata)

end AbstractLogicalRule

/-! ## Headless rules and rule sets -/

/-- A default rule of a rule set. `NewDefaultHeadlessRule` gives it no rule sets
of its own and only some of the items. -/
structure DefaultHeadlessRule extends AbstractDefaultRule where
  headlessItems : ∀ item ∈ items, item.isHeadless := by simp [RuleItem.isHeadless]
  ipCidrItems : ∀ item ∈ destinationIPCIDRItems, item.isIPCIDR := by simp [DestinationIPCIDRItem.isIPCIDR]

inductive HeadlessRule where
  | default (rule : DefaultHeadlessRule)
  | logical (mode : LogicalMode) (invert : Bool) (rules : List HeadlessRule)

mutual
def HeadlessRule.match (env : Environment) : HeadlessRule → Matcher
  | .default rule => rule.toAbstractDefaultRule.match env none
  | .logical mode invert rules => AbstractLogicalRule.match mode invert (HeadlessRule.matchers env rules)
/-- The matchers of a list of rules, which is their `map` (`HeadlessRule.matchers_eq_map`). -/
def HeadlessRule.matchers (env : Environment) : List HeadlessRule → List Matcher
  | [] => []
  | rule :: rules => rule.match env :: HeadlessRule.matchers env rules
end

/-- The loop of `matchAnyHeadlessRule`, which ends at the first match that defers
nothing. -/
def matchAnyHeadlessRuleLoop (snapshot : RuleMatchSnapshot) :
    List Matcher → Bool → UInt8 → InboundContext → Bool × InboundContext
  | [], matched, deferredGroups, metadata =>
    let metadata := snapshot.restore metadata
    (matched, if matched then metadata.defer deferredGroups else metadata)
  | rule :: rules, matched, deferredGroups, metadata =>
    let (hit, metadata) := rule metadata.resetRuleMatchCache
    if hit then
      if metadata.deferredIPCIDRMatchGroups == 0 then (true, snapshot.restore metadata)
      else matchAnyHeadlessRuleLoop snapshot rules true
        (deferredGroups ||| metadata.deferredIPCIDRMatchGroups) metadata
    else matchAnyHeadlessRuleLoop snapshot rules matched deferredGroups metadata

def matchAnyHeadlessRule (rules : List Matcher) : Matcher := fun metadata =>
  matchAnyHeadlessRuleLoop (snapshotRuleMatch metadata) rules false 0 metadata

/-- A loaded rule set: its rules. -/
structure RuleSet where
  rules : List HeadlessRule

namespace RuleSet

def «match» (env : Environment) (ruleSet : RuleSet) : Matcher :=
  matchAnyHeadlessRule (ruleSet.rules.map (HeadlessRule.match env))

/-- `mergeableRuleIn`: the only rule of the set, when it is a plain default rule. -/
def mergeableRule (ruleSet : RuleSet) : Option DefaultHeadlessRule :=
  match ruleSet.rules with
  | [.default rule] => if rule.invert then none else some rule
  | _ => none

end RuleSet

structure RuleSetItem where
  setList : List RuleSet
  ipCidrMatchSource : Bool := false
  ipCidrAcceptEmpty : Bool := false

namespace RuleSetItem

variable (item : RuleSetItem)

def prepareNestedMatch (metadata : InboundContext) : InboundContext :=
  { metadata.resetRuleMatchCache with
    ipCidrMatchSource := item.ipCidrMatchSource
    ipCidrAcceptEmpty := item.ipCidrAcceptEmpty }

variable (env : Environment)

def matchLoop (item : RuleSetItem) (snapshot : RuleMatchSnapshot) :
    List RuleSet → InboundContext → Bool × InboundContext
  | [], metadata => (false, snapshot.restore metadata)
  | ruleSet :: ruleSets, metadata =>
    let (matched, metadata) := ruleSet.match env (item.prepareNestedMatch metadata)
    if matched then (true, snapshot.restore metadata) else matchLoop item snapshot ruleSets metadata

def «match» (item : RuleSetItem) : Matcher := fun metadata =>
  matchLoop env item (snapshotRuleMatch metadata) item.setList metadata

def matchWithOuterGroupsLoop (item : RuleSetItem) (outerGroups : RuleGroupMatch) (snapshot : RuleMatchSnapshot) :
    List RuleSet → Bool → UInt8 → InboundContext → Bool × InboundContext
  | [], matched, deferredGroups, metadata =>
    let metadata := snapshot.restore metadata
    (matched, if matched then metadata.defer deferredGroups else metadata)
  | ruleSet :: ruleSets, matched, deferredGroups, metadata =>
    let metadata := item.prepareNestedMatch metadata
    match ruleSet.mergeableRule with
    | some branch =>
      match branch.evaluateForMerge env metadata with
      | (some branchGroups, metadata) =>
        let merged := outerGroups.mergeWith branchGroups
        if merged.done then
          let branchDeferredGroups := metadata.deferredIPCIDRMatchGroups &&& ~~~merged.satisfied
          if branchDeferredGroups == 0 then (true, (snapshot.restore metadata).settle merged.satisfied)
          else matchWithOuterGroupsLoop item outerGroups snapshot ruleSets true
            (deferredGroups ||| branchDeferredGroups) metadata
        else matchWithOuterGroupsLoop item outerGroups snapshot ruleSets matched deferredGroups metadata
      | (none, metadata) =>
        matchWithOuterGroupsLoop item outerGroups snapshot ruleSets matched deferredGroups metadata
    | none =>
      if outerGroups.done then
        let (hit, metadata) := ruleSet.match env metadata
        if hit then
          if metadata.deferredIPCIDRMatchGroups == 0 then (true, snapshot.restore metadata)
          else matchWithOuterGroupsLoop item outerGroups snapshot ruleSets true
            (deferredGroups ||| metadata.deferredIPCIDRMatchGroups) metadata
        else matchWithOuterGroupsLoop item outerGroups snapshot ruleSets matched deferredGroups metadata
      else matchWithOuterGroupsLoop item outerGroups snapshot ruleSets matched deferredGroups metadata

def matchWithOuterGroups (item : RuleSetItem) (outerGroups : RuleGroupMatch) : Matcher := fun metadata =>
  matchWithOuterGroupsLoop env item outerGroups (snapshotRuleMatch metadata) item.setList false 0 metadata

end RuleSetItem

/-! ## Route and DNS rules -/

/-- A default route or DNS rule. `matchResponse` is for DNS rules only. -/
structure DefaultRule extends AbstractDefaultRule where
  ruleSetItem : Option RuleSetItem := none
  matchResponse : Bool := false
  matchResponseTag : String := ""

/-- The copy of the metadata on which a DNS response is matched. -/
def InboundContext.forResponse (metadata : InboundContext) (response : DnsMessage) : InboundContext :=
  { metadata with dnsResponse := some response, destinationAddressMatchFromResponse := true }

inductive Rule where
  | default (rule : DefaultRule)
  | logical (mode : LogicalMode) (invert : Bool) (rules : List Rule)

namespace DefaultRule

variable (env : Environment) (rule : DefaultRule)

/-- `abstractDefaultRule.Match` of the rule. -/
def abstractMatch : Matcher :=
  rule.toAbstractDefaultRule.match env (rule.ruleSetItem.map fun item => item.matchWithOuterGroups env)

/-- The response that a rule with `match_response` looks at. -/
def matchedResponse (metadata : InboundContext) : Option DnsMessage :=
  if rule.matchResponseTag ≠ "" then metadata.namedDNSResponses.lookup rule.matchResponseTag
  else metadata.dnsResponse

/-- `matchForMatch`, which for a rule without `match_response`, and so for every
route rule, is `abstractDefaultRule.Match`. -/
def «match» : Matcher := fun metadata =>
  if rule.matchResponse then
    match rule.matchedResponse metadata with
    | none => (rule.invert, metadata)
    | some response => ((rule.abstractMatch env (metadata.forResponse response)).1, metadata)
  else rule.abstractMatch env metadata

end DefaultRule

mutual
def Rule.match (env : Environment) : Rule → Matcher
  | .default rule => rule.match env
  | .logical mode invert rules => AbstractLogicalRule.match mode invert (Rule.matchers env rules)
def Rule.matchers (env : Environment) : List Rule → List Matcher
  | [] => []
  | rule :: rules => rule.match env :: Rule.matchers env rules
end

namespace Rule

variable (env : Environment)

/-- `abstractDefaultRule.Match` or `abstractLogicalRule.Match`. -/
def abstractMatch : Rule → Matcher
  | .default rule => rule.abstractMatch env
  | .logical mode invert rules => AbstractLogicalRule.match mode invert (matchers env rules)

/-- A default rule with `match_response`. -/
def matchesResponse : Rule → Bool
  | .default rule => rule.matchResponse
  | .logical _ _ _ => false

/-- `LegacyPreMatch`: the rule is matched before the lookup, with its destination
addresses left open. -/
def legacyPreMatch (rule : Rule) : Matcher := fun metadata =>
  if rule.matchesResponse then (false, metadata)
  else
    let (matched, metadata) := rule.abstractMatch env (metadata.ignoringDestinationIPCIDR true)
    (matched, metadata.ignoringDestinationIPCIDR false)

/-- `MatchAddressLimit`: the rule is matched against the response of its server. -/
def matchAddressLimit (rule : Rule) (metadata : InboundContext) (response : DnsMessage) : Bool :=
  (rule.abstractMatch env (metadata.resetRuleCache.forResponse response)).1

end Rule

end SingBox
