import SingBox.Rule.LegacyPreMatch

/-! # Metadata that no rule looks at

Two runs over a rule list that differ in how they prepare the dialling of a connection
still answer every rule alike. One field is looked at by a single item: `preferred_by`
asks a bridge outbound, which answers only before there is a connection, so that the
rules that name one are set apart.
-/

namespace SingBox

open Lib.Kleene

/-- What the actions of rules leave for the dialling of the connection, and the mark of
a pre-match. -/
structure Unseen where
  originDestination : Socksaddr
  routeOriginalDestination : Socksaddr
  udpDisableDomainUnmapping : Bool
  udpConnect : Bool
  udpTimeout : Nat
  tlsFragment : Bool
  tlsFragmentFallbackDelay : Nat
  tlsRecordFragment : Bool
  tlsSpoof : String
  tlsSpoofMethod : SpoofMethod
  networkStrategy : Option NetworkStrategy
  networkType : List InterfaceType
  fallbackNetworkType : List InterfaceType
  fallbackDelay : Nat
  preMatch : Bool
  destOverride : Bool

namespace InboundContext

variable (metadata : InboundContext)

def unseen : Unseen where
  originDestination := metadata.originDestination
  routeOriginalDestination := metadata.routeOriginalDestination
  udpDisableDomainUnmapping := metadata.udpDisableDomainUnmapping
  udpConnect := metadata.udpConnect
  udpTimeout := metadata.udpTimeout
  tlsFragment := metadata.tlsFragment
  tlsFragmentFallbackDelay := metadata.tlsFragmentFallbackDelay
  tlsRecordFragment := metadata.tlsRecordFragment
  tlsSpoof := metadata.tlsSpoof
  tlsSpoofMethod := metadata.tlsSpoofMethod
  networkStrategy := metadata.networkStrategy
  networkType := metadata.networkType
  fallbackNetworkType := metadata.fallbackNetworkType
  fallbackDelay := metadata.fallbackDelay
  preMatch := metadata.preMatch
  destOverride := metadata.destOverride

variable (unseen : Unseen)

def withUnseen : InboundContext :=
  { metadata with
    originDestination := unseen.originDestination
    routeOriginalDestination := unseen.routeOriginalDestination
    udpDisableDomainUnmapping := unseen.udpDisableDomainUnmapping
    udpConnect := unseen.udpConnect
    udpTimeout := unseen.udpTimeout
    tlsFragment := unseen.tlsFragment
    tlsFragmentFallbackDelay := unseen.tlsFragmentFallbackDelay
    tlsRecordFragment := unseen.tlsRecordFragment
    tlsSpoof := unseen.tlsSpoof
    tlsSpoofMethod := unseen.tlsSpoofMethod
    networkStrategy := unseen.networkStrategy
    networkType := unseen.networkType
    fallbackNetworkType := unseen.fallbackNetworkType
    fallbackDelay := unseen.fallbackDelay
    preMatch := unseen.preMatch
    destOverride := unseen.destOverride }

@[simp] theorem withUnseen_resetRuleCache :
    (metadata.withUnseen unseen).resetRuleCache = metadata.resetRuleCache.withUnseen unseen := rfl

end InboundContext

variable (env : Environment)

/-- The outbound prefers an address in a pre-match if and only if it does for a
connection, as every outbound but a bridge does. -/
def Environment.Unbridged (tag : String) : Prop :=
  ∀ network addr, env.preferredAddress tag network true addr = env.preferredAddress tag network false addr

def RuleItem.Unbridged : RuleItem → Prop
  | .preferredBy outbounds _ => ∀ tag ∈ outbounds, env.Unbridged tag
  | _ => True

def DefaultRule.Unbridged (rule : DefaultRule) : Prop := ∀ item ∈ rule.items, item.Unbridged env

section Unseen

variable {env : Environment} {metadata : InboundContext} {unseen : Unseen}

theorem Environment.Unbridged.same {tag : String} (unbridged : env.Unbridged tag) (network : Network)
    (first second : Bool) (addr : Addr) :
    env.preferredAddress tag network first addr = env.preferredAddress tag network second addr := by
  cases first <;> cases second <;> simp [unbridged network addr]

variable (item : RuleItem)

theorem RuleItem.unbridged_of_isHeadless (headless : item.isHeadless) : item.Unbridged env := by
  cases item with
  | preferredBy => cases headless
  | _ => trivial

theorem RuleItem.match_withUnseen (unbridged : item.Unbridged env) :
    item.match env (metadata.withUnseen unseen) = item.match env metadata := by
  cases item with
  | preferredBy outbounds strategy =>
    have same : (fun addr => outbounds.any fun tag => env.preferredAddress tag metadata.network unseen.preMatch addr) =
        fun addr => outbounds.any fun tag => env.preferredAddress tag metadata.network metadata.preMatch addr := by
      funext addr
      rw [Bool.eq_iff_iff, List.any_eq_true, List.any_eq_true]
      refine exists_congr fun tag => and_congr_right fun named => ?_
      rw [(unbridged tag named).same]
    simp only [RuleItem.match, preferredByMatch, InboundContext.withUnseen]
    rw [same]
    rfl
  | _ => rfl

theorem AbstractDefaultRule.alike_withUnseen {rule : AbstractDefaultRule}
    (unbridged : ∀ item ∈ rule.items, item.Unbridged env) : rule.Alike env (metadata.withUnseen unseen) metadata :=
  ⟨fun item mem => item.match_withUnseen (unbridged item mem), rfl, rfl, rfl⟩

theorem congruence_withUnseen (unseen : Unseen) :
    Congruence env fun first second => first = second.withUnseen unseen where
  reset := by
    rintro _ _ rfl
    rfl
  nested := by
    rintro _ _ rfl item
    rfl
  headless := by
    rintro _ _ rfl rule
    exact AbstractDefaultRule.alike_withUnseen fun item mem => item.unbridged_of_isHeadless (rule.headlessItems item mem)

namespace DefaultRule

variable {rule : DefaultRule}

theorem abstractVerdict_withUnseen (unbridged : rule.Unbridged env) :
    rule.abstractVerdict env (metadata.withUnseen unseen) = rule.abstractVerdict env metadata :=
  (congruence_withUnseen unseen).abstractVerdict rule (AbstractDefaultRule.alike_withUnseen unbridged) rfl

theorem verdict_withUnseen (unbridged : rule.Unbridged env) :
    rule.verdict env (metadata.withUnseen unseen) = rule.verdict env metadata := by
  have matched : rule.matchedResponse (metadata.withUnseen unseen) = rule.matchedResponse metadata := rfl
  have answered : ∀ response, (metadata.withUnseen unseen).forResponse response =
      (metadata.forResponse response).withUnseen unseen := fun _ => rfl
  unfold verdict
  rw [matched]
  simp [answered, abstractVerdict_withUnseen unbridged]

end DefaultRule

namespace Rule

theorem verdict_withUnseen (rule : Rule) (unbridged : rule.Leaves (DefaultRule.Unbridged env))
    (metadata : InboundContext) : rule.verdict env (metadata.withUnseen unseen) = rule.verdict env metadata := by
  induction rule using Rule.induction generalizing metadata with
  | default rule =>
    exact DefaultRule.verdict_withUnseen unbridged
  | logical mode invert rules ih =>
    rw [Leaves, allLeaves_iff] at unbridged
    rw [verdict, verdict, verdicts_eq_map, verdicts_eq_map, InboundContext.withUnseen_resetRuleCache]
    congr 1
    apply List.map_congr_left
    intro rule mem
    exact ih rule mem (unbridged rule mem) metadata.resetRuleCache

/-- Matching a rule answers alike whatever the unseen fields are. -/
theorem matched_withUnseen (rule : Rule) (unbridged : rule.Leaves (DefaultRule.Unbridged env)) :
    (rule.match env (metadata.resetRuleCache.withUnseen unseen)).1 = (rule.match env metadata.resetRuleCache).1 := by
  have rested : (metadata.resetRuleCache.withUnseen unseen).Rested := rfl
  rw [(rule.match_decides env _ rested).possible_eq, (rule.match_decides env metadata.resetRuleCache rfl).possible_eq,
    rule.verdict_withUnseen unbridged]

end Rule

end Unseen

end SingBox
