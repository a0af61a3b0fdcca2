import SingBox.Route.PreMatch
import SingBox.Rule.Unseen

/-! # What the two interpreters share

`matchRule` and `preMatch` keep different things in the metadata for later. The essence
of the metadata is the rest: all that rules look at and that actions compute with. Every
function that both interpreters apply to the metadata maps metadata of the same essence
to metadata of the same essence.
-/

namespace SingBox

variable {env : Environment} {first second : InboundContext} {options : RouteOptions}

namespace InboundContext

variable (metadata : InboundContext)

/-- The metadata without the rule cache and without the fields that no rule looks at. -/
def essence : InboundContext :=
  metadata.resetRuleCache.withUnseen ({} : InboundContext).unseen

/-- The two differ only in what no rule looks at. -/
def Alike (first second : InboundContext) : Prop := first.essence = second.essence

namespace Alike

variable {first second third : InboundContext}

theorem refl : metadata.Alike metadata := rfl

theorem trans (left : first.Alike second) (right : second.Alike third) : first.Alike third := Eq.trans left right

theorem symm (alike : first.Alike second) : second.Alike first := Eq.symm alike

section Fields

variable (alike : first.Alike second)
include alike

/-- Alike metadata agree on whatever can be read off the essence. -/
theorem read {α : Type} (field : InboundContext → α) (essential : ∀ metadata, field metadata.essence = field metadata) :
    field first = field second := by
  rw [← essential first, ← essential second, alike]

theorem network : first.network = second.network := alike.read _ fun _ => rfl

theorem source : first.source = second.source := alike.read _ fun _ => rfl

theorem destination : first.destination = second.destination := alike.read _ fun _ => rfl

theorem destinationAddresses : first.destinationAddresses = second.destinationAddresses := alike.read _ fun _ => rfl

theorem protocol : first.protocol = second.protocol := alike.read _ fun _ => rfl

theorem sniffHost : first.sniffHost = second.sniffHost := alike.read _ fun _ => rfl

theorem snifferNames : first.snifferNames = second.snifferNames := alike.read _ fun _ => rfl

theorem sniffError : first.sniffError = second.sniffError := alike.read _ fun _ => rfl

end Fields

theorem map {f : InboundContext → InboundContext}
    (works : ∀ metadata, (f metadata).essence = (f metadata.essence).essence)
    (alike : first.Alike second) : (f first).Alike (f second) := by
  unfold Alike at alike ⊢
  rw [works first, alike, ← works second]

theorem ite {c : Prop} [Decidable c] {yes yes' no no' : InboundContext} (both : yes.Alike yes')
    (neither : no.Alike no') : (if c then yes else no).Alike (if c then yes' else no') := by
  split
  · exact both
  · exact neither

end Alike

end InboundContext

open InboundContext Option

theorem Rule.matched_alike (rule : Rule) (unbridged : rule.Leaves (DefaultRule.Unbridged env))
    (alike : first.Alike second) :
    (rule.match env first.resetRuleCache).1 = (rule.match env second.resetRuleCache).1 := by
  have essential : ∀ metadata : InboundContext,
      (rule.match env metadata.essence).1 = (rule.match env metadata.resetRuleCache).1 :=
    fun metadata => rule.matched_withUnseen unbridged
  rw [← essential first, ← essential second, alike]

theorem Rule.match_alike (rule : Rule) (metadata : InboundContext) :
    (rule.match env metadata.resetRuleCache).2.Alike metadata := by
  obtain ⟨deferred, result, -, -⟩ := rule.match_decides env metadata.resetRuleCache rfl
  unfold Alike essence
  rw [result]
  rfl

section Peek

variable {sniffers : Sniffers} {kinds : List PacketSniffer} {first second : InboundContext} {payload : List UInt8}

/-- The metadata after packet sniffing. -/
def afterPeek (sniffers : Sniffers) (kinds : List PacketSniffer) (names : List String) (payload : List UInt8)
    (metadata : InboundContext) : InboundContext :=
  let peeked := PeekPacket sniffers kinds metadata payload
  { peeked.1 with snifferNames := names, sniffError := peeked.2 }

theorem afterPeek_alike (names : List String) (alike : first.Alike second) :
    (afterPeek sniffers kinds names payload first).Alike (afterPeek sniffers kinds names payload second) := by
  refine alike.map fun metadata => ?_
  dsimp only [afterPeek, PeekPacket, withSniffRecord, InboundContext.sniffRecord, essence, withUnseen, resetRuleCache,
    resetRuleMatchCache]

end Peek

namespace Router

variable {router : Router} {first second : InboundContext}

theorem withDestination_alike {destination destination' : Socksaddr} (alike : first.Alike second)
    (same : destination = destination') : (withDestination first destination).Alike (withDestination second destination') := by
  subst same
  refine alike.map (f := fun metadata => withDestination metadata destination) fun metadata => ?_
  dsimp [withDestination, essence, withUnseen, resetRuleCache, resetRuleMatchCache]

theorem applyRouteOptionsOverride_alike (options : RouteOptions) (alike : first.Alike second) :
    (router.applyRouteOptionsOverride first options).Alike (router.applyRouteOptionsOverride second options) := by
  have addressed := Alike.ite (c := router.env.isValid options.overrideAddress)
    (withDestination_alike alike (congrArg options.overrideAddress.withPort (congrArg Socksaddr.port alike.destination)))
    alike
  have ported := Alike.ite (c := options.overridePort > 0)
    (withDestination_alike addressed (congrArg (Socksaddr.withPort · options.overridePort) addressed.destination)) addressed
  refine .ite ?_ ported
  refine ported.map (f := fun metadata => { metadata with udpTimeout := options.udpTimeout }) fun metadata => ?_
  dsimp [essence, withUnseen, resetRuleCache, resetRuleMatchCache]

variable (metadata : InboundContext)

theorem keepOriginalDestination_alike (options : RouteOptions) :
    (router.keepOriginalDestination metadata options).Alike metadata := by
  unfold keepOriginalDestination
  split
  · dsimp [Alike, essence, withUnseen, resetRuleCache, resetRuleMatchCache]
  · exact .refl metadata

theorem applyDialOptions_alike (options : RouteOptions) : (applyDialOptions metadata options).Alike metadata := by
  dsimp [applyDialOptions, Alike, essence, withUnseen, resetRuleCache, resetRuleMatchCache]

theorem dropAddresses_of_unresolved {metadata : InboundContext}
    (unresolved : router.env.isValid options.overrideAddress → metadata.destinationAddresses = []) :
    router.dropAddresses metadata options = metadata := by
  unfold dropAddresses
  split
  next overrides => rw [← unresolved overrides]
  next => rfl

/-- What `matchRule` does beyond the overrides shows only when a connection with
resolved addresses gets another address. -/
theorem applyRouteOptions_alike (alike : first.Alike second)
    (unresolved : router.env.isValid options.overrideAddress → first.destinationAddresses = []) :
    (router.applyRouteOptionsOverride first options).Alike (router.applyRouteOptions second options) := by
  have kept := (router.keepOriginalDestination_alike second options)
  have unresolvedKept : router.env.isValid options.overrideAddress →
      (router.keepOriginalDestination second options).destinationAddresses = [] := by
    intro overrides
    rw [kept.destinationAddresses, ← alike.destinationAddresses]
    exact unresolved overrides
  unfold applyRouteOptions
  dsimp only
  rw [dropAddresses_of_unresolved unresolvedKept]
  exact ((applyRouteOptionsOverride_alike options (alike.trans kept.symm)).trans
    (applyDialOptions_alike _ options).symm)

theorem actionSniffOverrideDestination_alike (ofPackets : Bool) (alike : first.Alike second) :
    (router.actionSniffOverrideDestination first true).Alike
      (router.actionSniffOverrideDestination second ofPackets) := by
  have kept : ∀ (metadata : InboundContext) (origin : Socksaddr),
      (withOriginDestination metadata origin).Alike metadata := by
    intro metadata origin
    dsimp [withOriginDestination, Alike, essence, withUnseen, resetRuleCache, resetRuleMatchCache]
  have named := withDestination_alike alike (rfl : Socksaddr.ofFqdn second.sniffHost second.destination.port = _)
  unfold actionSniffOverrideDestination
  rw [alike.destination, alike.sniffHost]
  refine .ite ((kept _ _).trans (named.trans ?_)) alike
  cases ofPackets with
  | true => exact (kept _ _).symm
  | false => exact .refl _

theorem withResolved_alike (addresses : List Addr) (matchOnly : Bool) (alike : first.Alike second) :
    (withResolved first addresses matchOnly).Alike (withResolved second addresses matchOnly) := by
  have addressed := Alike.ite (c := matchOnly)
    (alike.map (f := fun metadata => { metadata with cacheIPs := addresses })
      fun metadata => by dsimp [essence, withUnseen, resetRuleCache, resetRuleMatchCache])
    (alike.map (f := fun metadata => { metadata with destinationAddresses := addresses })
      fun metadata => by dsimp [essence, withUnseen, resetRuleCache, resetRuleMatchCache])
  have versioned : ∀ version : UInt8, ∀ {left right : InboundContext}, left.Alike right →
      ({ left with ipVersion := version } : InboundContext).Alike { right with ipVersion := version } :=
    fun version {_ _} both => both.map (f := fun metadata => { metadata with ipVersion := version })
      fun metadata => by dsimp [essence, withUnseen, resetRuleCache, resetRuleMatchCache]
  exact .ite addressed (.ite (versioned 4 addressed) (.ite (versioned 6 addressed) addressed))

/-- Both resolve the same name, and come both to an error or both to alike metadata. -/
theorem actionResolve_alike (query : Nat) (action : ResolveAction) (alike : first.Alike second) :
    (router.actionResolve query first action = none ∧ router.actionResolve query second action = none) ∨
      ∃ after after', router.actionResolve query first action = some after ∧
        router.actionResolve query second action = some after' ∧ after.Alike after' := by
  unfold actionResolve
  rw [alike.destination]
  split
  · split
    · exact .inl ⟨rfl, rfl⟩
    · cases router.lookup query second.destination.fqdn action.options with
      | none => exact .inl ⟨rfl, rfl⟩
      | some addresses => exact .inr ⟨_, _, rfl, rfl, withResolved_alike addresses action.matchOnly alike⟩
  · exact .inr ⟨first, second, rfl, rfl, alike⟩

/-! ## Preparation -/

/-- The mark that `preMatch` sets before anything else. -/
def markPreMatch (metadata : InboundContext) : InboundContext := { metadata with preMatch := true }

theorem markPreMatch_alike : (markPreMatch metadata).Alike metadata := by
  dsimp [markPreMatch, Alike, essence, withUnseen, resetRuleCache, resetRuleMatchCache]

section Mark

variable (metadata : InboundContext)

theorem searchProcessInfo_markPreMatch :
    router.searchProcessInfo (markPreMatch metadata) = markPreMatch (router.searchProcessInfo metadata) := by
  have sameDestination : router.processDestination (markPreMatch metadata) = router.processDestination metadata := rfl
  unfold searchProcessInfo
  rw [sameDestination]
  by_cases known : (metadata.processInfo.isSome || !router.isLocalSource metadata.source.addr)
  · exact (if_pos known).trans (congrArg markPreMatch (if_pos known)).symm
  · refine (if_neg known).trans (Eq.trans ?_ (congrArg markPreMatch (if_neg known)).symm)
    have sameQuestion : router.findProcessInfo (markPreMatch metadata).network (markPreMatch metadata).source =
        router.findProcessInfo metadata.network metadata.source := rfl
    rw [sameQuestion]
    cases router.findProcessInfo metadata.network metadata.source (router.processDestination metadata) <;> rfl

theorem searchNeighbor_markPreMatch :
    router.searchNeighbor (markPreMatch metadata) = markPreMatch (router.searchNeighbor metadata) := by
  have sameSource : (markPreMatch metadata).source = metadata.source := rfl
  have sameAddr : (markPreMatch metadata).sourceMACAddress = metadata.sourceMACAddress := rfl
  unfold searchNeighbor
  rw [sameSource, sameAddr]
  cases metadata.sourceMACAddress with
  | some address => rfl
  | none =>
    cases metadata.source.addr with
    | none => rfl
    | some addr =>
      dsimp only
      cases router.lookupHostname addr <;> rfl

theorem restoreDomain_markPreMatch :
    router.restoreDomain (markPreMatch metadata) = (router.restoreDomain metadata).map markPreMatch := by
  have sameDestination : (markPreMatch metadata).destination = metadata.destination := rfl
  unfold restoreDomain
  rw [sameDestination]
  by_cases isFake : metadata.destination.addr.any router.fakeIPContains
  · rw [if_pos isFake, if_pos isFake]
    cases metadata.destination.addr.bind router.fakeIPLookup with
    | none => rfl
    | some domain =>
      dsimp only [map_some]
      rw [apply_ite markPreMatch]
      rfl
  · rw [if_neg isFake, if_neg isFake]
    by_cases unnamed : metadata.domain = ""
    · refine (if_pos unnamed).trans (Eq.trans ?_ (congrArg (Option.map markPreMatch) (if_pos unnamed)).symm)
      cases router.lookupReverseMapping metadata.destination.addr <;> rfl
    · refine (if_neg unnamed).trans (Eq.trans ?_ (congrArg (Option.map markPreMatch) (if_neg unnamed)).symm)
      rfl

theorem setIPVersion_markPreMatch : setIPVersion (markPreMatch metadata) = markPreMatch (setIPVersion metadata) := by
  unfold setIPVersion
  rw [apply_ite markPreMatch, apply_ite markPreMatch]
  rfl

end Mark

theorem prepareMatchMetadata_markPreMatch (metadata : InboundContext) :
    router.prepareMatchMetadata (markPreMatch metadata) = (router.prepareMatchMetadata metadata).map markPreMatch := by
  unfold prepareMatchMetadata
  rw [searchProcessInfo_markPreMatch, searchNeighbor_markPreMatch, restoreDomain_markPreMatch, map_map,
    map_map]
  congr 1
  funext restored
  exact setIPVersion_markPreMatch restored

end Router

end SingBox
