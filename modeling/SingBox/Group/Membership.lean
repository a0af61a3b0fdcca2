import SingBox.Group.Members

/-! # What the members of a group follow

After an update the members should be the configured outbounds and then, provider by provider,
the outbounds that it had when the group was last told of them. The group's cache keeps what it
has accepted; the lists here are kept beside it, those of updates that it refused included.
-/

open List Option

namespace SingBox.Group

open Lib.Guard Lib.Machine Options

variable {Outbound : Type} {tagOf : Outbound → String}

/-! ## The expected members -/

/-- The outbounds of each provider at its last update, or when it was first read, whether or not
the group has accepted them. -/
abbrev Latest (Outbound : Type) := String → Option (List Outbound)

variable (latest : Latest Outbound) (options : Options) (managers : Managers tagOf)

/-- An update tells the group of the updated provider and, if it gets to the providers, of those
that were not read before. -/
def Latest.told (updatedTag : String) (reads : Bool) (providerTag : String) : Bool :=
  providerTag ∈ options.providerTags ∧ (providerTag = updatedTag ∨ reads ∧ (latest providerTag).isNone)

def Latest.take (updatedTag : String) (reads : Bool) : Latest Outbound := fun providerTag =>
  if latest.told options updatedTag reads providerTag then some (managers.contents providerTag) else latest providerTag

def Latest.provided (tagOf : Outbound → String) (options : Options) : List Outbound :=
  options.providerTags.flatMap fun providerTag => visibleOutbounds tagOf options ((latest providerTag).getD [])

/-- The outbounds of the tags and then those of the providers, or `Compatible` alone. -/
def membersOf (managers : Managers tagOf) (tags : List String) (provided : List Outbound) : Option (List Outbound) := do
  let configured ← tags.mapM managers.outbound
  if (configured ++ provided).isEmpty then
    let detour ← managers.outbound "Compatible"
    return [detour]
  else return configured ++ provided

def expected (latest : Latest Outbound) : Option (List Outbound) :=
  membersOf managers options.outbounds (latest.provided tagOf options)

/-- The members follow the configuration and the providers. -/
structure Follows (options : Options) (managers : Managers tagOf) (latest : Latest Outbound)
    (members : Members Outbound) : Prop where
  outbounds : expected options managers latest = some members.outbounds
  tags : members.tags = members.outbounds.map tagOf
  /-- An outbound for UDP is a member only as an outbound of a provider, or as `Compatible`. -/
  udp : ∀ detour ∈ members.outbounds, tagOf detour ≠ "" →
    tagOf detour = options.udpOutbound ∨ tagOf detour = options.udpFallbackOutbound →
      detour ∈ latest.provided tagOf options ∨ members.tags = ["Compatible"]

/-! ## Collection -/

variable {tags : List String} {options : Options} {updatedTag : String} {cache : Cache Outbound}
  {next : Members Outbound}

variable {managers : Managers tagOf} {detours : List Outbound} {latest : Latest Outbound} {members : Members Outbound}

theorem collectDirect_eq_ok {index : Nat} :
    collectDirect managers index tags = .ok detours ↔ tags.mapM managers.outbound = some detours := by
  induction tags generalizing index detours with
  | nil => simp [collectDirect]
  | cons tag tags ih =>
    rw [collectDirect]
    cases found : managers.outbound tag with
    | none => simp [found]
    | some detour =>
      simp only [bind_eq_ok, pure_eq_ok, ih, mapM_cons, found, Option.bind_eq_bind, Option.bind_some,
        Option.bind_eq_some_iff, Option.pure_def, Option.some.injEq]

theorem Managers.tags_of_mapM (found : tags.mapM managers.outbound = some detours) : detours.map tagOf = tags := by
  induction tags generalizing detours with
  | nil =>
    cases found
    rfl
  | cons tag tags ih =>
    simp only [mapM_cons, Option.bind_eq_bind, Option.bind_eq_some_iff, Option.pure_def, Option.some.injEq] at found
    obtain ⟨detour, isFound, detours, areFound, rfl⟩ := found
    simp [managers.tagged tag detour isFound, ih areFound]

/-- The tags say how the members have come about. -/
theorem map_membersOf {provided : List Outbound} (found : membersOf managers tags provided = some detours) :
    detours.map tagOf =
      if (tags ++ provided.map tagOf).isEmpty then ["Compatible"] else tags ++ provided.map tagOf := by
  simp only [membersOf, bind_eq_bind, bind_eq_some_iff] at found
  obtain ⟨configured, found, isMembers⟩ := found
  rw [← Managers.tags_of_mapM found, ← map_append, isEmpty_map]
  split at isMembers
  next nothing =>
    obtain ⟨detour, isFound, isMembers⟩ := bind_eq_some_iff.mp isMembers
    rw [if_pos nothing, ← Option.some.inj isMembers, map_singleton, managers.tagged _ _ isFound]
  next something => rw [if_neg something, ← Option.some.inj isMembers]

/-- What an update takes for the outbounds of a provider. -/
def current (options : Options) (managers : Managers tagOf) (updatedTag : String) (cache : Cache Outbound)
    (providerTag : String) : List Outbound :=
  (if providerTag ≠ updatedTag then cache providerTag else none).getD
    (visibleOutbounds tagOf options (managers.contents providerTag))

theorem current_update (options : Options) (managers : Managers tagOf) (updatedTag : String) (cache : Cache Outbound)
    (providerTag : String) :
    current options managers updatedTag
        (Function.update cache providerTag (some (current options managers updatedTag cache providerTag))) =
      current options managers updatedTag cache := by
  funext other
  by_cases same : other = providerTag
  · subst same
    by_cases updated : other = updatedTag <;> simp [current, updated]
  · simp [current, Function.update_of_ne same]

variable {newCache : Cache Outbound} {provided : List Outbound}

/-- A provider that was read before is as in the cache already. -/
theorem collectProviders_cons {providerTag : String} {providerTags : List String}
    (collects : collectProviders options managers updatedTag (providerTag :: providerTags) cache = .ok (provided, newCache)) :
    ∃ later, collectProviders options managers updatedTag providerTags
        (Function.update cache providerTag (some (current options managers updatedTag cache providerTag))) =
          .ok (later, newCache) ∧
      provided = current options managers updatedTag cache providerTag ++ later := by
  rw [collectProviders] at collects
  split at collects
  next cachedOutbounds isCached =>
    simp only [bind_eq_ok, pure_eq_ok, Prod.exists, Prod.mk.injEq] at collects
    obtain ⟨later, _, collectsLater, rfl, rfl⟩ := collects
    have cached : cache providerTag = some cachedOutbounds := by
      by_cases updated : providerTag ≠ updatedTag
      · rwa [if_pos updated] at isCached
      · rw [if_neg updated] at isCached
        cases isCached
    have isCurrent : current options managers updatedTag cache providerTag = cachedOutbounds := by
      simp [current, isCached]
    rw [isCurrent, Function.update_eq_self_iff.mpr cached.symm]
    exact ⟨later, collectsLater, rfl⟩
  next unread =>
    have isCurrent : current options managers updatedTag cache providerTag =
        visibleOutbounds tagOf options (managers.contents providerTag) := by
      simp [current, unread]
    split at collects
    · cases collects
    · simp only [bind_eq_ok, pure_eq_ok, Prod.exists, Prod.mk.injEq] at collects
      obtain ⟨later, _, collectsLater, rfl, rfl⟩ := collects
      rw [isCurrent]
      exact ⟨later, collectsLater, rfl⟩

/-- The cache changes as the collection goes on, and what it takes for a provider does not. -/
theorem collectProviders_spec {providerTags : List String}
    (collects : collectProviders options managers updatedTag providerTags cache = .ok (provided, newCache)) :
    provided = providerTags.flatMap (current options managers updatedTag cache) ∧
      ∀ providerTag, newCache providerTag =
        if providerTag ∈ providerTags then some (current options managers updatedTag cache providerTag)
        else cache providerTag := by
  induction providerTags generalizing cache provided with
  | nil =>
    cases collects
    simp
  | cons providerTag providerTags ih =>
    obtain ⟨later, collectsLater, rfl⟩ := collectProviders_cons collects
    obtain ⟨rfl, caches⟩ := ih collectsLater
    rw [current_update] at caches ⊢
    refine ⟨flatMap_cons.symm, fun other => ?_⟩
    rw [caches other]
    by_cases same : other = providerTag
    · subst same
      simp
    · simp [same]

/-! ## The cache -/

/-- The cache has what the expressions leave of the lists that the group has not refused. -/
structure Caches (tagOf : Outbound → String) (options : Options) (latest : Latest Outbound) (refused : String → Bool)
    (cache : Cache Outbound) : Prop where
  cached : ∀ providerTag, refused providerTag = false →
    cache providerTag = (latest providerTag).map (visibleOutbounds tagOf options)
  untold : ∀ providerTag, latest providerTag = none → refused providerTag = false

variable {refused : String → Bool}

/-- What an update takes for the outbounds of a provider is what the group was last told of, unless
it has refused that. -/
theorem Caches.current {providerTag : String} (caches : Caches tagOf options latest refused cache)
    (isMember : providerTag ∈ options.providerTags)
    (isAccepted : latest.told options updatedTag true providerTag = false → refused providerTag = false) :
    some (current options managers updatedTag cache providerTag) =
      (latest.take options managers updatedTag true providerTag).map (visibleOutbounds tagOf options) := by
  unfold Group.current Latest.take
  by_cases updated : providerTag = updatedTag
  · simp [Latest.told, updated, updated ▸ isMember]
  · cases isLatest : latest providerTag with
    | none =>
      rw [caches.cached providerTag (caches.untold providerTag isLatest), isLatest]
      simp [Latest.told, isMember, isLatest, updated]
    | some detours =>
      have untold : latest.told options updatedTag true providerTag = false := by simp [Latest.told, isLatest, updated]
      rw [caches.cached providerTag (isAccepted untold), isLatest, untold]
      simp [updated]

/-! ## What an accepted update has done -/

/-- The update gets to the providers. -/
def readsProviders (options : Options) (managers : Managers tagOf) (updatedTag : String) : Bool :=
  updatedTag ∈ options.providerTags && (collectDirect managers 0 options.directTags).isOk

/-- The members that a group with these direct tags has after an update. -/
structure Collected (options : Options) (managers : Managers tagOf) (provided : List Outbound)
    (members : Members Outbound) : Prop where
  outbounds : membersOf managers options.directTags provided = some members.outbounds
  tags : members.tags = members.outbounds.map tagOf

theorem collected (accepts : onProviderUpdated options managers members updatedTag = .ok next) :
    readsProviders options managers updatedTag ∧ Collected options managers
      (options.providerTags.flatMap (current options managers updatedTag members.outboundsCache)) next ∧
      ∀ providerTag, next.outboundsCache providerTag =
        if providerTag ∈ options.providerTags then
          some (current options managers updatedTag members.outboundsCache providerTag)
        else members.outboundsCache providerTag := by
  have collects : collectProviderOutbounds options managers updatedTag options.directTags members.outboundsCache =
      .ok next := by
    simp only [onProviderUpdated, bind_eq_ok, mapError_eq_ok] at accepts
    obtain ⟨collected, collects, selects⟩ := accepts
    split at selects
    · simp only [bind_eq_ok, pure_eq_ok] at selects
      obtain ⟨_, _, rfl⟩ := selects
      exact collects
    · rw [pure_eq_ok] at selects
      rwa [selects] at collects
  rw [collectProviderOutbounds] at collects
  split at collects
  · cases collects
  next isProvider =>
    simp only [bind_eq_ok, Prod.exists] at collects
    obtain ⟨direct, collectsDirect, provided, newCache, collectsProviders, decides⟩ := collects
    refine ⟨by simpa [readsProviders, collectsDirect, Except.isOk, Except.toBool] using isProvider, ?_⟩
    obtain ⟨rfl, newCaches⟩ := collectProviders_spec collectsProviders
    rw [collectDirect_eq_ok] at collectsDirect
    have directTags : direct.map tagOf = options.directTags := Managers.tags_of_mapM collectsDirect
    rw [← directTags, ← map_append, isEmpty_map] at decides
    split at decides
    next nothing =>
      split at decides
      · cases decides
      next detour isFound =>
        rw [pure_eq_ok] at decides
        subst decides
        refine ⟨⟨?_, rfl⟩, newCaches⟩
        rw [membersOf, collectsDirect, bind_eq_bind, bind_some, if_pos nothing, isFound]
        rfl
    next something =>
      rw [pure_eq_ok] at decides
      subst decides
      refine ⟨⟨?_, rfl⟩, newCaches⟩
      rw [membersOf, collectsDirect, bind_eq_bind, bind_some, if_neg something]
      rfl

/-! ## The configured tags -/

/-- A configuration that the constructors accept and that lists no outbound for UDP as a member.
A load balancer has no outbounds for UDP. -/
structure Configuration extends Options where
  required : udpFallbackOutbound ≠ "" → udpOutbound ≠ ""
  unlisted : udpOutbound ≠ "" → udpOutbound ∉ outbounds
  fallbackUnlisted : udpFallbackOutbound ≠ "" → udpFallbackOutbound ∉ outbounds

/-- The dependencies of the group are its configured outbounds, as far as an update sees them. -/
def Options.Plain (options : Options) : Prop :=
  match options.kind with
  | .selector => options.outbounds.Nodup ∧
      ("" ∈ options.outbounds → options.udpOutbound ≠ "" ∧ options.udpFallbackOutbound ≠ "")
  | .urlTest => options.udpOutbound = ""
  | .loadBalance => True

theorem nodup_eraseDups : ∀ tags : List String, tags.eraseDups.Nodup
  | [] => .nil
  | tag :: tags => by
    rw [eraseDups_cons]
    refine nodup_cons.mpr ⟨?_, nodup_eraseDups _⟩
    simp
termination_by tags => tags.length
decreasing_by exact Nat.lt_succ_of_le (List.length_filter_le _ _)

theorem eraseDups_of_nodup (nodup : tags.Nodup) : tags.eraseDups = tags := by
  induction tags with
  | nil => rfl
  | cons tag tags ih =>
    obtain ⟨notMember, nodup⟩ := nodup_cons.mp nodup
    have others : tags.filter (fun other => !other == tag) = tags := by
      rw [filter_eq_self]
      intro other isMember
      have differs : other ≠ tag := fun same => notMember (same ▸ isMember)
      simpa using differs
    rw [eraseDups_cons, others, ih nodup]

namespace Configuration

variable (configuration : Configuration) {tag : String}

theorem ne_udp (isMember : tag ∈ configuration.outbounds) (tagged : tag ≠ "") :
    tag ≠ configuration.udpOutbound ∧ tag ≠ configuration.udpFallbackOutbound := by
  constructor
  · rintro rfl
    exact configuration.unlisted tagged isMember
  · rintro rfl
    exact configuration.fallbackUnlisted tagged isMember

/-- Behind the configured outbounds a selector depends on outbounds for UDP only. -/
theorem visibleDependencyTags_eq (isSelector : configuration.kind = .selector) :
    configuration.visibleDependencyTags = configuration.outbounds.eraseDups.filter fun tag =>
      ¬(tag = configuration.udpOutbound ∨ tag = configuration.udpFallbackOutbound) := by
  simp only [visibleDependencyTags, dependencies, isSelector, eraseDups_append, filter_append]
  rw [append_right_eq_self, filter_eq_nil_iff]
  intro tag isMember
  have isUdp := (mem_filter.mp (mem_eraseDups.mp isMember)).1
  simp only [mem_append, mem_ite_nil_right, mem_singleton] at isUdp
  simp only [decide_eq_true_eq, not_not]
  exact isUdp.imp And.right And.right

theorem directTags_eq_outbounds : configuration.directTags = configuration.outbounds ↔ configuration.Plain := by
  unfold directTags Options.Plain
  cases kind : configuration.kind with
  | selector =>
    simp only [configuration.visibleDependencyTags_eq kind]
    constructor
    · intro same
      refine ⟨same ▸ (nodup_eraseDups _).filter _, fun isMember => ?_⟩
      rw [← same, mem_filter, decide_eq_true_eq, not_or] at isMember
      exact ⟨Ne.symm isMember.2.1, Ne.symm isMember.2.2⟩
    · rintro ⟨nodup, untagged⟩
      rw [eraseDups_of_nodup nodup, filter_eq_self]
      intro tag isMember
      rw [decide_eq_true_eq, not_or]
      by_cases tagged : tag = ""
      · subst tagged
        exact ⟨(untagged isMember).1.symm, (untagged isMember).2.symm⟩
      · exact configuration.ne_udp isMember tagged
  | urlTest =>
    simp only [dependencies, kind]
    constructor
    · intro same
      by_contra set
      rw [if_pos (.inl set)] at same
      apply configuration.unlisted set
      rw [← same]
      simp
    · intro unset
      rw [if_neg]
      rintro (set | set)
      · exact set unset
      · exact configuration.required set unset
  | loadBalance => simp [dependencies, kind]

theorem mem_directTags (isMember : tag ∈ configuration.outbounds) (tagged : tag ≠ "") :
    tag ∈ configuration.directTags := by
  unfold directTags
  cases kind : configuration.kind with
  | selector =>
    simp only [configuration.visibleDependencyTags_eq kind, mem_filter, mem_eraseDups, isMember, true_and,
      decide_eq_true_eq, not_or]
    exact configuration.ne_udp isMember tagged
  | urlTest =>
    simp only [dependencies, kind]
    split <;> simp [isMember]
  | loadBalance => simpa [dependencies, kind] using isMember

/-- Without configured outbounds an update has direct tags only in a URL test with an outbound for
UDP. -/
theorem directTags_eq_singleton (unconfigured : configuration.outbounds = []) (tagged : tag ≠ "") :
    configuration.directTags = [tag] ↔
      configuration.kind = .urlTest ∧ configuration.udpOutbound = tag ∧ configuration.udpFallbackOutbound = tag := by
  unfold directTags
  cases kind : configuration.kind with
  | selector => simp [configuration.visibleDependencyTags_eq kind, unconfigured]
  | urlTest =>
    simp only [dependencies, kind, unconfigured, nil_append, true_and]
    constructor
    · intro same
      split at same
      · have isTag : ∀ other, other ∈ [configuration.udpOutbound, configuration.udpFallbackOutbound].eraseDups →
            other = tag := fun other isMember => by simpa [same] using isMember
        exact ⟨isTag _ (by simp), isTag _ (by simp)⟩
      · cases same
    · rintro ⟨isTag, isFallback⟩
      simp [isTag, isFallback, tagged, eraseDups_cons]
  | loadBalance => simp [dependencies, kind, unconfigured]

end Configuration

/-! ## Runs -/

/-- A group with the lists that it has been told of, and whether it refused the last one. -/
structure History (Outbound : Type) where
  members : Members Outbound := {}
  latest : Latest Outbound := fun _ => none
  refused : String → Bool := fun _ => false

inductive Event (tagOf : Outbound → String) where
  | start (managers : Managers tagOf)
  | update (managers : Managers tagOf) (updatedTag : String)

def History.update (history : History Outbound) (options : Options) (managers : Managers tagOf) (updatedTag : String) :
    History Outbound :=
  let result := onProviderUpdated options managers history.members updatedTag
  let reads := readsProviders options managers updatedTag
  { members := result.toOption.getD history.members
    latest := history.latest.take options managers updatedTag reads
    refused := fun providerTag =>
      if history.latest.told options updatedTag reads providerTag then !result.isOk else history.refused providerTag }

/-- A start or an update that fails leaves the members as they were. -/
def Options.deliver (options : Options) (history : History Outbound) : Event tagOf → Option (History Outbound)
  | .start managers => some { history with
      members := (Group.start options managers history.members).toOption.getD history.members }
  | .update managers updatedTag => some (history.update options managers updatedTag)

/-- What the group was last told of each of its providers, it has accepted. -/
def History.UpToDate (history : History Outbound) (options : Options) : Prop :=
  ∀ providerTag ∈ options.providerTags, history.refused providerTag = false

variable (configuration : Configuration)

/-- The odd case in which the outbound for UDP stands where `Compatible` would: it is `Compatible`
itself, and there is nothing else. -/
def Configuration.OnlyCompatible (tagOf : Outbound → String) (latest : Latest Outbound) : Prop :=
  configuration.kind = .urlTest ∧ configuration.outbounds = [] ∧ configuration.udpOutbound = "Compatible" ∧
    configuration.udpFallbackOutbound = "Compatible" ∧ latest.provided tagOf configuration.toOptions = []

section Accepted

variable {configuration : Configuration} {managers : Managers tagOf} {latest : Latest Outbound}
  {members : Members Outbound}

section
variable (collected : Collected configuration.toOptions managers (latest.provided tagOf configuration.toOptions) members)
include collected

theorem expected_of_plain (plain : configuration.Plain ∨ configuration.OnlyCompatible tagOf latest) :
    expected configuration.toOptions managers latest = some members.outbounds := by
  have outbounds := collected.outbounds
  rcases plain with plain | ⟨isUrlTest, unconfigured, isUdp, isFallback, nothing⟩
  · rwa [configuration.directTags_eq_outbounds.mpr plain] at outbounds
  · rw [(configuration.directTags_eq_singleton unconfigured (by decide)).mpr ⟨isUrlTest, isUdp, isFallback⟩] at outbounds
    rw [expected, unconfigured, nothing, ← outbounds, nothing]
    cases isFound : managers.outbound "Compatible" <;> simp [membersOf, isFound]

/-- The members have the tags of the direct outbounds where those of the configured ones are
expected. -/
theorem plain_of_expected (isExpected : expected configuration.toOptions managers latest = some members.outbounds) :
    configuration.Plain ∨ configuration.OnlyCompatible tagOf latest := by
  have direct := map_membersOf collected.outbounds
  rw [map_membersOf isExpected] at direct
  split at direct
  next nothing =>
    obtain ⟨unconfigured, unprovided⟩ := append_eq_nil_iff.mp (isEmpty_iff.mp nothing)
    rw [unprovided, append_nil] at direct
    split at direct
    next isEmpty =>
      exact .inl (configuration.directTags_eq_outbounds.mp ((isEmpty_iff.mp isEmpty).trans unconfigured.symm))
    next =>
      -- the direct outbounds are just `Compatible`
      obtain ⟨isUrlTest, isUdp, isFallback⟩ :=
        (configuration.directTags_eq_singleton unconfigured (by decide)).mp direct.symm
      exact .inr ⟨isUrlTest, unconfigured, isUdp, isFallback, map_eq_nil_iff.mp unprovided⟩
  next =>
    split at direct
    next isEmpty =>
      -- `Compatible` would be configured and yet not be among the direct tags
      obtain ⟨isEmpty, unprovided⟩ := append_eq_nil_iff.mp (isEmpty_iff.mp isEmpty)
      rw [unprovided, append_nil] at direct
      have isDirect := @Configuration.mem_directTags configuration "Compatible" (by simp [direct]) (by decide)
      rw [isEmpty] at isDirect
      cases isDirect
    next => exact .inl (configuration.directTags_eq_outbounds.mp (append_cancel_right direct).symm)

theorem follows_of_expected (isExpected : expected configuration.toOptions managers latest = some members.outbounds) :
    Follows configuration.toOptions managers latest members := by
  refine ⟨isExpected, collected.tags, fun detour isMember tagged isUdp => ?_⟩
  simp only [expected, membersOf, bind_eq_bind, bind_eq_some_iff] at isExpected
  obtain ⟨configured, found, isExpected⟩ := isExpected
  split at isExpected
  · obtain ⟨compatible, isFound, isExpected⟩ := bind_eq_some_iff.mp isExpected
    right
    rw [collected.tags, ← Option.some.inj isExpected, map_singleton, managers.tagged _ _ isFound]
  · rw [← Option.some.inj isExpected] at isMember
    obtain isConfigured | isProvided := mem_append.mp isMember
    · have isListed : tagOf detour ∈ configuration.outbounds := by
        rw [← Managers.tags_of_mapM found]
        exact mem_map_of_mem isConfigured
      obtain ⟨notUdp, notFallback⟩ := configuration.ne_udp isListed tagged
      exact (isUdp.elim notUdp notFallback).elim
    · exact .inl isProvided

theorem follows_iff :
    Follows configuration.toOptions managers latest members ↔
      configuration.Plain ∨ configuration.OnlyCompatible tagOf latest := by
  constructor
  · exact fun follows => plain_of_expected collected follows.outbounds
  · exact fun plain => follows_of_expected collected (expected_of_plain collected plain)

end

end Accepted

theorem startMembers_outboundsCache
    {outbounds : List Outbound} (starts : startMembers managers members tags outbounds = .ok next) :
    next.outboundsCache = members.outboundsCache := by
  rw [startMembers] at starts
  split at starts
  · split at starts
    · cases starts
    · cases starts
      rfl
  · cases starts
    rfl

theorem start_outboundsCache (starts : start options managers members = .ok next) :
    next.outboundsCache = members.outboundsCache := by
  simp only [start, bind_eq_ok] at starts
  obtain ⟨_, _, _, _, started, isStarted, selects⟩ := starts
  have isNext : started = next := by
    split at selects
    · simp only [bind_eq_ok, pure_eq_ok] at selects
      obtain ⟨_, _, isNext⟩ := selects
      exact isNext
    · exact pure_eq_ok.mp selects
  rw [← isNext]
  exact startMembers_outboundsCache isStarted

section Updates

variable {history : History Outbound}

abbrev History.Cached (tagOf : Outbound → String) (options : Options) (history : History Outbound) : Prop :=
  Caches tagOf options history.latest history.refused history.members.outboundsCache

theorem History.start_cached (cached : history.Cached tagOf options) (managers : Managers tagOf) :
    History.Cached tagOf options { history with
      members := (Group.start options managers history.members).toOption.getD history.members } := by
  cases starts : Group.start options managers history.members with
  | error => exact cached
  | ok members =>
    have unread : members.outboundsCache = history.members.outboundsCache := start_outboundsCache starts
    change Caches tagOf options history.latest history.refused members.outboundsCache
    rwa [unread]

theorem History.update_cached (cached : history.Cached tagOf options) (managers : Managers tagOf) (updatedTag : String) :
    (history.update options managers updatedTag).Cached tagOf options := by
  constructor
  · intro providerTag isAccepted
    simp only [History.update] at isAccepted ⊢
    cases accepts : onProviderUpdated options managers history.members updatedTag with
    | error =>
      -- what the group was told of, it has refused
      simp only [accepts, Except.isOk, Except.toBool, Bool.not_false, Bool.if_true_left, Bool.or_eq_false_iff,
        decide_eq_false_iff_not] at isAccepted
      rw [Latest.take, if_neg isAccepted.1]
      exact cached.cached providerTag isAccepted.2
    | ok members =>
      obtain ⟨reads, -, caches⟩ := collected accepts
      rw [reads] at isAccepted ⊢
      rw [show (Except.ok members : Except String _).toOption.getD history.members = members from rfl, caches]
      split
      next isMember =>
        exact cached.current isMember fun untold => by simpa [untold] using isAccepted
      next notMember =>
        have untold : history.latest.told options updatedTag true providerTag = false := by simp [Latest.told, notMember]
        rw [Latest.take, untold]
        exact cached.cached providerTag (by simpa [untold] using isAccepted)
  · intro providerTag isUntold
    simp only [History.update, Latest.take] at isUntold ⊢
    split at isUntold
    · cases isUntold
    next untold =>
      rw [if_neg untold]
      exact cached.untold providerTag isUntold

/-- The members of an accepted update are collected from what the group was last told. -/
theorem History.update_collected (cached : history.Cached tagOf options)
    (accepts : onProviderUpdated options managers history.members updatedTag = .ok next)
    (upToDate : (history.update options managers updatedTag).UpToDate options) :
    Collected options managers ((history.update options managers updatedTag).latest.provided tagOf options) next := by
  obtain ⟨reads, isCollected, -⟩ := collected accepts
  have isProvided : options.providerTags.flatMap (current options managers updatedTag history.members.outboundsCache) =
      (history.update options managers updatedTag).latest.provided tagOf options := by
    refine flatMap_congr fun providerTag isMember => ?_
    have isAccepted := upToDate providerTag isMember
    simp only [History.update, reads] at isAccepted ⊢
    have isCurrent : some (current options managers updatedTag history.members.outboundsCache providerTag) = _ :=
      cached.current isMember fun untold => by simpa [untold] using isAccepted
    cases taken : history.latest.take options managers updatedTag true providerTag with
    | none => simp [taken] at isCurrent
    | some detours => simpa [taken] using isCurrent
  rwa [isProvided] at isCollected

end Updates

/-- In every run, the members after an accepted update follow the configuration and the providers
exactly if the update has been given the configured outbounds as the direct ones, as long as the
group has accepted what it was last told of each provider. -/
theorem Configuration.members_follow_iff (configuration : Configuration) (events : List (Event tagOf)) :
    EveryStep configuration.deliver (fun history event => ∀ managers updatedTag members,
      event = .update managers updatedTag →
      onProviderUpdated configuration.toOptions managers history.members updatedTag = .ok members →
      let latest := (history.update configuration.toOptions managers updatedTag).latest
      (history.update configuration.toOptions managers updatedTag).UpToDate configuration.toOptions →
      (Follows configuration.toOptions managers latest members ↔
        configuration.Plain ∨ configuration.OnlyCompatible tagOf latest))
      {} events := by
  have initially : History.Cached tagOf configuration.toOptions {} := ⟨fun _ _ => rfl, fun _ _ => rfl⟩
  refine everyStep_of_invariant ?_ ?_ initially events
  · rintro history event cached managers updatedTag members - accepts latest upToDate
    exact follows_iff (history.update_collected cached accepts upToDate)
  · rintro history event next cached delivers
    cases event with
    | start managers =>
      cases delivers
      exact history.start_cached cached managers
    | update managers updatedTag =>
      cases delivers
      exact history.update_cached cached managers updatedTag

/-! ## A URL test with an outbound for UDP, and a selector with a default -/

/-- Every outbound there is, and what the providers have. -/
def directory (p q : List String) : Managers (id : String → String) where
  outbound tag := if tag ∈ ["a", "u", "f", "Compatible"] then some tag else none
  contents providerTag := if providerTag = "p" then p else if providerTag = "q" then q else []
  tagged tag detour found := by
    split at found
    · exact (Option.some.inj found).symm
    · cases found

def delegatingUrlTest : Configuration where
  kind := .urlTest
  tag := "auto"
  outbounds := ["a"]
  providerTags := ["p"]
  udpOutbound := "u"
  udpFallbackOutbound := "f"
  required _ := by decide
  unlisted _ := by decide
  fallbackUnlisted _ := by decide

def defaultSelector : Configuration where
  kind := .selector
  tag := "select"
  outbounds := ["a"]
  providerTags := ["p", "q"]
  default := "p/hk"
  required unset := absurd rfl unset
  unlisted unset := absurd rfl unset
  fallbackUnlisted unset := absurd rfl unset

/-- The outbounds for UDP become members of the URL test. The selector refuses an update that takes
its default away, and an update of another provider is accepted without it. -/
theorem udp_outbounds_become_members :
    (∃ next, run delegatingUrlTest.deliver {} [.update (directory ["x"] []) "p"] = some next ∧
        next.members.tags = ["a", "u", "f", "x"] ∧
        ¬Follows delegatingUrlTest.toOptions (directory ["x"] []) next.latest next.members) ∧
      ∃ next, run defaultSelector.deliver {} [.update (directory ["p/hk"] ["q/z1"]) "p",
          .update (directory ["p/us"] ["q/z1"]) "p", .update (directory ["p/us"] ["q/z2"]) "q"] = some next ∧
        next.members.tags = ["a", "p/hk", "q/z2"] ∧
        ¬Follows defaultSelector.toOptions (directory ["p/us"] ["q/z2"]) next.latest next.members := by
  refine ⟨⟨_, rfl, by decide +kernel, fun follows => ?_⟩, _, rfl, by decide +kernel, fun follows => ?_⟩
  · exact absurd follows.outbounds (by decide +kernel)
  · exact absurd follows.outbounds (by decide +kernel)

end SingBox.Group
