import SingBox.Rule.NewHeadless
import SingBox.Srs.Mmap

/-! # Mapped rule sets match like their source

The rules that are built from a mapped file are those that are built from the source once
its `domain_match_strategy` and its empty lists are forgotten: the file carries everything
else.
-/

open List

namespace SingBox.Srs

open Lib.Bytes Lib.Codec Options HeadlessRule

variable {matchers : Matchers}

/-! ## What a file does not carry -/

/-- A default rule without its strategy, and with nil for empty lists. -/
def forget (rule : Options.DefaultHeadlessRule matchers) :
    Options.DefaultHeadlessRule matchers :=
  { rule with domainMatchStrategy := .asIs, hasEmptyList := false }

mutual
def forgetRule : Options.HeadlessRule matchers → Options.HeadlessRule matchers
  | .default options => .default (forget options)
  | .logical mode rules _ invert => .logical mode (forgetRules rules) .asIs invert
  | .unknown type => .unknown type
def forgetRules : List (Options.HeadlessRule matchers) → List (Options.HeadlessRule matchers)
  | [] => []
  | rule :: rules => forgetRule rule :: forgetRules rules
end

section Build

variable {libraries : MmapLibraries matchers} {context : RuleContext} {version : UInt8}
  {rule : Options.DefaultHeadlessRule matchers}

/-- The default rule that is read from a mapped file. -/
abbrev mapped (libraries : MmapLibraries matchers) (version : UInt8)
    (rule : Options.DefaultHeadlessRule matchers) : Options.DefaultHeadlessRule matchers :=
  readBack libraries.toPackages true false version rule

theorem accepts_newMatcher (domains suffixes : List Text) (generateLegacy : Bool) :
    libraries.accepts (libraries.newMatcher domains suffixes generateLegacy) =
      libraries.accepts (libraries.newMatcher domains suffixes false) := by
  cases generateLegacy with
  | false => rfl
  | true => exact libraries.accepts_legacy domains suffixes

theorem domainItems_mapped (builds : Builds libraries.toPackages rule) (strategy : DomainMatchStrategy) :
    domainItems libraries.toPackages context strategy (mapped libraries version rule) =
      domainItems libraries.toPackages context strategy rule := by
  unfold domainItems
  rw [if_neg (by simp [readBack])]
  by_cases nonempty : rule.domain ≠ [] ∨ rule.domainSuffix ≠ []
  · rw [if_pos nonempty, newDomainItem, if_neg builds.domain, if_neg builds.domainSuffix]
    simp [readBack, writtenMatcher, nonempty, newRawDomainItem, accepts_newMatcher, Except.map]
  · simp [readBack, writtenMatcher, nonempty]

theorem adGuardDomainItems_mapped (strategy : DomainMatchStrategy) :
    adGuardDomainItems libraries.toPackages context strategy (mapped libraries version rule) =
      adGuardDomainItems libraries.toPackages context strategy rule := by
  unfold adGuardDomainItems
  by_cases nonempty : rule.adGuardDomain ≠ []
  · simp [readBack, writtenAdGuardMatcher, nonempty, newAdGuardDomainItem]
  · simp [readBack, writtenAdGuardMatcher, nonempty]

variable {networks : List (Option Prefix)}

/-- Without a missing prefix the two ways to build a set agree. -/
theorem newIPCIDRItem_of_buildCIDR {set : Ipset.Set} (built : buildCIDR libraries.toPackages networks = .ok set) :
    newIPCIDRItem libraries.toPackages networks = .ok set := by
  have complete (networks : List (Option Prefix)) (index : Nat) (complete : firstMissing networks index = none) :
      networks.map buildPrefix = networks.filterMap id := by
    induction networks generalizing index with
    | nil => rfl
    | cons network networks ih =>
      cases network with
      | none => cases complete
      | some network => simp [buildPrefix, ih (index + 1) complete]
  unfold buildCIDR at built
  split at built
  case h_1 => cases built
  case h_2 noneMissing =>
    rw [newIPCIDRItem, complete networks 0 noneMissing]
    exact built

theorem ipSets_written (name : String) (rawSet : Option Ipset.Set)
    (builds : networks ≠ [] → ∃ set, buildCIDR libraries.toPackages networks = .ok set) :
    ipSets libraries.toPackages name [] (writtenSet libraries.toPackages true networks rawSet) =
      ipSets libraries.toPackages name networks rawSet := by
  unfold ipSets
  rw [if_neg (by simp)]
  by_cases nonempty : networks ≠ []
  · obtain ⟨set, built⟩ := builds nonempty
    rw [if_pos nonempty, newIPCIDRItem_of_buildCIDR built, writtenSet, if_pos nonempty, built]
    rfl
  · rw [if_neg nonempty, writtenSet, if_neg nonempty, if_pos rfl]

section
variable (builds : Builds libraries.toPackages rule)
include builds

theorem sourceSets_mapped (name : String) :
    ipSets libraries.toPackages name (mapped libraries version rule).sourceIPCIDR
        (mapped libraries version rule).sourceIPSet =
      ipSets libraries.toPackages name rule.sourceIPCIDR rule.sourceIPSet := by
  have empty : (mapped libraries version rule).sourceIPCIDR = [] := recovered_false _ _
  rw [empty]
  exact ipSets_written name rule.sourceIPSet builds.sourceIPCIDR

theorem destinationSets_mapped (name : String) :
    ipSets libraries.toPackages name (mapped libraries version rule).ipCIDR (mapped libraries version rule).ipSet =
      ipSets libraries.toPackages name rule.ipCIDR rule.ipSet := by
  have empty : (mapped libraries version rule).ipCIDR = [] := recovered_false _ _
  rw [empty]
  exact ipSets_written name rule.ipSet builds.ipCIDR

end

theorem isNone_writtenMatcher : (writtenMatcher libraries.toPackages true version rule).isNone =
    (rule.domain.isEmpty && rule.domainSuffix.isEmpty && rule.domainMatcher.isNone) := by
  unfold writtenMatcher
  cases rule.domain <;> cases rule.domainSuffix <;> simp

theorem isNone_writtenAdGuardMatcher : (writtenAdGuardMatcher libraries.toPackages true rule).isNone =
    (rule.adGuardDomain.isEmpty && rule.adGuardDomainMatcher.isNone) := by
  unfold writtenAdGuardMatcher
  cases rule.adGuardDomain <;> simp

theorem isNone_writtenSet (rawSet : Option Ipset.Set)
    (builds : networks ≠ [] → ∃ set, buildCIDR libraries.toPackages networks = .ok set) :
    (writtenSet libraries.toPackages true networks rawSet).isNone = (networks.isEmpty && rawSet.isNone) := by
  unfold writtenSet
  by_cases nonempty : networks ≠ []
  · obtain ⟨set, built⟩ := builds nonempty
    rw [if_pos nonempty, built]
    simp [Except.toOption, nonempty]
  · simp_all

theorem isValid_mapped (builds : Builds libraries.toPackages rule) :
    (mapped libraries version rule).isValid = (forget rule).isValid := by
  simp only [DefaultHeadlessRule.isValid, mapped, readBack, forget, recovered_false, isEmpty_nil,
    Bool.and_true, isNone_writtenMatcher, isNone_writtenAdGuardMatcher,
    isNone_writtenSet rule.sourceIPSet builds.sourceIPCIDR, isNone_writtenSet rule.ipSet builds.ipCIDR]
  congr 1
  ac_rfl

end Build

variable {rule : Options.HeadlessRule matchers}

/-! ## Rules that are built alike -/

section Rules

variable {libraries : MmapLibraries matchers} {packages : Packages matchers}
  {context : RuleContext} {version : UInt8} {rules : List (Options.HeadlessRule matchers)}
  {f g : Options.HeadlessRule matchers → Options.HeadlessRule matchers}

def Alike (packages : Packages matchers) (context : RuleContext)
    (first second : Options.HeadlessRule matchers) : Prop :=
  first.isValid = second.isValid ∧ newHeadlessRule packages context first = newHeadlessRule packages context second

section
variable (alike : ∀ rule ∈ rules, Alike packages context (f rule) (g rule))
include alike

theorem newHeadlessRules_alike (name : String) (index : Nat) :
    newHeadlessRules packages context name index (rules.map f) = newHeadlessRules packages context name index
    (rules.map g) := by
  induction rules generalizing index with
  | nil => rfl
  | cons rule rules ih =>
    obtain ⟨first, rest⟩ := forall_mem_cons.mp alike
    rw [map_cons, map_cons, newHeadlessRules, newHeadlessRules, first.2, ih rest]

theorem allValid_alike : allValid (rules.map f) = allValid (rules.map g) := by
  induction rules with
  | nil => rfl
  | cons rule rules ih =>
    obtain ⟨first, rest⟩ := forall_mem_cons.mp alike
    rw [map_cons, map_cons, allValid, allValid, first.1, ih rest]

/-- The strategy of a logical rule is never looked at. -/
theorem alike_logical (mode : Options.LogicalMode) (strategy other : DomainMatchStrategy) (invert : Bool) :
    Alike packages context (.logical mode (rules.map f) strategy invert)
    (.logical mode (rules.map g) other invert) := by
  have valid : (Options.HeadlessRule.logical mode (rules.map f) strategy invert).isValid =
      (Options.HeadlessRule.logical mode (rules.map g) other invert).isValid := by
    rw [isValid, isValid, allValid_alike alike, isEmpty_map, isEmpty_map]
  refine ⟨valid, ?_⟩
  rw [newHeadlessRule, newHeadlessRule, valid, newHeadlessRules_alike alike]

end

theorem forgetRules_eq_map (rules : List (Options.HeadlessRule matchers)) :
    forgetRules rules = rules.map forgetRule := by
  induction rules with
  | nil => rfl
  | cons rule rules ih => rw [forgetRules, ih, map_cons]

theorem alike_mapped (builds : rule.Everywhere (Builds libraries.toPackages) fun _ => True) :
    Alike libraries.toPackages context (readBackRule libraries.toPackages true false version rule)
    (forgetRule rule) := by
  induction builds with
  | default builds =>
    refine ⟨congrArg Except.ok (isValid_mapped builds), ?_⟩
    rw [readBackRule, forgetRule, newHeadlessRule, newHeadlessRule, isValid_mapped builds]
    unfold newDefaultHeadlessRule
    simp only [domainItems_mapped builds, adGuardDomainItems_mapped, sourceSets_mapped builds,
      destinationSets_mapped builds]
    rfl
  | logical _ _ ih =>
    rw [readBackRule, forgetRule, readBackRules_eq_map, forgetRules_eq_map]
    exact alike_logical ih _ _ _ _
  | unknown type => exact ⟨rfl, rfl⟩

/-! ## Files -/

/-- A file is read when its addresses can be, and its rules are then the source's without what
the file does not carry. -/
theorem ReadMmap_of_WriteMmap {ruleSet : PlainRuleSet matchers} {file : Bytes}
    (ok : WriteMmap libraries ruleSet version = .ok file) (fits : file.length < 2 ^ 63)
    (depth : Options.HeadlessRule.depths ruleSet.rules ≤ maxLogicalRuleDepth) :
    ((∀ rule ∈ ruleSet.rules, ReadableRule rule) → ∃ rules, ReadMmap libraries file = .ok ⟨version, rules⟩ ∧
      ∀ context, buildRules libraries.toPackages context rules =
        buildRules libraries.toPackages context (forgetRules ruleSet.rules)) ∧
    ((¬∀ rule ∈ ruleSet.rules, ReadableRule rule) → ∃ err, ReadMmap libraries file = .error err) := by
  unfold WriteMmap at ok
  cases isWritten : writeRules libraries.toPackages (mmapSink libraries) version ruleSet.rules [] with
  | error err =>
    rw [isWritten] at ok
    cases ok
  | ok result =>
    obtain ⟨stream, blobs⟩ := result
    rw [isWritten] at ok
    cases ok
    have written := writeRules_written false (mmap_readBy fits) ruleSet.rules ruleSet.rulesFit (Nat.lt_succ_of_le depth)
      isWritten
    have answers := written.counted ruleSet.fits prefix_rfl fun index => s!"read rule[{index}]"
    constructor
    · intro readable
      have reads := answers.reads readable []
      rw [append_nil] at reads
      refine ⟨readBackRules libraries.toPackages true false version ruleSet.rules, ?_, fun context => ?_⟩
      · rw [ReadMmap_layout fits, show readRules _ _ _ _ = _ from reads]
        rfl
      · rw [readBackRules_eq_map, forgetRules_eq_map]
        exact newHeadlessRules_alike (fun rule isRule => alike_mapped (written.builds rule isRule)) _ _
    · intro unreadable
      obtain ⟨err, fails⟩ := answers.fails unreadable []
      rw [append_nil] at fails
      refine ⟨err, ?_⟩
      rw [ReadMmap_layout fits, show readRules _ _ _ _ = _ from fails]
      rfl

/-! ## Verdicts -/

/-- Every rule gives the same verdict on every metadata, or neither list of rules can be
built. -/
def SameVerdicts (first second : Except String (List SingBox.HeadlessRule)) : Prop :=
  match first, second with
  | .ok first, .ok second => ∀ (env : Environment) (metadata : InboundContext),
      first.map (fun rule => (rule.match env metadata).1) = second.map fun rule => (rule.match env metadata).1
  | .error _, .error _ => True
  | _, _ => False

/-- A mapped rule set matches like its source exactly when every interface prefix is there
and forgetting the strategies and the empty lists changes no verdict. -/
theorem mapped_matches_iff (libraries : MmapLibraries matchers) (context : RuleContext)
    (ruleSet : PlainRuleSet matchers) (version : UInt8) {file : Bytes}
    (ok : WriteMmap libraries ruleSet version = .ok file) (fits : file.length < 2 ^ 63)
    (depth : Options.HeadlessRule.depths ruleSet.rules ≤ 100) :
    (∃ mapped, ReadMmap libraries file = .ok mapped ∧
      SameVerdicts (buildRules libraries.toPackages context mapped.rules)
        (buildRules libraries.toPackages context ruleSet.rules)) ↔
      (∀ rule ∈ ruleSet.rules, rule.Everywhere DefaultHeadlessRule.ReadableAddresses fun _ => True) ∧
      SameVerdicts (buildRules libraries.toPackages context (forgetRules ruleSet.rules))
        (buildRules libraries.toPackages context ruleSet.rules) := by
  by_cases readable : ∀ rule ∈ ruleSet.rules, rule.Everywhere DefaultHeadlessRule.ReadableAddresses fun _ => True
  · obtain ⟨rules, isRead, sameRules⟩ := (ReadMmap_of_WriteMmap ok fits depth).1 readable
    constructor
    · rintro ⟨mapped, isMapped, same⟩
      cases isRead.symm.trans isMapped
      rw [sameRules context] at same
      exact ⟨readable, same⟩
    · rintro ⟨_, same⟩
      rw [← sameRules context] at same
      exact ⟨_, isRead, same⟩
  · obtain ⟨err, failed⟩ := (ReadMmap_of_WriteMmap ok fits depth).2 readable
    constructor
    · rintro ⟨mapped, isMapped, _⟩
      cases failed.symm.trans isMapped
    · exact fun both => absurd both.1 readable

/-! ### Rules that lose nothing -/

/-- A default rule without a strategy and without empty lists. -/
def Plain (rule : Options.DefaultHeadlessRule matchers) : Prop :=
  rule.domainMatchStrategy = .asIs ∧ rule.hasEmptyList = false

theorem alike_forget (plain : rule.Everywhere Plain fun _ => True) :
    Alike libraries.toPackages context (forgetRule rule) rule := by
  induction plain with
  | default plain =>
    rw [forgetRule, forget, ← plain.1, ← plain.2]
    exact ⟨rfl, rfl⟩
  | @logical mode rules strategy invert _ _ ih =>
    have alike := alike_logical ih mode .asIs strategy invert
    rwa [map_id', ← forgetRules_eq_map] at alike
  | unknown type => exact ⟨rfl, rfl⟩

theorem sameVerdicts_refl (rules : Except String (List SingBox.HeadlessRule)) : SameVerdicts rules rules := by
  cases rules with
  | error err => exact trivial
  | ok rules => exact fun _ _ => rfl

/-- Rules without strategies and empty lists match alike. -/
theorem sameVerdicts_of_plain (plain : ∀ rule ∈ rules, rule.Everywhere Plain fun _ => True) :
    SameVerdicts (buildRules libraries.toPackages context (forgetRules rules))
      (buildRules libraries.toPackages context rules) := by
  have same (rule) (isRule : rule ∈ rules) : Alike libraries.toPackages context (forgetRule rule) rule :=
    alike_forget (plain rule isRule)
  have alike := newHeadlessRules_alike same "parse rule_set.rules.[" 0
  rw [map_id', ← forgetRules_eq_map] at alike
  rw [buildRules, alike]
  exact sameVerdicts_refl _

end Rules

/-! ## Two files -/

namespace Sample

/-- Packages for rules without domains and prefixes. -/
def mmapPackages : MmapLibraries ⟨Unit, Unit⟩ where
  newMatcher _ _ _ := ()
  newAdGuardMatcher _ := ()
  accepts _ _ := false
  acceptsAdGuard _ _ := false
  dump _ := ([], [])
  dumpAdGuard _ := []
  buildIPSet _ := .error "not built"
  prefixes _ := []
  order := .little
  mmap _ := {}
  newMatcherFromMmap _ := .ok ()
  newMatcherFromMmap_mmap _ := rfl
  mmapAdGuard _ := {}
  newAdGuardMatcherFromMmap _ := .ok ()
  newAdGuardMatcherFromMmap_mmap _ := rfl
  accepts_legacy _ _ := rfl

def context : RuleContext where
  compile _ := .error "not compiled"
  decode text := String.ofList (text.map fun byte => Char.ofNat byte.toNat)
  encode host := host.toUTF8.toList

variable (strategy : DomainMatchStrategy)

/-- `domain_keyword: ads`. -/
def keywordRules : PlainRuleSet ⟨Unit, Unit⟩ where
  rules := [.default { domainKeyword := [[0x61, 0x64, 0x73]], domainMatchStrategy := strategy }]
  fits := by simp [Options.Fits]
  rulesFit := by
    simp only [List.forall_mem_singleton]
    refine .default ?_
    constructor <;> simp [Options.Fits, TextsFit, AddressesFit]

theorem keywordRules_readable :
    ∀ rule ∈ (keywordRules strategy).rules, rule.Everywhere DefaultHeadlessRule.ReadableAddresses fun _ => True := by
  simp only [keywordRules, forall_mem_singleton]
  exact .default ⟨by simp, by simp⟩

/-- A connection to an address, with a sniffed name. -/
def sniffed : InboundContext :=
  { destination := { addr := some (.v4 0x08080808#32), port := 443 }, sniffHost := "ads.example.org" }

end Sample

theorem keyword_matches_alike :
    ∃ file, WriteMmap Sample.mmapPackages (Sample.keywordRules .asIs) 1 = .ok file ∧
      ∃ mapped, ReadMmap Sample.mmapPackages file = .ok mapped ∧
        SameVerdicts (buildRules Sample.mmapPackages.toPackages Sample.context mapped.rules)
          (buildRules Sample.mmapPackages.toPackages Sample.context (Sample.keywordRules .asIs).rules) := by
  refine ⟨_, rfl, ?_⟩
  refine (mapped_matches_iff Sample.mmapPackages Sample.context (Sample.keywordRules .asIs) 1 rfl (by decide)
    (by decide)).mpr ⟨Sample.keywordRules_readable .asIs, sameVerdicts_of_plain ?_⟩
  simp only [Sample.keywordRules, List.forall_mem_singleton]
  exact .default ⟨rfl, rfl⟩

/-- `domain_match_strategy: fqdn_only` is lost: the mapped rule matches the sniffed name. -/
theorem keyword_strategy_is_lost :
    ∃ file, WriteMmap Sample.mmapPackages (Sample.keywordRules .fqdnOnly) 1 = .ok file ∧
      ¬∃ mapped, ReadMmap Sample.mmapPackages file = .ok mapped ∧
        SameVerdicts (buildRules Sample.mmapPackages.toPackages Sample.context mapped.rules)
          (buildRules Sample.mmapPackages.toPackages Sample.context (Sample.keywordRules .fqdnOnly).rules) := by
  refine ⟨_, rfl, ?_⟩
  rintro ⟨mapped, isMapped, same⟩
  obtain ⟨rules, isRead, sameRules⟩ := (@ReadMmap_of_WriteMmap _ Sample.mmapPackages 1 (Sample.keywordRules .fqdnOnly) _
    rfl (by decide) (by decide)).1 (Sample.keywordRules_readable .fqdnOnly)
  cases isRead.symm.trans isMapped
  rw [sameRules Sample.context] at same
  have verdicts := same {} Sample.sniffed
  revert verdicts
  decide

end SingBox.Srs
