import SingBox.Dns.RuleLegacy
import SingBox.Lib.Machine

/-! # Updates of rule sets while the DNS router runs

The router chooses its mode once, at its start. A rule set that is updated later first asks
`ValidateRuleSetMetadataUpdate`, which looks at the metadata installed at that moment, and
installs its own afterwards, under another lock. Two updates that were both accepted may
be installed one after the other.

In the legacy mode that is harmless: one condition anywhere disables the mode, so each
update is judged by itself (`quiet_iff`). Outside of it a condition of one rule set excuses
an address filter of another, and taking the first away while the second is on its way
leaves the router in the wrong mode. An update that no other rule set overtakes is installed
into what it was validated against (`rule_set_updates_right`).
-/

open List Option

namespace SingBox

open Lib.Guard Lib.Machine Options.DNSRule

/-! ## The model -/

abbrev InstalledRuleSets := String → Option RuleSetMetadata

def InstalledRuleSets.install (installed : InstalledRuleSets) (tag : String) (metadata : RuleSetMetadata) :
    InstalledRuleSets := fun other => if other = tag then some metadata else installed other

/-- The mode that `Start` gives the router, if it accepts the rules. -/
def startMode (rawRules : List Options.DNSRule) (installed : InstalledRuleSets) : Except String Bool := do
  let (legacyDNSMode, _) ← resolveLegacyDNSMode (lookupDNSRuleSetMetadata installed []) rawRules
  if legacyDNSMode then return true
  else do
    let _ ← validateLegacyDNSModeDisabledRules (lookupDNSRuleSetMetadata installed []) rawRules
    return false

/-- The fields of the DNS router that an update looks at. -/
structure DNSRouterMode where
  rawRules : List Options.DNSRule
  started : Bool := true
  legacyDNSMode : Bool
  closing : Bool := false

variable (router : DNSRouterMode)

def validateRuleSetMetadataUpdate (installed : InstalledRuleSets) (tag : String)
    (metadata : RuleSetMetadata) : Except String Unit :=
  if router.rawRules = [] ∨ router.closing then .ok ()
  else do
    let lookup := lookupDNSRuleSetMetadata installed [(tag, metadata)]
    let (candidateLegacyDNSMode, flags) ← resolveLegacyDNSMode lookup router.rawRules
    if !router.started then
      if candidateLegacyDNSMode then return
      else do
        let _ ← validateLegacyDNSModeDisabledRules lookup router.rawRules
        return
    else if router.legacyDNSMode then
      if !candidateLegacyDNSMode && flags.disabled then do
        let _ ← validateLegacyDNSModeDisabledRules lookup router.rawRules
        .error optionLegacyDNSAddressFilter
      else return
    else if candidateLegacyDNSMode then .error optionLegacyDNSAddressFilter
    else do
      let _ ← validateLegacyDNSModeDisabledRules lookup router.rawRules
      return

/-- An update that was accepted, with a record of the rule sets installed since then, which no
step looks at. -/
structure RuleSetUpdate where
  tag : String
  metadata : RuleSetMetadata
  since : List String := []

def RuleSetUpdate.overtakenBy (update : RuleSetUpdate) (tag : String) : RuleSetUpdate :=
  { update with since := tag :: update.since }

/-- The rule sets, and the updates that were accepted but are not installed yet. -/
structure RuleSetUpdates where
  installed : InstalledRuleSets
  validated : List RuleSetUpdate := []

inductive UpdateStep where
  | validate (tag : String) (metadata : RuleSetMetadata)
  | install (index : Nat)

/-- The steps of `reloadRules`, of any rule set of the router. -/
def RuleSetUpdates.step (state : RuleSetUpdates) : UpdateStep → Option RuleSetUpdates
  | .validate tag metadata =>
    if (state.installed tag).isNone then none
    else match validateRuleSetMetadataUpdate router state.installed tag metadata with
      | .ok _ => some { state with validated := state.validated ++ [{ tag, metadata }] }
      | .error _ => some state
  | .install index => state.validated[index]?.map fun update => {
      installed := state.installed.install update.tag update.metadata
      validated := (state.validated.eraseIdx index).map fun other => other.overtakenBy update.tag }

/-! ## Conditions that disable the legacy mode -/

namespace Options

mutual
def DNSRule.ruleSetTags : DNSRule → List String
  | .default rule _ _ => rule.ruleSet
  | .logical _ rules _ _ => DNSRule.allRuleSetTags rules
def DNSRule.allRuleSetTags : List DNSRule → List String
  | [] => []
  | rule :: rules => rule.ruleSetTags ++ DNSRule.allRuleSetTags rules
end

end Options

section Quiet

variable {lookup : String → Except String RuleSetMetadata}

/-- The rule set is known and has no condition that disables the legacy mode. -/
def QuietRuleSet (lookup : String → Except String RuleSetMetadata) (tag : String) : Prop :=
  ∃ metadata, lookup tag = .ok metadata ∧ metadata.containsDNSQueryTypeRule = false

/-- The flags are known and do not disable the legacy mode. -/
def Quiet (flags : Except String DnsRuleModeFlags) : Prop := ∃ found, flags = .ok found ∧ found.disabled = false

/-- A lookup that finds nothing in any rule set. -/
def emptyRuleSets : String → Except String RuleSetMetadata := fun _ => .ok {}

theorem quiet_mergeRuleSetFlags (matchSource : Bool) (tags : List String) (flags : DnsRuleModeFlags) :
    Quiet (mergeRuleSetFlags lookup matchSource tags flags) ↔
      flags.disabled = false ∧ ∀ tag ∈ tags, QuietRuleSet lookup tag := by
  induction tags generalizing flags with
  | nil => simp [Quiet, mergeRuleSetFlags]
  | cons tag tags ih =>
    rw [mergeRuleSetFlags, forall_mem_cons, QuietRuleSet]
    cases found : lookup tag with
    | error => simp [Quiet]
    | ok metadata =>
      change Quiet (mergeRuleSetFlags lookup matchSource tags _) ↔ _
      rw [ih]
      simp [and_assoc]

theorem quietRuleSet_empty (tag : String) : QuietRuleSet emptyRuleSets tag := ⟨{}, rfl, rfl⟩

theorem quiet_bind {first : Except String DnsRuleModeFlags} {name : String}
    {next : DnsRuleModeFlags → Except String DnsRuleModeFlags} {condition : Prop}
    (rest : ∀ found, Quiet (next found) ↔ found.disabled = false ∧ condition) :
    Quiet (Srs.cause name first >>= next) ↔ Quiet first ∧ condition := by
  cases first with
  | error =>
    change Quiet (.error _) ↔ _
    simp [Quiet]
  | ok found =>
    change Quiet (next found) ↔ _
    rw [rest]
    simp [Quiet]

theorem quiet_from (name : String) (index : Nat) (rules : List Options.DNSRule) (flags : DnsRuleModeFlags) :
    Quiet (dnsRuleModeRequirementsFrom lookup name index rules flags) ↔
      flags.disabled = false ∧ ∀ rule ∈ rules, Quiet (dnsRuleModeRequirementsInRule lookup rule) := by
  induction rules generalizing index flags with
  | nil => simp [Quiet, dnsRuleModeRequirementsFrom]
  | cons rule rules ih =>
    rw [dnsRuleModeRequirementsFrom, forall_mem_cons, and_left_comm]
    apply quiet_bind
    intro found
    rw [ih]
    simp only [DnsRuleModeFlags.merge, Bool.or_eq_false_iff]
    rw [and_comm (a := flags.disabled = false), and_assoc]

mutual
/-- What a rule says by itself and what its rule sets say are independent of each other. -/
theorem quiet_inRule_iff : (rule : Options.DNSRule) →
    (Quiet (dnsRuleModeRequirementsInRule lookup rule) ↔
      Quiet (dnsRuleModeRequirementsInRule emptyRuleSets rule) ∧ ∀ tag ∈ rule.ruleSetTags, QuietRuleSet lookup tag)
  | .default rule action _ => by
    simp only [dnsRuleModeRequirementsInRule, dnsRuleModeRequirementsInDefaultRule, quiet_mergeRuleSetFlags,
      quietRuleSet_empty, ruleSetTags, implies_true, and_true]
  | .logical _ rules _ action => by
    simp only [dnsRuleModeRequirementsInRule, ruleSetTags, quiet_from]
    rw [quiet_inRules_iff rules, and_assoc]
theorem quiet_inRules_iff : (rules : List Options.DNSRule) →
    ((∀ rule ∈ rules, Quiet (dnsRuleModeRequirementsInRule lookup rule)) ↔
      (∀ rule ∈ rules, Quiet (dnsRuleModeRequirementsInRule emptyRuleSets rule)) ∧
        ∀ tag ∈ allRuleSetTags rules, QuietRuleSet lookup tag)
  | [] => by simp [allRuleSetTags]
  | rule :: rules => by
    rw [forall_mem_cons, forall_mem_cons, allRuleSetTags, forall_mem_append,
      quiet_inRule_iff rule, quiet_inRules_iff rules]
    exact and_and_and_comm
end

/-- The legacy mode is disabled by a rule or by a rule set, each of them alone. -/
theorem quiet_iff (rules : List Options.DNSRule) :
    Quiet (dnsRuleModeRequirements lookup rules) ↔
      Quiet (dnsRuleModeRequirements emptyRuleSets rules) ∧
        ∀ tag ∈ allRuleSetTags rules, QuietRuleSet lookup tag := by
  simp only [dnsRuleModeRequirements, quiet_from]
  rw [quiet_inRules_iff rules, and_assoc]

end Quiet

/-! ## Validation and the mode -/

/-- With these rule sets installed the router is in the mode it runs in: outside of the
legacy mode nothing requires it and the rules are accepted, and in the legacy mode
nothing disables it. -/
def RightMode (installed : InstalledRuleSets) : Prop :=
  let lookup := lookupDNSRuleSetMetadata installed []
  if router.legacyDNSMode then Quiet (dnsRuleModeRequirements lookup router.rawRules)
  else (∃ flags, resolveLegacyDNSMode lookup router.rawRules = .ok (false, flags)) ∧
    ∃ warnings, validateLegacyDNSModeDisabledRules lookup router.rawRules = .ok warnings

/-- The metadata that a validation assumes is that of the rule sets once the update is
installed. -/
theorem lookup_install (installed : InstalledRuleSets) (tag : String) (metadata : RuleSetMetadata) :
    lookupDNSRuleSetMetadata (installed.install tag metadata) [] = lookupDNSRuleSetMetadata installed [(tag, metadata)] := by
  funext other
  unfold lookupDNSRuleSetMetadata InstalledRuleSets.install
  by_cases same : other = tag
  · subst same
    simp
  · have different : (other == tag) = false := by simpa using same
    simp [same, List.lookup_cons, different]

theorem resolveLegacyDNSMode_eq_ok_iff {lookup : String → Except String RuleSetMetadata} {rules : List Options.DNSRule}
    {mode : Bool} {flags : DnsRuleModeFlags} :
    resolveLegacyDNSMode lookup rules = .ok (mode, flags) ↔
      dnsRuleModeRequirements lookup rules = .ok flags ∧
        ¬(flags.disabled ∧ flags.neededFromStrategy) ∧
        mode = if flags.disabled then false else flags.needed := by
  unfold resolveLegacyDNSMode
  simp only [bind_eq_ok, ensure_eq_ok, pure_eq_ok]
  constructor
  · rintro ⟨found, isFound, -, allowed, result⟩
    cases result
    exact ⟨isFound, allowed, rfl⟩
  · rintro ⟨isFound, allowed, rfl⟩
    exact ⟨flags, isFound, (), allowed, rfl⟩

variable {next state : RuleSetUpdates} {router : DNSRouterMode} {installed : InstalledRuleSets} {label : UpdateStep}

section
variable (started : router.started) (running : router.closing = false) (installed : InstalledRuleSets) (tag : String)
  (metadata : RuleSetMetadata)
include started running

section
variable (nonempty : router.rawRules ≠ [])
include nonempty

/-- The update is judged as if it was installed: in the legacy mode. -/
theorem validate_legacy_iff (legacy : router.legacyDNSMode) :
    validateRuleSetMetadataUpdate router installed tag metadata = .ok () ↔
      Quiet (dnsRuleModeRequirements (lookupDNSRuleSetMetadata installed [(tag, metadata)]) router.rawRules) := by
  have skips : ¬(router.rawRules = [] ∨ router.closing) := by simp [nonempty, running]
  rw [validateRuleSetMetadataUpdate, if_neg skips, bind_eq_ok]
  simp only [started, legacy, Bool.not_true, Bool.false_eq_true, if_false, if_true]
  constructor
  · rintro ⟨⟨mode, flags⟩, resolved, accepted⟩
    obtain ⟨found, -, isMode⟩ := resolveLegacyDNSMode_eq_ok_iff.mp resolved
    refine ⟨flags, found, ?_⟩
    by_contra disabled
    -- A disabled mode is never the candidate, so the update is refused.
    rw [Bool.not_eq_false] at disabled
    simp [isMode, disabled] at accepted
  · rintro ⟨flags, found, quiet⟩
    refine ⟨(flags.needed, flags), resolveLegacyDNSMode_eq_ok_iff.mpr ⟨found, by simp [quiet], by simp [quiet]⟩, ?_⟩
    simp [quiet]

/-- The update is judged as if it was installed: outside of the legacy mode. -/
theorem validate_modern_iff (modern : router.legacyDNSMode = false) :
    let lookup := lookupDNSRuleSetMetadata installed [(tag, metadata)]
    validateRuleSetMetadataUpdate router installed tag metadata = .ok () ↔
      (∃ flags, resolveLegacyDNSMode lookup router.rawRules = .ok (false, flags)) ∧
        ∃ warnings, validateLegacyDNSModeDisabledRules lookup router.rawRules = .ok warnings := by
  intro lookup
  have skips : ¬(router.rawRules = [] ∨ router.closing) := by simp [nonempty, running]
  rw [validateRuleSetMetadataUpdate, if_neg skips, bind_eq_ok]
  simp only [started, modern, Bool.not_true, Bool.false_eq_true, if_false]
  constructor
  · rintro ⟨⟨mode, flags⟩, resolved, accepted⟩
    cases mode with
    | true => simp at accepted
    | false =>
      simp only [Bool.false_eq_true, if_false, bind_eq_ok] at accepted
      obtain ⟨warnings, validated, -⟩ := accepted
      exact ⟨⟨flags, resolved⟩, warnings, validated⟩
  · rintro ⟨⟨flags, resolved⟩, warnings, validated⟩
    refine ⟨(false, flags), resolved, ?_⟩
    simp only [Bool.false_eq_true, if_false, bind_eq_ok]
    exact ⟨warnings, validated, rfl⟩

end

/-- A router that runs accepts exactly the updates that leave it in its mode, as far as the
other rule sets stay as they are. -/
theorem validate_eq_ok_iff :
    validateRuleSetMetadataUpdate router installed tag metadata = .ok () ↔
      RightMode router (installed.install tag metadata) := by
  unfold RightMode
  rw [lookup_install]
  by_cases empty : router.rawRules = []
  · -- Without rules every update is accepted, and no mode is wrong.
    have accepted : validateRuleSetMetadataUpdate router installed tag metadata = .ok () := by
      rw [validateRuleSetMetadataUpdate, if_pos (.inl empty)]
    rw [empty]
    refine iff_of_true accepted ?_
    split
    · exact ⟨{}, rfl, rfl⟩
    · exact ⟨⟨{}, rfl⟩, [], rfl⟩
  · cases mode : router.legacyDNSMode with
    | true => exact validate_legacy_iff started running installed tag metadata empty mode
    | false => exact validate_modern_iff started running installed tag metadata empty mode

end

theorem rightMode_of_startMode (chosen : startMode router.rawRules installed = .ok router.legacyDNSMode) :
    RightMode router installed := by
  obtain ⟨⟨mode, flags⟩, resolved, chosen⟩ := bind_eq_ok.mp chosen
  obtain ⟨found, -, isMode⟩ := resolveLegacyDNSMode_eq_ok_iff.mp resolved
  unfold RightMode
  cases mode with
  | true =>
    have legacy : router.legacyDNSMode := by simpa using chosen
    simp only [legacy, if_true]
    refine ⟨flags, found, ?_⟩
    by_contra disabled
    simp [disabled] at isMode
  | false =>
    simp only [Bool.false_eq_true, if_false, bind_eq_ok] at chosen
    obtain ⟨warnings, validated, modern⟩ := chosen
    have modern : router.legacyDNSMode = false := (pure_eq_ok.mp modern).symm
    simp only [modern, Bool.false_eq_true, if_false]
    exact ⟨⟨flags, resolved⟩, warnings, validated⟩

/-! ## Runs -/

section Runs

variable {router : DNSRouterMode}

/-- No other rule set was installed between the validation and the installation of the update. -/
def RuleSetUpdate.NotOvertaken (update : RuleSetUpdate) : Prop := ∀ tag ∈ update.since, tag = update.tag

instance (update : RuleSetUpdate) : Decidable update.NotOvertaken :=
  inferInstanceAs (Decidable (∀ tag ∈ update.since, tag = update.tag))

/-- Outside of the legacy mode an update is not overtaken when it is installed. -/
def InstallsInTurn (router : DNSRouterMode) (state : RuleSetUpdates) : UpdateStep → Prop
  | .validate _ _ => True
  | .install index => router.legacyDNSMode ∨ ∀ update ∈ state.validated[index]?, update.NotOvertaken

instance (state : RuleSetUpdates) : ∀ label, Decidable (InstallsInTurn router state label)
  | .validate _ _ => .isTrue trivial
  | .install index =>
    inferInstanceAs (Decidable (_ = true ∨ ∀ update ∈ state.validated[index]?, update.NotOvertaken))

/-- The router is in the right mode, and an accepted update that was not overtaken leaves it there. -/
structure InMode (router : DNSRouterMode) (state : RuleSetUpdates) : Prop where
  rightMode : RightMode router state.installed
  pending : ∀ update ∈ state.validated, router.legacyDNSMode ∨ update.NotOvertaken →
    RightMode router (state.installed.install update.tag update.metadata)

theorem quietRuleSet_install_iff (installed : InstalledRuleSets) (tag other : String) (metadata : RuleSetMetadata) :
    QuietRuleSet (lookupDNSRuleSetMetadata (installed.install tag metadata) []) other ↔
      if other = tag then metadata.containsDNSQueryTypeRule = false
      else QuietRuleSet (lookupDNSRuleSetMetadata installed []) other := by
  unfold QuietRuleSet lookupDNSRuleSetMetadata InstalledRuleSets.install
  by_cases same : other = tag <;> simp [same]

theorem rightMode_install_legacy (legacy : router.legacyDNSMode) {tag : String}
    {metadata : RuleSetMetadata} (rightMode : RightMode router installed) :
    RightMode router (installed.install tag metadata) ↔
      (tag ∈ allRuleSetTags router.rawRules → metadata.containsDNSQueryTypeRule = false) := by
  unfold RightMode at rightMode ⊢
  simp only [legacy, if_true] at rightMode ⊢
  obtain ⟨ofRules, ofRuleSets⟩ := (quiet_iff router.rawRules).mp rightMode
  rw [quiet_iff]
  simp only [quietRuleSet_install_iff, ofRules, true_and]
  constructor
  · intro each referenced
    simpa using each tag referenced
  · intro own other referenced
    split
    case isTrue same => exact own (same ▸ referenced)
    case isFalse => exact ofRuleSets other referenced

theorem install_install (installed : InstalledRuleSets) (tag : String) (before after : RuleSetMetadata) :
    (installed.install tag before).install tag after = installed.install tag after := by
  funext other
  unfold InstalledRuleSets.install
  split <;> rfl

/-- In the legacy mode the updates are independent; outside of it the one that was not overtaken
replaces an update of the same rule set. -/
theorem InMode.rightMode_install {update other : RuleSetUpdate} (inMode : InMode router state)
    (isOther : other ∈ state.validated) (installs : RightMode router (state.installed.install update.tag update.metadata))
    (harmless : router.legacyDNSMode ∨ (other.overtakenBy update.tag).NotOvertaken) :
    RightMode router ((state.installed.install update.tag update.metadata).install other.tag other.metadata) := by
  rcases harmless with legacy | notOvertaken
  · have alone := inMode.pending other isOther (.inl legacy)
    exact (rightMode_install_legacy legacy installs).mpr ((rightMode_install_legacy legacy inMode.rightMode).mp alone)
  · obtain ⟨sameTag, earlier⟩ := forall_mem_cons.mp notOvertaken
    rw [show update.tag = other.tag from sameTag, install_install]
    exact inMode.pending other isOther (.inr earlier)

theorem InMode.step (started : router.started) (running : router.closing = false)
    (inMode : InMode router state) (taken : state.step router label = some next)
    (inTurn : InstallsInTurn router state label) : InMode router next := by
  cases label with
  | validate tag metadata =>
    simp only [RuleSetUpdates.step] at taken
    split at taken
    · cases taken
    · split at taken
      case _ validated =>
        cases taken
        refine ⟨inMode.rightMode, fun update isUpdate harmless => ?_⟩
        rcases mem_append.mp isUpdate with isOld | isNew
        · exact inMode.pending update isOld harmless
        · cases mem_singleton.mp isNew
          exact (validate_eq_ok_iff started running state.installed tag metadata).mp validated
      case _ =>
        cases taken
        exact inMode
  | install index =>
    obtain ⟨update, isUpdate, rfl⟩ := map_eq_some_iff.mp taken
    have harmless : router.legacyDNSMode ∨ update.NotOvertaken := inTurn.imp_right fun each => each update isUpdate
    have installs := inMode.pending update (mem_of_getElem? isUpdate) harmless
    refine ⟨installs, fun pending isPending harmless => ?_⟩
    obtain ⟨other, isOther, rfl⟩ := mem_map.mp isPending
    have rightMode := inMode.rightMode_install (mem_of_mem_eraseIdx isOther) installs harmless
    exact rightMode

/-- After `Start` the router is in the right mode all along if no update is overtaken by that of
another rule set, or if the mode is the legacy one. -/
theorem rule_set_updates_right (rawRules : List Options.DNSRule) (installed : InstalledRuleSets)
    (legacyDNSMode : Bool) (chosen : startMode rawRules installed = .ok legacyDNSMode) (labels : List UpdateStep)
    (inTurn : EveryStep (RuleSetUpdates.step { rawRules, legacyDNSMode })
      (InstallsInTurn { rawRules, legacyDNSMode }) { installed } labels) :
    EveryState (RuleSetUpdates.step { rawRules, legacyDNSMode })
      (fun state => RightMode { rawRules, legacyDNSMode } state.installed) { installed } labels := by
  refine everyState_of_everyStep (fun _ => InMode.rightMode) (fun _ _ _ inMode => inMode.step rfl rfl) ?_ inTurn
  exact ⟨rightMode_of_startMode chosen, fun _ isUpdate => absurd isUpdate not_mem_nil⟩

end Runs

/-- A rule that refers to two rule sets. -/
def twoRuleSets : List Options.DNSRule :=
  [.default { ruleSet := ["geosite", "geoip"] } { action := some (.route "local" false {}) } []]

def bothPlain : InstalledRuleSets := fun tag =>
  if tag = "geosite" ∨ tag = "geoip" then some { containsNonIPCIDRRule := true } else none

/-- One rule set gets query types, by two updates that overlap, and after that the other one gets an
address filter, which is accepted because of them. -/
def updatesInTurn : List UpdateStep :=
  [.validate "geosite" { containsDNSQueryTypeRule := true },
    .validate "geosite" { containsDNSQueryTypeRule := true, containsNonIPCIDRRule := true }, .install 0, .install 0,
    .validate "geoip" { containsIPCIDRRule := true, containsNonIPCIDRRule := true }, .install 0]

theorem rule_set_updates_right_inTurn :
    (run (RuleSetUpdates.step { rawRules := twoRuleSets, legacyDNSMode := false }) { installed := bothPlain }
        updatesInTurn).isSome ∧
      EveryState (RuleSetUpdates.step { rawRules := twoRuleSets, legacyDNSMode := false })
        (fun state => RightMode { rawRules := twoRuleSets, legacyDNSMode := false } state.installed)
        { installed := bothPlain } updatesInTurn :=
  ⟨by decide, rule_set_updates_right twoRuleSets bothPlain false rfl updatesInTurn (by decide)⟩

/-- One rule set gives up its query types while an address filter of the other, accepted
because of them, is not installed yet. -/
def overlappingUpdates : List UpdateStep :=
  [.validate "geosite" { containsDNSQueryTypeRule := true, containsNonIPCIDRRule := true }, .install 0,
    .validate "geoip" { containsIPCIDRRule := true, containsNonIPCIDRRule := true },
    .validate "geosite" { containsNonIPCIDRRule := true }, .install 0, .install 0]

theorem overlapping_updates_wrong_mode :
    startMode twoRuleSets bothPlain = .ok false ∧
      ¬EveryState (RuleSetUpdates.step { rawRules := twoRuleSets, legacyDNSMode := false })
        (fun state => RightMode { rawRules := twoRuleSets, legacyDNSMode := false } state.installed)
        { installed := bothPlain } overlappingUpdates := by
  refine ⟨rfl, fun everyState => ?_⟩
  have final := (((((everyState.2 _ rfl).2 _ rfl).2 _ rfl).2 _ rfl).2 _ rfl).2 _ rfl
  obtain ⟨⟨flags, resolved⟩, -⟩ := final
  have required : resolveLegacyDNSMode
      (lookupDNSRuleSetMetadata
        ((bothPlain.install "geosite" { containsDNSQueryTypeRule := true, containsNonIPCIDRRule := true }
          |>.install "geoip" { containsIPCIDRRule := true, containsNonIPCIDRRule := true })
          |>.install "geosite" { containsNonIPCIDRRule := true }) []) twoRuleSets = .ok (true, { needed := true }) := rfl
  cases required.symm.trans resolved

end SingBox
