import SingBox.AdGuard.Convertor
import SingBox.Lib.Guard
import SingBox.Rule.NewHeadless
import SingBox.Rule.Verdict

/-! # What a filter list blocks

The rule that `ToOptions` builds answers by precedence: important exceptions, important
rules, exceptions, rules. Each layer of the rule is there only when its lists have
something in them; `Parts.verdict` gives the answer for all of them at once.
-/

namespace SingBox

open Lib.Kleene Lib.Guard AbstractDefaultRule Options.HeadlessRule List

/-! ## Rules with destination names only -/

section Addresses

variable (env : Environment) (items : List DestinationAddressItem) (invert : Bool) (metadata : InboundContext)

theorem AbstractDefaultRule.verdict_of_addresses :
    verdict env { destinationAddressItems := items, invert } metadata none =
      .ofBool (items.isEmpty || (items.any fun item => item.match env metadata) != invert) := by
  cases items with
  | nil => rfl
  | cons item items =>
    have done : (groups env { destinationAddressItems := item :: items, invert } metadata).done =
        (item :: items).any fun item => item.match env metadata := by
      rw [groups, Bool.eq_iff_iff, RuleGroupMatch.done_ofGroups]
      constructor
      · intro satisfied
        simpa [satisfies, destinationIPCIDRMatchesDestination,
          matchDestinationAddress] using satisfied .destinationAddress rfl
      · intro hit group required
        cases group with
        | destinationAddress =>
          simp [satisfies, matchDestinationAddress, hit]
        | sourceAddress | sourcePort | destinationPort =>
          simp [requires, destinationIPCIDRMatchesSource] at required
    simp only [verdict, innerVerdict, ownBranch, done,
      noItems, matchItems, defersDestination]
    cases (item :: items).any fun item => item.match env metadata <;> cases invert <;> simp [Branch.collect, Verdict.ofBool]

theorem AbstractDefaultRule.match_reset :
    (AbstractDefaultRule.match env { destinationAddressItems := items } none metadata.resetRuleMatchCache).1 =
      (AbstractDefaultRule.match env { destinationAddressItems := items } none metadata).1 := by
  cases items with
  | nil => rfl
  | cons item items => rfl

end Addresses

variable (mode : LogicalMode)

theorem logicalVerdict_pair (first second : Bool) :
    logicalVerdict mode false [.ofBool first, .ofBool second] =
      .ofBool (match mode with | .and => first && second | .or => first || second) := by
  cases mode <;> cases first <;> cases second <;> rfl

theorem AbstractLogicalRule.match_reset (invert : Bool) (rule : Matcher) (rules : List Matcher)
    (metadata : InboundContext) :
    (AbstractLogicalRule.match mode invert (rule :: rules) metadata.resetRuleMatchCache).1 =
      (AbstractLogicalRule.match mode invert (rule :: rules) metadata).1 := by
  cases mode <;> rfl

namespace AdGuard

open Options (Text)
open Srs (Packages)

variable {matchers : Options.Matchers} (packages : Packages matchers) (context : RuleContext)

/-! ## Hits -/

variable (host : String)

def patternHits (pattern : Text) : Bool :=
  packages.acceptsAdGuard (packages.newAdGuardMatcher [pattern]) (context.encode host)

def expressionHits (expression : Text) : Bool :=
  match context.compile expression with
  | .ok matcher => matcher host
  | .error _ => false

/-- A line matches as its pattern or its expression does. -/
def RuleLine.hits (line : RuleLine) (host : String) : Bool :=
  if line.isRegexp then expressionHits context host line.mapDomain
  else patternHits packages context host line.mapDomain

def Part.hits (part : Part) (host : String) : Bool :=
  part.domain.any (patternHits packages context host) || part.domainRegex.any (expressionHits context host)

/-- The answer by precedence. A rule without plain lines stands for all names. -/
def Parts.verdict (parts : Parts) (host : String) : Bool :=
  !parts.importantExclude.hits packages context host &&
    (parts.important.hits packages context host ||
      ((parts.plain.isEmpty || parts.plain.hits packages context host) &&
        !parts.exclude.hits packages context host))

variable {part : Part} {rule : HeadlessRule} {mode : Options.LogicalMode} {builtMode : LogicalMode}
  {inner : Options.HeadlessRule matchers} {parts : Parts}

variable (ruleLines : List RuleLine) (isImportant isExclude : Bool)

/-- Some line with these marks matches the name. -/
def SomeHits (host : String) : Prop :=
  ∃ line ∈ ruleLines, line.isImportant = isImportant ∧ line.isExclude = isExclude ∧
    line.hits packages context host

instance (ruleLines : List RuleLine) (isImportant isExclude : Bool) (host : String) :
    Decidable (SomeHits packages context ruleLines isImportant isExclude host) :=
  inferInstanceAs (Decidable (∃ line ∈ ruleLines, _))

theorem Part.hits_ofLines :
    (Part.ofLines ruleLines isImportant isExclude).hits packages context host ↔
      SomeHits packages context ruleLines isImportant isExclude host := by
  simp only [SomeHits, Part.hits, Part.ofLines, Bool.or_eq_true, any_eq_true, mem_select]
  constructor
  · rintro (⟨_, ⟨line, mem, important, excluded, regexp, rfl⟩, hit⟩ |
      ⟨_, ⟨line, mem, important, excluded, regexp, rfl⟩, hit⟩)
    · exact ⟨line, mem, important, excluded, by rwa [RuleLine.hits, regexp, if_neg Bool.false_ne_true]⟩
    · exact ⟨line, mem, important, excluded, by rwa [RuleLine.hits, regexp, if_pos rfl]⟩
  · rintro ⟨line, mem, important, excluded, hit⟩
    rw [RuleLine.hits] at hit
    split at hit
    next regexp => exact .inr ⟨_, ⟨line, mem, important, excluded, regexp, rfl⟩, hit⟩
    next pattern => exact .inl ⟨_, ⟨line, mem, important, excluded, Bool.eq_false_iff.mpr pattern, rfl⟩, hit⟩

/-! ## Building -/

/-- All expressions of the part are accepted by `regexp.Compile`. -/
def Part.Compiles (part : Part) : Prop :=
  ∀ expression ∈ part.domainRegex, ∃ matcher, context.compile expression = .ok matcher

variable {tests : List (String → Bool)} {expressions : List Text}

theorem compileAll_cons_eq_ok {index : Nat} {expression : Text} :
    compileAll context index (expression :: expressions) = .ok tests ↔
      ∃ matcher, context.compile expression = .ok matcher ∧
        ∃ others, compileAll context (index + 1) expressions = .ok others ∧ matcher :: others = tests := by
  simp only [compileAll, Srs.cause, bind_eq_ok, mapError_eq_ok, pure_eq_ok]

theorem exists_compileAll_iff (index : Nat) (expressions : List Text) :
    (∃ tests, compileAll context index expressions = .ok tests) ↔
      ∀ expression ∈ expressions, ∃ matcher, context.compile expression = .ok matcher := by
  induction expressions generalizing index with
  | nil => simp [compileAll]
  | cons expression expressions ih =>
    rw [forall_mem_cons, ← ih (index + 1)]
    constructor
    · rintro ⟨_, compiled⟩
      obtain ⟨matcher, isCompiled, others, othersCompiled, -⟩ := (compileAll_cons_eq_ok context).mp compiled
      exact ⟨⟨matcher, isCompiled⟩, others, othersCompiled⟩
    · rintro ⟨⟨matcher, isCompiled⟩, others, othersCompiled⟩
      exact ⟨_, (compileAll_cons_eq_ok context).mpr ⟨matcher, isCompiled, others, othersCompiled, rfl⟩⟩

theorem any_compileAll {index : Nat} (compiled : compileAll context index expressions = .ok tests) (host : String) :
    (tests.any fun matcher => matcher host) = expressions.any (expressionHits context host) := by
  induction expressions generalizing index tests with
  | nil =>
    obtain rfl : tests = [] := by simpa [compileAll] using compiled.symm
    rfl
  | cons expression expressions ih =>
    obtain ⟨matcher, isCompiled, others, othersCompiled, rfl⟩ := (compileAll_cons_eq_ok context).mp compiled
    rw [any_cons, any_cons, ih othersCompiled, expressionHits, isCompiled]

/-- The items of a part's rule, whose expressions compile to these tests. -/
def Part.items (part : Part) (tests : List (String → Bool)) : List DestinationAddressItem :=
  optional (part.domainRegex ≠ []) (.domainRegex tests (context.resolve .asIs)) ++
    optional (part.domain ≠ []) (newAdGuardDomainItem packages context (context.resolve .asIs) part.domain)

/-- The lists of the part count as conditions: one has something in it, or they are not nil. -/
abbrev Part.Kept (parsers : Parsers) (part : Part) : Prop := parsers.mapKeepsEmpty ∨ part.isEmpty = false

variable {parsers : Parsers}

theorem Part.isValid_options (kept : part.Kept parsers) (invert : Bool) :
    (part.options parsers invert : Options.DefaultHeadlessRule matchers).isValid := by
  cases domain : part.domain <;> cases domainRegex : part.domainRegex <;>
    simp_all [Part.Kept, Options.DefaultHeadlessRule.isValid, Part.options, Part.isEmpty]

theorem optionalM_false {Item : Type} (name : String) (item : Except String Item) :
    optionalM name false item = .ok [] := rfl

theorem newHeadlessRule_options {invert : Bool} (kept : part.Kept parsers) :
    newHeadlessRule packages context (.default (part.options parsers invert)) = .ok rule ↔
      ∃ tests, compileAll context 0 part.domainRegex = .ok tests ∧
        rule = .default { destinationAddressItems := part.items packages context tests, invert } := by
  have items : ∀ (domain domainRegex : List Text) (hasEmptyList : Bool), ruleItems context
      ({ adGuardDomain := domain, domainRegex, invert, hasEmptyList } :
        Options.DefaultHeadlessRule matchers) [] [] = [] := by
    simp [ruleItems, networkManagerItems, optional]
  simp only [newHeadlessRule, if_pos (part.isValid_options kept invert), newDefaultHeadlessRule, map_eq_ok, bind_eq_ok,
    pure_eq_ok]
  by_cases empty : part.domainRegex = []
  · simp [Part.options, domainItems, ipSets, portItems, optionalM_false, adGuardDomainItems, Part.items, optional, items,
      empty, compileAll, @eq_comm _ rule]
  · simp [Part.options, domainItems, ipSets, portItems, optionalM, adGuardDomainItems, Part.items, optional, items,
      empty, Srs.cause, mapError_eq_ok, @eq_comm _ rule]

/-- What `AdGuardMatcher` is for: it accepts a name when one of its patterns does. -/
def MatchesByPattern : Prop :=
  ∀ ruleLines host, packages.acceptsAdGuard (packages.newAdGuardMatcher ruleLines) host =
    ruleLines.any fun ruleLine => packages.acceptsAdGuard (packages.newAdGuardMatcher [ruleLine]) host

/-- The name that the items of a rule look at, in lower case. -/
def lookedAt (env : Environment) (metadata : InboundContext) : String :=
  env.toLower (domainHost env (context.resolve .asIs) metadata)

variable {metadata : InboundContext}

theorem Part.any_items {env : Environment} (lawful : MatchesByPattern packages)
    (compiled : compileAll context 0 part.domainRegex = .ok tests)
    (named : domainHost env (context.resolve .asIs) metadata ≠ "") :
    ((part.items packages context tests).any fun item => item.match env metadata) =
      part.hits packages context (lookedAt context env metadata) := by
  have patterns : ((optional (part.domain ≠ []) (newAdGuardDomainItem packages context (context.resolve .asIs)
      part.domain)).any fun item => item.match env metadata) =
      part.domain.any (patternHits packages context (lookedAt context env metadata)) := by
    by_cases empty : part.domain = []
    · simp [optional, empty]
    · simp only [optional, empty, ne_eq, not_false_eq_true, decide_true, if_true, any_cons, any_nil, Bool.or_false,
        DestinationAddressItem.match, newAdGuardDomainItem, newRawAdGuardDomainItem, DestinationAddressItem.strategy,
        named, if_false, DestinationAddressItem.accepts]
      exact lawful part.domain _
  have expressions : ((optional (part.domainRegex ≠ []) (DestinationAddressItem.domainRegex tests
      (context.resolve .asIs))).any fun item => item.match env metadata) =
      part.domainRegex.any (expressionHits context (lookedAt context env metadata)) := by
    by_cases empty : part.domainRegex = []
    · simp [optional, empty]
    · rw [← any_compileAll context compiled]
      simp [optional, empty, DestinationAddressItem.match, DestinationAddressItem.strategy,
        DestinationAddressItem.accepts, named, lookedAt]
  rw [Part.items, any_append, patterns, expressions, Bool.or_comm, Part.hits]

theorem Part.isEmpty_items : (part.items packages context tests).isEmpty = part.isEmpty := by
  by_cases noExpression : part.domainRegex = [] <;> by_cases noPattern : part.domain = [] <;>
    simp [Part.items, optional, Part.isEmpty, noExpression, noPattern]

/-- A layer is its inner rule, or that rule with the rule of the part before it. -/
theorem newHeadlessRule_layer (isMode : newLogicalMode mode = .ok builtMode) {invert : Bool}
    (valid : inner.isValid = .ok true) :
    newHeadlessRule packages context (part.layer parsers mode invert inner) = .ok rule ↔
      part.isEmpty ∧ newHeadlessRule packages context inner = .ok rule ∨
      part.isEmpty = false ∧ ∃ first,
        newHeadlessRule packages context (.default (part.options parsers invert)) = .ok first ∧
          ∃ second, newHeadlessRule packages context inner = .ok second ∧
            rule = .logical builtMode false [first, second] := by
  unfold Part.layer
  cases occupied : part.isEmpty with
  | true => simp
  | false =>
    have firstValid : (default (part.options parsers invert) : Options.HeadlessRule matchers).isValid = .ok true := by
      rw [isValid, part.isValid_options (.inr occupied)]
    generalize (default (part.options parsers invert) : Options.HeadlessRule matchers) = first at firstValid ⊢
    have pairValid : (logical mode [first, inner] .asIs false).isValid = .ok true := by
      simp [isValid, allValid, firstValid, valid]
    simp [newHeadlessRule, pairValid, isMode, newHeadlessRules, Srs.cause, @eq_comm _ rule]

/-! ## Answers -/

variable (env : Environment)

/-- The rule answers every name by this function of its lower case, whatever groups the
metadata has deferred. -/
structure Answers (rule : HeadlessRule) (answer : String → Bool) : Prop where
  verdict : ∀ metadata, domainHost env (context.resolve .asIs) metadata ≠ "" →
    rule.verdict env metadata = .ofBool (answer (lookedAt context env metadata))
  match_reset : ∀ metadata, (rule.match env metadata.resetRuleMatchCache).1 = (rule.match env metadata).1

variable {packages context env}

theorem options_verdict (lawful : MatchesByPattern packages) {invert : Bool} (kept : part.Kept parsers)
    (built : newHeadlessRule packages context (.default (part.options parsers invert)) = .ok rule)
    (named : domainHost env (context.resolve .asIs) metadata ≠ "") : rule.verdict env metadata =
      .ofBool (part.isEmpty || part.hits packages context (lookedAt context env metadata) != invert) := by
  obtain ⟨tests, compiled, rfl⟩ := (newHeadlessRule_options packages context kept).mp built
  rw [HeadlessRule.verdict, verdict_of_addresses, part.any_items packages context lawful compiled named,
    part.isEmpty_items]

theorem options_answers (lawful : MatchesByPattern packages) (kept : part.Kept parsers) (rule : HeadlessRule)
    (built : newHeadlessRule packages context (.default (part.options parsers false)) = .ok rule) :
    Answers context env rule fun host => part.isEmpty || part.hits packages context host := by
  refine ⟨fun metadata named => by simpa using options_verdict lawful kept built named, fun metadata => ?_⟩
  obtain ⟨tests, -, rfl⟩ := (newHeadlessRule_options packages context kept).mp built
  exact match_reset env _ metadata

theorem isValid_layer {invert : Bool} (valid : inner.isValid = .ok true) :
    (part.layer parsers mode invert inner).isValid = .ok true := by
  unfold Part.layer
  split
  · exact valid
  next occupied => simp [isValid, allValid, part.isValid_options (.inr (Bool.eq_false_iff.mpr occupied)), valid]

theorem layer_answers (lawful : MatchesByPattern packages) (isMode : newLogicalMode mode = .ok builtMode)
    {invert : Bool} (valid : inner.isValid = .ok true) {answer : String → Bool}
    (innerAnswers : ∀ rule, newHeadlessRule packages context inner = .ok rule → Answers context env rule answer)
    (rule : HeadlessRule) (built : newHeadlessRule packages context (part.layer parsers mode invert inner) = .ok rule) :
    Answers context env rule fun host => if part.isEmpty then answer host else
      match builtMode with
      | .and => (part.hits packages context host != invert) && answer host
      | .or => (part.hits packages context host != invert) || answer host := by
  obtain ⟨empty, built⟩ | ⟨occupied, first, builtFirst, second, builtSecond, rfl⟩ :=
    (newHeadlessRule_layer packages context isMode valid).mp built
  · simpa [empty] using innerAnswers rule built
  · refine ⟨fun metadata named => ?_, AbstractLogicalRule.match_reset builtMode false _ _⟩
    have firstVerdict : first.verdict env metadata.resetRuleCache = _ :=
      options_verdict lawful (.inr occupied) builtFirst named
    have secondVerdict := (innerAnswers second builtSecond).verdict metadata.resetRuleCache named
    have same : lookedAt context env metadata.resetRuleCache = lookedAt context env metadata := rfl
    simp only [HeadlessRule.verdict, HeadlessRule.verdicts, firstVerdict, secondVerdict, logicalVerdict_pair, same,
      occupied, Bool.false_or]
    cases builtMode <;> simp

/-! ## The rule of a list -/

section
variable (kept : parts.plain.Kept parsers)
include kept

theorem Parts.isValid_plain : (default (parts.plain.options parsers false) :
    Options.HeadlessRule matchers).isValid = .ok true := by
  rw [isValid, parts.plain.isValid_options kept]

theorem Parts.answers (lawful : MatchesByPattern packages)
    (built : newHeadlessRule packages context (parts.rule parsers) = .ok rule) :
    Answers context env rule (parts.verdict packages context) := by
  have plainValid := @Parts.isValid_plain matchers parts parsers kept
  have plain := @options_answers matchers packages context parts.plain parsers env lawful kept
  have excluded := @layer_answers _ _ _ parts.exclude .and _ _ parsers _ lawful rfl true plainValid _ plain
  have important := @layer_answers _ _ _ parts.important .or _ _ parsers _ lawful rfl false (isValid_layer plainValid) _
    excluded
  have answers := layer_answers lawful rfl (isValid_layer (isValid_layer plainValid)) important rule built
  convert answers using 2 with host
  have empty : ∀ part : Part, part.isEmpty → part.hits packages context host = false := by
    intro part empty
    simp only [Part.isEmpty, Bool.and_eq_true, List.isEmpty_iff] at empty
    simp [Part.hits, empty]
  rw [verdict, Bool.and_comm (parts.plain.isEmpty || _)]
  cases noException : parts.importantExclude.isEmpty <;> cases noImportant : parts.important.isEmpty <;>
    cases noExclude : parts.exclude.isEmpty <;> simp_all

theorem Parts.match_eq (lawful : MatchesByPattern packages)
    (built : newHeadlessRule packages context (parts.rule parsers) = .ok rule)
    (named : domainHost env (context.resolve .asIs) metadata ≠ "") :
    (rule.match env metadata).1 = parts.verdict packages context (lookedAt context env metadata) := by
  have answers : Answers context env rule _ := Parts.answers kept lawful built
  have decides := rule.match_decides env metadata.resetRuleMatchCache rfl
  rw [← answers.match_reset, decides.possible_eq, answers.verdict metadata.resetRuleMatchCache named,
    Verdict.ofBool_possible]
  rfl

end

/-- The rule of a list can be built when its expressions compile. -/
def Parts.Compiles (context : RuleContext) (parts : Parts) : Prop :=
  parts.importantExclude.Compiles context ∧ parts.important.Compiles context ∧ parts.exclude.Compiles context ∧
    parts.plain.Compiles context

theorem exists_options_iff {invert : Bool} (kept : part.Kept parsers) :
    (∃ rule, newHeadlessRule packages context (.default (part.options parsers invert)) = .ok rule) ↔
      part.Compiles context := by
  rw [Part.Compiles, ← exists_compileAll_iff context 0]
  simp only [newHeadlessRule_options packages context kept]
  exact ⟨fun ⟨_, tests, compiled, _⟩ => ⟨tests, compiled⟩, fun ⟨tests, compiled⟩ => ⟨_, tests, compiled, rfl⟩⟩

theorem exists_layer_iff (isMode : newLogicalMode mode = .ok builtMode) {invert : Bool}
    (valid : inner.isValid = .ok true) :
    (∃ rule, newHeadlessRule packages context (part.layer parsers mode invert inner) = .ok rule) ↔
      part.Compiles context ∧ ∃ rule, newHeadlessRule packages context inner = .ok rule := by
  simp only [newHeadlessRule_layer packages context isMode valid]
  cases occupied : part.isEmpty with
  | true =>
    have empty := occupied
    simp only [Part.isEmpty, Bool.and_eq_true, List.isEmpty_iff] at empty
    simp [Part.Compiles, empty]
  | false =>
    rw [← @exists_options_iff _ packages context part parsers invert (.inr occupied)]
    simp only [Bool.false_eq_true, false_and, true_and, false_or]
    exact ⟨fun ⟨_, first, builtFirst, second, builtSecond, _⟩ => ⟨⟨first, builtFirst⟩, second, builtSecond⟩,
      fun ⟨⟨first, builtFirst⟩, second, builtSecond⟩ => ⟨_, first, builtFirst, second, builtSecond, rfl⟩⟩

theorem Parts.exists_rule_iff (kept : parts.plain.Kept parsers) :
    (∃ rule, newHeadlessRule packages context (parts.rule parsers) = .ok rule) ↔ parts.Compiles context := by
  have plainValid := @Parts.isValid_plain matchers parts parsers kept
  rw [rule, exists_layer_iff rfl (isValid_layer (isValid_layer plainValid)),
    exists_layer_iff rfl (isValid_layer plainValid), exists_layer_iff rfl plainValid, exists_options_iff kept, Compiles]

/-! ## What the loader accepts -/

section Load

variable {text : Text} {line : RuleLine}

theorem isRawDomain_of_parseRule (parsed : parseRule parsers text = .rule line) : line.isRawDomain = false := by
  have marks (line : RuleLine) : (cutEnd (cutStart (cutBar (cutExclude line)))).isRawDomain = line.isRawDomain := by
    grind [cutEnd, cutStart, cutBar, cutExclude]
  have modifiers (line : RuleLine) (cut : cutModifiers parsers { ruleLine := trimBar text } = some line) :
      line.isRawDomain = false := by
    unfold cutModifiers at cut
    split at cut
    · cases cut
      rfl
    split at cut
    · cases cut
      rfl
    · obtain ⟨isImportant, -, isLine⟩ := Option.bind_eq_some_iff.mp cut
      cases isLine
      rfl
  grind [parseRule, parseMarks, parseBody, cutUrl, checkPattern, checkExpression]

/-- Only a name or a line of a hosts file is raw, and neither is empty. -/
theorem ne_nil_of_parseLine (parsed : parseLine parsers text = .rule line) (raw : line.isRawDomain) :
    line.ruleLine ≠ [] := by
  unfold parseLine at parsed
  grind [isRawDomain_of_parseRule]

theorem ne_nil_of_parseLines {lines : List Text} {ruleLines : List RuleLine}
    (parsed : parseLines parsers lines = some ruleLines) :
    ∀ line ∈ ruleLines, line.isRawDomain → line.ruleLine ≠ [] := by
  induction lines generalizing ruleLines with
  | nil =>
    cases parsed
    simp
  | cons text lines ih =>
    rw [parseLines] at parsed
    split at parsed
    · exact ih parsed
    · exact ih parsed
    case _ rule isRule =>
      obtain ⟨others, isOthers, rfl⟩ := Option.map_eq_some_iff.mp parsed
      exact forall_mem_cons.mpr ⟨ne_nil_of_parseLine isRule, ih isOthers⟩
    · cases parsed

end Load

/-- A rule with lists that are empty, but not nil, is not missing conditions. -/
theorem toOptions_loads (packages : Packages matchers) (context : RuleContext) (parsers : Parsers)
    (mapKeepsEmpty : parsers.mapKeepsEmpty) {text : Text} {ruleLines : List RuleLine}
    {rules : List (Options.HeadlessRule matchers)} (parsed : parseText parsers text = some ruleLines)
    (compiles : ∀ line ∈ ruleLines, line.isRegexp → ∃ matcher, context.compile line.mapDomain = .ok matcher)
    (converted : toOptions parsers text = .ok rules) :
    ∀ options ∈ rules, ∃ rule, newHeadlessRule packages context options = .ok rule := by
  have parts : ∀ isImportant isExclude, (Part.ofLines ruleLines isImportant isExclude).Compiles context := by
    intro isImportant isExclude expression isExpression
    obtain ⟨line, isLine, -, -, isRegexp, rfl⟩ := mem_select.mp isExpression
    exact compiles line isLine isRegexp
  simp only [toOptions, parsed] at converted
  split at converted
  · cases converted
  next nonempty =>
  split at converted
  next allRaw =>
    cases converted
    have named : [] ∉ ruleLines.map RuleLine.ruleLine := by
      intro isName
      obtain ⟨line, isLine, empty⟩ := mem_map.mp isName
      exact ne_nil_of_parseLines parsed line isLine (all_eq_true.mp allRaw line isLine) empty
    simp [newHeadlessRule, Options.DefaultHeadlessRule.isValid, nonempty, newDefaultHeadlessRule, domainItems,
      newDomainItem, named, optionalM_false, ipSets, portItems, optional]
  · cases converted
    simpa using (Parts.exists_rule_iff (.inl mapKeepsEmpty)).mpr
      ⟨parts true true, parts true false, parts false true, parts false false⟩

/-! ## Precedence -/

variable {ruleLines : List RuleLine}

theorem toOptions_eq_ok {text : Text}
    {rules : List (Options.HeadlessRule matchers)} (parsed : parseText parsers text = some ruleLines)
    (mixed : ∃ line ∈ ruleLines, line.isRawDomain = false) (converted : toOptions parsers text = .ok rules) :
    rules = [(Parts.ofLines ruleLines).rule parsers] := by
  obtain ⟨line, mem, cooked⟩ := mixed
  have nonempty : ruleLines ≠ [] := ne_nil_of_mem mem
  have notAllRaw : ruleLines.all RuleLine.isRawDomain = false :=
    all_eq_false.mpr ⟨line, mem, by simp [cooked]⟩
  simpa [toOptions, parsed, nonempty, notAllRaw] using converted.symm

theorem plain_isEmpty {line : RuleLine} (mem : line ∈ ruleLines)
    (notImportant : line.isImportant = false) (notExclude : line.isExclude = false) :
    (Parts.ofLines ruleLines).plain.isEmpty = false := by
  have found : line.mapDomain ∈ select ruleLines false false line.isRegexp :=
    mem_select.mpr ⟨line, mem, notImportant, notExclude, rfl, rfl⟩
  rw [Bool.eq_false_iff]
  intro empty
  simp only [Parts.ofLines, Part.isEmpty, Part.ofLines, Bool.and_eq_true, List.isEmpty_iff] at empty
  cases regexp : line.isRegexp <;> rw [regexp] at found
  · exact List.ne_nil_of_mem found empty.1
  · exact List.ne_nil_of_mem found empty.2

/-- The rule built from a list with a plain line that is not only a name blocks a name when
no important exception matches it, and an important line does, or a plain line does and
no plain exception. -/
theorem match_iff_precedence (packages : Packages matchers) (context : RuleContext)
    (lawful : MatchesByPattern packages) (parsers : Parsers) {text : Text} {ruleLines : List RuleLine}
    {rules : List (Options.HeadlessRule matchers)} (parsed : parseText parsers text = some ruleLines)
    (converted : toOptions parsers text = .ok rules)
    (plain : ∃ line ∈ ruleLines, line.isImportant = false ∧ line.isExclude = false ∧ line.isRawDomain = false) :
    ∃ options, rules = [options] ∧ ∀ rule, newHeadlessRule packages context options = .ok rule →
      ∀ (env : Environment) (metadata : InboundContext), domainHost env (context.resolve .asIs) metadata ≠ "" →
        let host := lookedAt context env metadata
        (rule.match env metadata).1 ↔
          ¬SomeHits packages context ruleLines true true host ∧
            (SomeHits packages context ruleLines true false host ∨
              SomeHits packages context ruleLines false false host ∧
                ¬SomeHits packages context ruleLines false true host) := by
  obtain ⟨line, member, notImportant, notExclude, cooked⟩ := plain
  refine ⟨_, toOptions_eq_ok parsed ⟨line, member, cooked⟩ converted, ?_⟩
  intro rule built env metadata named
  rw [Parts.match_eq (.inr (plain_isEmpty member notImportant notExclude)) lawful built named]
  simp only [← Part.hits_ofLines, Parts.verdict, plain_isEmpty member notImportant notExclude, Bool.false_or,
    Bool.and_eq_true, Bool.or_eq_true, Bool.not_eq_true', ← Bool.not_eq_true]
  rfl

/-! ### A short list -/

/-- Names are texts of name bytes that begin with a letter, a digit or `_`. -/
def plainParsers : Parsers where
  isDomainName text := !text.isEmpty && decide (text.length ≤ 254) && text.all isNameByte &&
    text.head? != some (byte '.') && text.head? != some (byte '-')
  parseAddr _ := none
  isUnspecified _ := false
  mapKeepsEmpty := true
  name_ne_nil := rfl
  name_bytes := by
    intro text isName
    simp only [Bool.and_eq_true, all_eq_true] at isName
    exact isName.1.1.2
  name_length := by
    intro text isName
    simp only [Bool.and_eq_true, decide_eq_true_eq] at isName
    exact isName.1.1.1.2
  name_after_r := by
    intro text isName starts
    simp only [Bool.and_eq_true, bne_iff_ne] at isName
    rcases starts with dot | hyphen
    · exact absurd dot isName.1.2
    · exact absurd hyphen isName.2
  addr_start := by simp

/-- A pattern accepts the names that end in what stands between `||` and `^`. -/
def suffixPackages : Packages ⟨Unit, List Text⟩ where
  newMatcher _ _ _ := ()
  newAdGuardMatcher ruleLines := ruleLines
  accepts _ _ := false
  acceptsAdGuard ruleLines host := ruleLines.any fun ruleLine => (ruleLine.drop 2).dropLast <:+ host
  dump _ := ([], [])
  dumpAdGuard ruleLines := ruleLines
  buildIPSet _ := .error "no sets"
  prefixes _ := []

theorem suffixPackages_matchesByPattern : MatchesByPattern suffixPackages := by
  intro ruleLines host
  simp [suffixPackages]

def asciiContext : RuleContext where
  compile _ := .ok fun _ => false
  decode _ := ""
  encode host := ascii host.toList

/-- `||a^$important`, `@@||x.a^` and `||b^`. -/
def shortList : Text := ascii ['|', '|', 'a', '^', '$', 'i', 'm', 'p', 'o', 'r', 't', 'a', 'n', 't', '\n',
  '@', '@', '|', '|', 'x', '.', 'a', '^', '\n', '|', '|', 'b', '^', '\n']

def shortLines : List RuleLine := [
  { ruleLine := ascii ['a'], isSuffix := true, hasEnd := true, isImportant := true },
  { ruleLine := ascii ['x', '.', 'a'], isExclude := true, isSuffix := true, hasEnd := true },
  { ruleLine := ascii ['b'], isSuffix := true, hasEnd := true }]

theorem parseText_shortList : parseText plainParsers shortList = some shortLines := by decide +kernel

theorem toOptions_shortList : toOptions plainParsers shortList =
    .ok [((Parts.ofLines shortLines).rule plainParsers : Options.HeadlessRule ⟨Unit, List Text⟩)] := by
  rfl

/-- An exception alone, with no rule that it is an exception from. -/
theorem toOptions_loads_exception :
    ∃ options, toOptions plainParsers (ascii ['@', '@', 'a']) = .ok [options] ∧
      ∃ rule, newHeadlessRule suffixPackages asciiContext options = .ok rule := by
  have parsed : parseText plainParsers (ascii ['@', '@', 'a']) = some [{ ruleLine := ascii ['a'], isExclude := true }] := by
    decide +kernel
  exact ⟨_, rfl, toOptions_loads suffixPackages asciiContext plainParsers rfl parsed (by simp) rfl _
    (mem_singleton_self _)⟩

theorem exists_shortRule :
    ∃ rule, newHeadlessRule suffixPackages asciiContext ((Parts.ofLines shortLines).rule plainParsers) = .ok rule :=
  (Parts.exists_rule_iff (.inl rfl)).mpr ⟨nofun, nofun, nofun, nofun⟩

/-- The exception for `x.a` does not weigh more than the important rule. -/
theorem match_iff_precedence_important :
    ∃ options rule, toOptions plainParsers shortList = .ok [options] ∧
      newHeadlessRule suffixPackages asciiContext options = .ok rule ∧
        (rule.match {} { domain := "x.a" }).1 ∧ ¬(rule.match {} { domain := "c" }).1 := by
  obtain ⟨options, same, blocks⟩ := match_iff_precedence suffixPackages asciiContext suffixPackages_matchesByPattern
    plainParsers parseText_shortList toOptions_shortList (by decide)
  obtain rfl := singleton_inj.mp same
  obtain ⟨rule, built⟩ := exists_shortRule
  refine ⟨_, rule, toOptions_shortList, built, ?_, ?_⟩
  · exact (blocks rule built {} { domain := "x.a" } (by decide)).mpr (by decide +kernel)
  · exact fun blocked => absurd ((blocks rule built {} { domain := "c" } (by decide)).mp blocked) (by decide +kernel)

end AdGuard

end SingBox
