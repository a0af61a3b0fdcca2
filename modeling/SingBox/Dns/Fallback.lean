import SingBox.Dns.Router

/-! # Fallback rules as an interpreter

`applyDNSFallback` asks `resolveDNSFallback` for the next fallback server, from an index on,
until a server gives a good answer or nothing more matches. Both functions carry one result:
it starts as the primary one and is overwritten by every failed attempt. Here they are
written as in the source (`applyDNSFallback_eq` brings them back to the single loop of
`SingBox.Dns.Router`) and compared with an interpreter that keeps the primary result apart.
The two differ where a rule accepts the primary result after an attempt has failed.
-/

open List

namespace SingBox.Fallback

variable (router : DNSRouter) (metadata : InboundContext) (allowFakeIP : Bool)

/-! ## The code -/

/-- The loop of `resolveDNSFallback` from `index` on. The result is the next attempt, the
index behind it, and whether there was one. -/
def resolveFrom (position : Nat) (result : ExchangeResult) (fallbackBaseOptions : DNSQueryOptions)
    (matchResponse : Option DnsMessage) (nextIndex : Nat) : Nat → List DNSFallbackRule → ExchangeResult × Nat × Bool
  | _, [] => (result, nextIndex, false)
  | index, rule :: rules =>
    let seen := fallbackMetadata metadata matchResponse
    let next := resolveFrom position result fallbackBaseOptions matchResponse nextIndex (index + 1) rules
    if !rule.match router.env seen then next
    else if rule.acceptResult then
      -- `responseGood`
      if !seen.destinationAddressMatchFromResponse then next else (result, nextIndex, false)
    else
      match router.transport rule.server with
      | none => next
      | some type =>
        if type = .fakeIP ∧ !allowFakeIP then next
        else
          let options := fallbackOptions rule type fallbackBaseOptions
          let answer := router.exchange {
            position, fallback := some index, transport := rule.server
            options := router.finalizeExchangeOptions options }
          ({ result with response := answer.response, transport := some rule.server, options, err := answer.err },
            index + 1, true)

def resolveDNSFallback (position : Nat) (rules : List DNSFallbackRule) (result : ExchangeResult)
    (fallbackBaseOptions : DNSQueryOptions) (matchResponse : Option DnsMessage) (nextIndex : Nat) :
    ExchangeResult × Nat × Bool :=
  resolveFrom router metadata allowFakeIP position result fallbackBaseOptions matchResponse nextIndex nextIndex
    (rules.drop nextIndex)

/-- The loop of `applyDNSFallback`. Every round passes a rule, which bounds their number. -/
def attempts (position : Nat) (rules : List DNSFallbackRule) (fallbackBaseOptions : DNSQueryOptions)
    (matchResponse : Option DnsMessage) : Nat → ExchangeResult → Nat → ExchangeResult
  | 0, result, _ => result
  | fuel + 1, result, nextIndex =>
    let (nextResult, attempted, matched) :=
      resolveDNSFallback router metadata allowFakeIP position rules result fallbackBaseOptions matchResponse nextIndex
    if !matched then result
    else if !nextResult.bad then nextResult
    else attempts position rules fallbackBaseOptions matchResponse fuel nextResult attempted

variable (rules : List DNSRule) (result : ExchangeResult)

def applyDNSFallback : ExchangeResult :=
  if result.rejected then result
  else match result.rule with
    | none => result
    | some position => match rules[position]? with
      | none => result
      | some rule =>
        attempts router metadata allowFakeIP position rule.fallbackRules result.options result.response
          (rule.fallbackRules.length + 1) result 0

/-! ## One loop -/

section Loop

variable {router metadata allowFakeIP}

/-- What becomes of a result of `resolveFrom` in the single loop. -/
def GoesOn (router : DNSRouter) (metadata : InboundContext) (allowFakeIP : Bool) (position : Nat)
    (primary result : ExchangeResult) (index : Nat) (rules : List DNSFallbackRule) (next : ExchangeResult × Nat × Bool) :
    Prop :=
  tryFallbackRules router metadata allowFakeIP position primary index rules result =
      (if !next.2.2 then result
        else if !next.1.bad then next.1
        else tryFallbackRules router metadata allowFakeIP position primary next.2.1 (rules.drop (next.2.1 - index)) next.1) ∧
    (next.2.2 → index < next.2.1 ∧ next.2.1 ≤ index + rules.length)

theorem tryFallbackRules_eq_resolveFrom (position : Nat) (primary result : ExchangeResult) (nextIndex index : Nat)
    (rules : List DNSFallbackRule) :
    GoesOn router metadata allowFakeIP position primary result index rules
      (resolveFrom router metadata allowFakeIP position result primary.options primary.response nextIndex index rules) := by
  induction rules generalizing index with
  | nil => exact ⟨rfl, nofun⟩
  | cons rule rules ih =>
    -- a rule that is passed over
    have passed (same : tryFallbackRules router metadata allowFakeIP position primary index (rule :: rules) result =
        tryFallbackRules router metadata allowFakeIP position primary (index + 1) rules result) :
        GoesOn router metadata allowFakeIP position primary result index (rule :: rules)
          (resolveFrom router metadata allowFakeIP position result primary.options primary.response nextIndex (index + 1)
            rules) := by
      obtain ⟨isResult, bounds⟩ := ih (index + 1)
      generalize resolveFrom router metadata allowFakeIP position result primary.options primary.response nextIndex
        (index + 1) rules = next at isResult bounds ⊢
      obtain ⟨next, attempted, matched⟩ := next
      rw [GoesOn, same, isResult, length_cons]
      cases matched with
      | false => exact ⟨rfl, nofun⟩
      | true =>
        obtain ⟨behind, inside⟩ := bounds rfl
        dsimp only at behind inside ⊢
        rw [show attempted - index = attempted - (index + 1) + 1 by omega, drop_succ_cons]
        exact ⟨rfl, fun _ => ⟨by omega, by omega⟩⟩
    rw [tryFallbackRules] at passed
    rw [resolveFrom]
    by_cases noMatch : (!rule.match router.env (fallbackMetadata metadata primary.response))
    · rw [if_pos noMatch] at passed ⊢
      exact passed rfl
    · rw [if_neg noMatch] at passed ⊢
      by_cases accepts : rule.acceptResult
      · rw [if_pos accepts] at passed ⊢
        cases good : (fallbackMetadata metadata primary.response).destinationAddressMatchFromResponse with
        | true =>
          refine ⟨?_, nofun⟩
          rw [tryFallbackRules, if_neg noMatch, if_pos accepts, good]
          rfl
        | false =>
          rw [good] at passed
          exact passed rfl
      · rw [if_neg accepts] at passed ⊢
        cases isType : router.transport rule.server with
        | none =>
          rw [isType] at passed
          exact passed rfl
        | some type =>
          rw [isType] at passed
          dsimp only at passed ⊢
          by_cases skipped : type = .fakeIP ∧ !allowFakeIP
          · rw [if_pos skipped] at passed ⊢
            exact passed rfl
          · rw [if_neg skipped]
            refine ⟨?_, fun _ => ⟨by simp, by simp⟩⟩
            rw [tryFallbackRules, if_neg noMatch, if_neg accepts, isType, Nat.add_sub_cancel_left, drop_succ_cons, drop_zero]
            dsimp only
            rw [if_neg skipped]
            generalize ExchangeResult.bad _ = isBad
            cases isBad <;> rfl

theorem attempts_eq (position : Nat) (rules : List DNSFallbackRule) (primary : ExchangeResult) (fuel : Nat)
    (result : ExchangeResult) (nextIndex : Nat) (enough : rules.length - nextIndex < fuel) :
    attempts router metadata allowFakeIP position rules primary.options primary.response fuel result nextIndex =
      tryFallbackRules router metadata allowFakeIP position primary nextIndex (rules.drop nextIndex) result := by
  induction fuel generalizing result nextIndex with
  | zero => omega
  | succ fuel ih =>
    obtain ⟨isResult, bounds⟩ := @tryFallbackRules_eq_resolveFrom router metadata allowFakeIP position primary result
      nextIndex nextIndex (rules.drop nextIndex)
    rw [isResult, attempts, resolveDNSFallback]
    generalize resolveFrom router metadata allowFakeIP position result primary.options primary.response nextIndex nextIndex
      (rules.drop nextIndex) = next at bounds ⊢
    obtain ⟨next, attempted, matched⟩ := next
    dsimp only at bounds ⊢
    cases matched with
    | false => rfl
    | true =>
      obtain ⟨behind, inside⟩ := bounds rfl
      rw [length_drop] at inside
      rw [ih next attempted (by omega), drop_drop, show nextIndex + (attempted - nextIndex) = attempted by omega]

theorem applyDNSFallback_eq :
    applyDNSFallback router metadata allowFakeIP rules result =
      SingBox.applyDNSFallback router metadata allowFakeIP rules result := by
  unfold applyDNSFallback SingBox.applyDNSFallback
  cases result.rule with
  | none => rfl
  | some position =>
    dsimp only
    cases rules[position]? with
    | none => rfl
    | some rule => simp [attempts_eq _ _ _ _ _ 0 (Nat.lt_succ_of_le (Nat.sub_le _ 0))]

end Loop

/-! ## The interpreter -/

/-- What a rule asks for, given the primary result. -/
inductive Verdict where
  | skip
  | accept
  | ask (type : DNSTransportType)

def verdict (primary : ExchangeResult) (rule : DNSFallbackRule) : Verdict :=
  if !rule.match router.env (fallbackMetadata metadata primary.response) then .skip
  else if rule.acceptResult then
    if primary.response.any fun response => response.rcode == rcodeSuccess then .accept else .skip
  else
    match router.transport rule.server with
    | none => .skip
    | some type => if type = .fakeIP ∧ !allowFakeIP then .skip else .ask type

/-- The primary options with the rule's own changes, and what the server answers. -/
def outcome (position : Nat) (primary : ExchangeResult) (index : Nat) (rule : DNSFallbackRule)
    (type : DNSTransportType) : ExchangeResult :=
  let options := fallbackOptions rule type primary.options
  let answer := router.exchange {
    position, fallback := some index, transport := rule.server
    options := router.finalizeExchangeOptions options }
  { primary with response := answer.response, transport := some rule.server, options, err := answer.err }

/-- The rules in order, with the result of the last server that was asked. -/
def interpret (position : Nat) (primary : ExchangeResult) :
    Nat → List DNSFallbackRule → Option ExchangeResult → ExchangeResult
  | _, [], last => last.getD primary
  | index, rule :: rules, last =>
    match verdict router metadata allowFakeIP primary rule with
    | .skip => interpret position primary (index + 1) rules last
    | .accept => primary
    | .ask type =>
      let next := outcome router position primary index rule type
      if next.bad then interpret position primary (index + 1) rules (some next) else next

def interpretDNSFallback : ExchangeResult :=
  if result.rejected then result
  else match result.rule with
    | none => result
    | some position => match rules[position]? with
      | none => result
      | some rule => interpret router metadata allowFakeIP position result 0 rule.fallbackRules none

/-! ## Where they agree -/

/-- What the servers of the rules answer, as far as they are asked. -/
def outcomes (position : Nat) (primary : ExchangeResult) : Nat → List DNSFallbackRule → List ExchangeResult
  | _, [] => []
  | index, rule :: rules =>
    match verdict router metadata allowFakeIP primary rule with
    | .ask type => outcome router position primary index rule type :: outcomes position primary (index + 1) rules
    | _ => outcomes position primary (index + 1) rules

/-- Where a rule accepts the primary result, no server was asked before, or the last one that
failed left the primary result; `last` is a result from before the rules. -/
def KeepsPrimary (position : Nat) (primary : ExchangeResult) (index : Nat) (rules : List DNSFallbackRule)
    (last : Option ExchangeResult) : Prop :=
  ∀ before rule after, rules = before ++ rule :: after →
    verdict router metadata allowFakeIP primary rule = .accept →
    (∀ earlier ∈ before, verdict router metadata allowFakeIP primary earlier ≠ .accept) →
    (∀ result ∈ outcomes router metadata allowFakeIP position primary index before, result.bad) →
    ((outcomes router metadata allowFakeIP position primary index before).getLast?.or last).getD primary = primary

section Agreement

variable {router metadata allowFakeIP} {position : Nat} {primary : ExchangeResult}

/-- The carried result differs from the primary one only in what an attempt overwrites. -/
structure Carries (primary result : ExchangeResult) : Prop where
  rule : result.rule = primary.rule
  rejected : result.rejected = primary.rejected

variable {result : ExchangeResult} {rule : DNSFallbackRule}

theorem tryFallbackRules_cons (carries : Carries primary result) (index : Nat)
    (rule : DNSFallbackRule) (rules : List DNSFallbackRule) :
    tryFallbackRules router metadata allowFakeIP position primary index (rule :: rules) result =
      match verdict router metadata allowFakeIP primary rule with
      | .skip => tryFallbackRules router metadata allowFakeIP position primary (index + 1) rules result
      | .accept => result
      | .ask type =>
        let next := outcome router position primary index rule type
        if next.bad then tryFallbackRules router metadata allowFakeIP position primary (index + 1) rules next else next := by
  rw [tryFallbackRules, verdict]
  split
  · rfl
  · split
    · change (if (primary.response.any fun response => response.rcode == rcodeSuccess) then _ else _) = _
      split <;> rfl
    · cases router.transport rule.server with
      | none => rfl
      | some type =>
        dsimp only
        rw [carries.rule, carries.rejected]
        split <;> rfl

theorem keepsPrimary_accept (isAccept : verdict router metadata allowFakeIP primary rule = .accept)
    (index : Nat) (rules : List DNSFallbackRule) (last : Option ExchangeResult) :
    KeepsPrimary router metadata allowFakeIP position primary index (rule :: rules) last ↔
      last.getD primary = primary := by
  constructor
  · exact fun keeps => keeps [] rule rules rfl isAccept (by simp) (by simp [outcomes])
  · intro isPrimary before accepting after isRules _ noEarlier _
    cases before with
    | nil => exact isPrimary
    | cons first before =>
      cases isRules
      exact absurd isAccept (noEarlier _ (by simp))

/-- A rule that does not accept: a good answer of its server, if it asks one, ends the search, a
bad one is carried on. -/
theorem keepsPrimary_cons {index : Nat} {rules : List DNSFallbackRule} {last : Option ExchangeResult}
    (own : List ExchangeResult) (notAccept : verdict router metadata allowFakeIP primary rule ≠ .accept)
    (same : ∀ before, outcomes router metadata allowFakeIP position primary index (rule :: before) =
      own ++ outcomes router metadata allowFakeIP position primary (index + 1) before) :
    KeepsPrimary router metadata allowFakeIP position primary index (rule :: rules) last ↔
      ((∀ result ∈ own, result.bad) →
        KeepsPrimary router metadata allowFakeIP position primary (index + 1) rules (own.getLast?.or last)) := by
  have lastOf (results : List ExchangeResult) :
      (own ++ results).getLast?.or last = results.getLast?.or (own.getLast?.or last) := by
    rw [getLast?_append, Option.or_assoc]
  constructor
  · intro keeps ownBad before accepting after isRules isAccept noEarlier allBad
    rw [← lastOf, ← same]
    refine keeps (rule :: before) accepting after (by rw [isRules]; rfl) isAccept
      (forall_mem_cons.mpr ⟨notAccept, noEarlier⟩) ?_
    rw [same]
    exact forall_mem_append.mpr ⟨ownBad, allBad⟩
  · intro keeps before accepting after isRules isAccept noEarlier allBad
    cases before with
    | nil =>
      cases isRules
      exact absurd isAccept notAccept
    | cons first before =>
      cases isRules
      rw [same] at allBad ⊢
      rw [lastOf]
      obtain ⟨ownBad, laterBad⟩ := forall_mem_append.mp allBad
      exact keeps ownBad before accepting after rfl isAccept (forall_mem_cons.mp noEarlier).2 laterBad

/-- From any rule on: the carried result is that of the last server, or the primary one. -/
theorem tryFallbackRules_eq_interpret_iff (index : Nat) (rules : List DNSFallbackRule) (last : Option ExchangeResult)
    (carries : Carries primary (last.getD primary)) :
    tryFallbackRules router metadata allowFakeIP position primary index rules (last.getD primary) =
        interpret router metadata allowFakeIP position primary index rules last ↔
      KeepsPrimary router metadata allowFakeIP position primary index rules last := by
  induction rules generalizing index last with
  | nil =>
    refine iff_of_true rfl fun before rule after isRules => ?_
    cases before <;> cases isRules
  | cons rule rules ih =>
    rw [tryFallbackRules_cons carries, interpret]
    cases isVerdict : verdict router metadata allowFakeIP primary rule with
    | skip =>
      rw [keepsPrimary_cons [] (by simp [isVerdict]) fun before => by rw [outcomes, isVerdict]; rfl]
      simpa using ih (index + 1) last carries
    | accept => rw [keepsPrimary_accept isVerdict]
    | ask type =>
      have later := ih (index + 1) (some (outcome router position primary index rule type)) ⟨rfl, rfl⟩
      rw [keepsPrimary_cons [outcome router position primary index rule type] (by simp [isVerdict])
        fun before => by rw [outcomes, isVerdict]; rfl, forall_mem_singleton]
      dsimp only
      split
      next isBad => exact later.trans (by simp [isBad])
      next isGood => simp [isGood]

end Agreement

/-- The condition for the result of a walk: the rule it is the result of, with its fallback rules. -/
def AcceptsPrimary (result : ExchangeResult) : Prop :=
  ∀ position rule, result.rejected = false → result.rule = some position → rules[position]? = some rule →
    KeepsPrimary router metadata allowFakeIP position result 0 rule.fallbackRules none

theorem applyDNSFallback_eq_interpret_iff (rules : List DNSRule) (result : ExchangeResult) :
    applyDNSFallback router metadata allowFakeIP rules result =
        interpretDNSFallback router metadata allowFakeIP rules result ↔
      AcceptsPrimary router metadata allowFakeIP rules result := by
  rw [applyDNSFallback_eq, SingBox.applyDNSFallback, interpretDNSFallback]
  by_cases rejected : result.rejected
  · rw [if_pos rejected, if_pos rejected]
    refine iff_of_true rfl fun _ _ notRejected => ?_
    rw [rejected] at notRejected
    cases notRejected
  · rw [if_neg rejected, if_neg rejected]
    cases isPosition : result.rule with
    | none =>
      refine iff_of_true rfl fun _ _ _ isSome => ?_
      rw [isPosition] at isSome
      cases isSome
    | some position =>
      dsimp only
      cases isRule : rules[position]? with
      | none =>
        refine iff_of_true rfl fun _ _ _ isSome isOther => ?_
        rw [isPosition] at isSome
        cases isSome
        rw [isRule] at isOther
        cases isOther
      | some rule =>
        have agrees := @tryFallbackRules_eq_interpret_iff router metadata allowFakeIP position result 0 rule.fallbackRules none
          ⟨rfl, rfl⟩
        refine agrees.trans ⟨fun keeps _ _ _ isSome isOther => ?_, fun keeps => ?_⟩
        · rw [isPosition] at isSome
          cases isSome
          rw [isRule] at isOther
          cases isOther
          exact keeps
        · exact keeps position rule (Bool.not_eq_true _ ▸ rejected) isPosition isRule

/-- The first fallback server times out, the second rule accepts the primary result: the result
is the time-out. -/
theorem accepted_after_failed_attempt :
    let fallbackRules : List DNSFallbackRule :=
      [{ matchAll := true, server := "backup" }, { matchAll := true, acceptResult := true }]
    let rules : List DNSRule := [{ rule := .default {}, action := .respond, fallbackRules }]
    let primary : ExchangeResult := { response := some { rcode := 0 }, transport := some "main", rule := some 0 }
    let router : DNSRouter := { exchange := fun _ => { err := some "timeout" } }
    (applyDNSFallback router {} false rules primary).err = some "timeout" ∧
      interpretDNSFallback router {} false rules primary = primary :=
  ⟨rfl, rfl⟩

end SingBox.Fallback
