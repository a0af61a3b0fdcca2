import SingBox.Dns.Responses
import SingBox.Dns.Sequential

/-! # The walk simulates the sequential interpreter

As long as no query completes between the settling of the futures and the look at them that
follows, a rule is matched against the very responses that the sequential interpreter has
for it, and waits where they are not there yet. `examine_simulates` says so for one rule.
-/

open List Option

namespace SingBox

open WalkContext WalkState Future Nat

open Lib (lookup_assign)
open WalkContext (Outcome)

/-! ## Futures -/

namespace Future

variable (future : Future) (now : Nat)

/-- What one turn of `settleDNSFutures` makes of the future. -/
def settleAt : Future := if future.settled || !future.resolved now then future else { future with settled := true }

@[simp] theorem settleAt_tag : (future.settleAt now).tag = future.tag := by unfold settleAt; split <;> rfl

@[simp] theorem settleAt_transport : (future.settleAt now).transport = future.transport := by
  unfold settleAt; split <;> rfl

@[simp] theorem settleAt_completes : (future.settleAt now).completes = future.completes := by
  unfold settleAt; split <;> rfl

@[simp] theorem settleAt_answer : (future.settleAt now).answer = future.answer := by unfold settleAt; split <;> rfl

theorem settleAt_settled : (future.settleAt now).settled = (future.settled || future.resolved now) := by
  unfold settleAt
  split
  case isTrue kept => cases isSettled : future.settled <;> simp_all
  case isFalse new => simp_all

variable {future now}

theorem resolved_mono {later : Nat} (isLater : now ≤ later) (resolved : future.resolved now) :
    future.resolved later := by
  exact decide_eq_true ((of_decide_eq_true resolved).trans isLater)

theorem view_of_resolved (resolved : future.resolved now) : future.view now = future.answer.view := by
  rw [view, if_pos resolved]

end Future

theorem settleFrom_futures (now : Nat) (futures : List Future) (answers : NamedAnswers) :
    (settleFrom now futures answers).1 = futures.mapIdx fun index future => future.settleAt (now + index) := by
  induction futures generalizing now answers with
  | nil => rfl
  | cons future futures ih =>
    have shifted : (fun index (future : Future) => future.settleAt (now + (index + 1))) =
        fun index future => future.settleAt (now + 1 + index) := by
      funext index future
      rw [add_comm index 1, add_assoc]
    rw [mapIdx_cons, shifted]
    unfold settleFrom
    split
    case isTrue kept =>
      have head : future.settleAt (now + 0) = future := if_pos kept
      rw [head]
      exact congrArg _ (ih (now + 1) answers)
    case isFalse new =>
      have head : future.settleAt (now + 0) = { future with settled := true } := if_neg new
      rw [head]
      exact congrArg _ (ih (now + 1) (answers.record now future))

variable (state : WalkState)

theorem settleDNSFutures_futures : (settleDNSFutures state).futures =
    state.futures.mapIdx fun index future => future.settleAt (state.now + index) :=
  settleFrom_futures state.now state.futures _

/-- The answers that a tag has after settling: those of a future that was settled now, or
the old ones, when there is none. -/
theorem settleFrom_answers (now : Nat) (futures : List Future) (answers : NamedAnswers) {tag : String}
    (tagged : tag ≠ "") :
    let settled := (settleFrom now futures answers).2
    (∃ (index : Nat) (future : Future), futures[index]? = some future ∧ future.tag = tag ∧ future.resolved (now + index) ∧
        settled.responses.lookup tag = future.answer.view ∧ settled.transports.lookup tag = some future.transport) ∨
      ((∀ (index : Nat) (future : Future), futures[index]? = some future → future.tag = tag →
          future.settled ∨ future.resolved (now + index) = false) ∧
        settled.responses.lookup tag = answers.responses.lookup tag ∧
        settled.transports.lookup tag = answers.transports.lookup tag) := by
  induction futures generalizing now answers with
  | nil => exact .inr ⟨by simp, rfl, rfl⟩
  | cons future futures ih =>
    intro settled
    by_cases kept : (future.settled || !future.resolved now)
    · have isSettled : settled = (settleFrom (now + 1) futures answers).2 := by
        simp [settled, settleFrom, kept]
      rw [isSettled]
      rcases ih (now + 1) answers with ⟨index, found, isFound, rest⟩ | ⟨old, rest⟩
      · exact .inl ⟨index + 1, found, isFound, by simpa [add_comm, add_left_comm] using rest⟩
      · refine .inr ⟨fun index found isFound isTag => ?_, rest⟩
        cases index with
        | zero =>
          cases isFound
          simpa using kept
        | succ index => simpa [add_comm, add_left_comm] using old index found isFound isTag
    · have isSettled : settled = (settleFrom (now + 1) futures (answers.record now future)).2 := by
        simp [settled, settleFrom, kept]
      rw [isSettled]
      have resolved : future.resolved now := by
        cases isResolved : future.resolved now <;> simp_all
      rcases ih (now + 1) (answers.record now future) with
        ⟨index, found, isFound, rest⟩ | ⟨old, responses, transports⟩
      · exact .inl ⟨index + 1, found, isFound, by simpa [add_comm, add_left_comm] using rest⟩
      · rw [responses, transports]
        by_cases isTag : future.tag = tag
        · refine .inl ⟨0, future, rfl, isTag, resolved, ?_⟩
          simp [NamedAnswers.record, tagged, lookup_assign, isTag, view_of_resolved resolved]
        · refine .inr ⟨fun index found isFound foundTag => ?_, ?_⟩
          · cases index with
            | zero =>
              cases isFound
              exact absurd foundTag isTag
            | succ index => simpa [add_comm, add_left_comm] using old index found isFound foundTag
          · have other : tag ≠ future.tag := Ne.symm isTag
            unfold NamedAnswers.record
            split
            · exact ⟨rfl, rfl⟩
            · simp [lookup_assign, other]

variable {futures : List Future} {bound : List Nat} {now : Nat}

/-- Each of the futures has completed when it is looked at, one after the other. -/
def AllResolved (futures : List Future) (now : Nat) (bound : List Nat) : Prop :=
  ∀ {index future : Nat} {found : Future}, bound[index]? = some future → futures[future]? = some found →
    found.resolved (now + index)

theorem resolved_of_firstUnresolved (none : firstUnresolved futures now bound = none) : AllResolved futures now bound := by
  intro index future found isBound isFound
  induction bound generalizing now index with
  | nil => simp at isBound
  | cons first rest ih =>
    unfold firstUnresolved at none
    split at none
    case isTrue resolved =>
      cases index with
      | zero =>
        cases isBound
        simpa [isFound] using resolved
      | succ index => simpa [add_comm, add_left_comm] using ih none isBound
    case isFalse => cases none

theorem firstUnresolved_eq_some {future : Nat} (some : firstUnresolved futures now bound = some future) :
    bound ≠ [] ∧ ∃ found, futures[future]? = .some found ∧ now < found.completes := by
  induction bound generalizing now with
  | nil => cases some
  | cons first rest ih =>
    refine ⟨cons_ne_nil _ _, ?_⟩
    unfold firstUnresolved at some
    split at some
    case isTrue =>
      obtain ⟨-, found, isFound, later⟩ := ih some
      exact ⟨found, isFound, by omega⟩
    case isFalse unresolved =>
      cases some
      cases isFound : futures[future]? with
      | none => simp [isFound] at unresolved
      | some found => exact ⟨found, rfl, by simpa [isFound, resolved] using unresolved⟩

theorem unresolvedAmong_eq_nil (resolved : AllResolved futures now bound) : unresolvedAmong futures now bound = [] := by
  induction bound generalizing now with
  | nil => rfl
  | cons first rest ih =>
    unfold unresolvedAmong
    have head : (futures[first]?.all fun found => found.resolved now) := by
      cases isFound : futures[first]? with
      | none => rfl
      | some found => simpa using @resolved 0 first found rfl isFound
    rw [if_pos head]
    refine ih fun {index future found} isBound isFound => ?_
    simpa [add_comm, add_left_comm] using @resolved (index + 1) future found isBound isFound

/-! ## Rules that the router accepts -/

/-- The tag of an `evaluate` action that has one. -/
def DNSRule.evaluateTag (rule : DNSRule) : Option String :=
  match rule.action with
  | .evaluate _ tag _ _ => if tag = "" then none else some tag
  | _ => none

/-- A rule that looks at no response but those it binds. -/
structure DNSRule.Sound (rule : DNSRule) : Prop where
  binds : rule.rule.Leaves DefaultRule.BindsResponses
  responds : rule.action = .respond → rule.rule.matchResponseTag = "" → rule.rule.matchResponseTags = []

structure AcceptedRules (rules : List DNSRule) : Prop where
  sound : ∀ rule ∈ rules, rule.Sound
  unique : (rules.filterMap DNSRule.evaluateTag).Nodup

theorem Rule.ne_empty_of_mem_matchResponseTags (rule : Rule) : ∀ tag ∈ rule.matchResponseTags, tag ≠ "" := by
  induction rule using Rule.induction with
  | default rule =>
    intro tag isTag
    rw [matchResponseTags] at isTag
    split at isTag
    · cases isTag
    case isFalse tagged =>
      rw [mem_singleton] at isTag
      exact isTag ▸ tagged
  | logical mode invert rules ih =>
    intro tag isTag
    rw [matchResponseTags, allMatchResponseTags_eq, mem_eraseDups] at isTag
    obtain ⟨rule, mem, isTag⟩ := mem_flatMap.mp isTag
    exact ih rule mem tag isTag

variable {rule : Rule}

theorem Rule.matchResponseTag_mem (tagged : rule.matchResponseTag ≠ "") :
    rule.matchResponseTag ∈ rule.matchResponseTags := by
  cases rule with
  | default rule =>
    rw [matchResponseTag] at tagged ⊢
    rw [matchResponseTags, if_neg tagged]
    exact mem_singleton_self _
  | logical => exact absurd rfl tagged

/-! ## States that agree with the interpreter -/

namespace WalkState

def anonymousEvaluation : Option Future :=
  state.anonymousFuture.bind fun future => state.futures[future]?

def namedEvaluation (tag : String) : Option Future :=
  (state.namedFutures.lookup tag).bind fun future => state.futures[future]?

end WalkState

/-- Every future of the walk is an evaluation of the interpreter, whether it has completed
or not; a settled one can be read under its tag, and no later rule uses its tag again. -/
structure Related (rules : List DNSRule) (state : WalkState) (evaluations : Evaluations) : Prop where
  options : state.effectiveOptions = evaluations.options
  unarmed : state.armedRules = []
  terminal : state.terminal = none
  anonymous : evaluations.anonymous = state.anonymousEvaluation.map fun future => ⟨future.transport, future.answer⟩
  present : ∀ future, state.anonymousFuture = some future → future < state.futures.length
  named : ∀ tag,
    evaluations.responses.lookup tag = (state.namedEvaluation tag).bind (fun future => future.answer.view) ∧
      evaluations.transports.lookup tag = (state.namedEvaluation tag).map Future.transport
  tagged : ∀ (index : Nat) (future : Future), state.futures[index]? = some future → future.tag ≠ "" →
    state.namedFutures.lookup future.tag = some index
  pointed : ∀ tag index, state.namedFutures.lookup tag = some index →
    ∃ future : Future, state.futures[index]? = some future ∧ future.tag = tag
  settled : ∀ (index : Nat) (future : Future), state.futures[index]? = some future → future.tag ≠ "" → future.settled →
    state.namedResponses.lookup future.tag = future.answer.view ∧
      state.namedTransports.lookup future.tag = some future.transport
  unknown : ∀ tag, tag ≠ "" → state.namedFutures.lookup tag = none →
    state.namedResponses.lookup tag = none ∧ state.namedTransports.lookup tag = none
  ahead : ∀ tag ∈ (rules.drop state.ruleIndex).filterMap DNSRule.evaluateTag, state.namedFutures.lookup tag = none

theorem getElem?_append_singleton {α : Type} {items : List α} {item found : α} {index : Nat}
    (isFound : (items ++ [item])[index]? = some found) :
    items[index]? = some found ∨ index = items.length ∧ found = item := by
  rw [getElem?_append] at isFound
  split at isFound
  · exact .inl isFound
  · rw [getElem?_singleton] at isFound
    split at isFound
    · exact .inr ⟨by omega, (some.inj isFound).symm⟩
    · cases isFound

theorem getElem?_append_of_some {α : Type} {items : List α} {found : α} {index : Nat}
    (isFound : items[index]? = some found) (more : List α) : (items ++ more)[index]? = some found :=
  (getElem?_append_left (List.getElem?_eq_some_iff.mp isFound).1).trans isFound

namespace Related

variable {rules : List DNSRule} {state : WalkState} {evaluations : Evaluations}

section
variable (related : Related rules state evaluations)
include related

theorem tick (looks : Nat) : Related rules (state.tick looks) evaluations :=
  { related with }

theorem note (event : RaceEvent) : Related rules (state.note event) evaluations :=
  { related with }

theorem moveTo {index : Nat} (later : state.ruleIndex ≤ index) :
    Related rules { state with ruleIndex := index } evaluations :=
  { related with
    ahead := fun tag isTag => by
      refine related.ahead tag (List.Sublist.subset ?_ isTag)
      exact (drop_sublist_drop_left rules later).filterMap _ }

theorem next : Related rules state.next evaluations :=
  related.moveTo (le_succ _)

theorem settle : Related rules (settleDNSFutures state) evaluations := by
  have futures : ∀ index : Nat, (settleDNSFutures state).futures[index]? =
      state.futures[index]?.map fun future => future.settleAt (state.now + index) := by
    intro index
    rw [settleDNSFutures_futures, getElem?_mapIdx]
  have original : ∀ {index : Nat} {future : Future}, (settleDNSFutures state).futures[index]? = some future →
      ∃ before, state.futures[index]? = some before ∧ before.settleAt (state.now + index) = future := by
    intro index future isFuture
    rw [futures] at isFuture
    exact map_eq_some_iff.mp isFuture
  have named : ∀ tag, (settleDNSFutures state).namedEvaluation tag = (state.namedFutures.lookup tag).bind fun index =>
      state.futures[index]?.map fun future => future.settleAt (state.now + index) := by
    intro tag
    unfold namedEvaluation
    simp only [futures]
    rfl
  have answers := fun {tag : String} (isTagged : tag ≠ "") =>
    settleFrom_answers state.now state.futures ⟨state.namedResponses, state.namedTransports⟩ isTagged
  refine { related with
    anonymous := ?_, present := ?_, named := ?_, tagged := ?_, pointed := ?_
    settled := ?_, unknown := ?_ }
  · rw [related.anonymous]
    unfold anonymousEvaluation
    change _ = (state.anonymousFuture.bind fun future => (settleDNSFutures state).futures[future]?).map _
    cases state.anonymousFuture with
    | none => rfl
    | some future => simp [futures, Function.comp_def]
  · intro future isFuture
    rw [settleDNSFutures_futures, length_mapIdx]
    exact related.present future isFuture
  · intro tag
    rw [(related.named tag).1, (related.named tag).2, named]
    unfold namedEvaluation
    cases state.namedFutures.lookup tag with
    | none => exact ⟨rfl, rfl⟩
    | some index => cases isFuture : state.futures[index]? <;> simp [isFuture]
  · intro index future isFuture isTagged
    obtain ⟨before, isBefore, rfl⟩ := original isFuture
    rw [settleAt_tag] at isTagged ⊢
    exact related.tagged index before isBefore isTagged
  · intro tag index isIndex
    obtain ⟨future, isFuture, isTag⟩ := related.pointed tag index isIndex
    exact ⟨future.settleAt (state.now + index), by rw [futures, isFuture]; rfl, by simpa using isTag⟩
  · intro index future isFuture isTagged isSettled
    obtain ⟨before, isBefore, rfl⟩ := original isFuture
    simp only [settleAt_tag, settleAt_answer, settleAt_transport] at isTagged ⊢
    have own := related.tagged index before isBefore isTagged
    rcases answers isTagged with ⟨other, found, isFound, foundTag, -, read⟩ | ⟨old, read⟩
    · -- The future that was settled now is the only one with the tag.
      have same := related.tagged other found isFound (foundTag ▸ isTagged)
      rw [foundTag, own] at same
      cases same
      cases isBefore.symm.trans isFound
      exact read
    · have keeps : before.settled → _ := fun wasSettled =>
        And.imp read.1.trans read.2.trans (related.settled index before isBefore isTagged wasSettled)
      rcases old index before isBefore rfl with wasSettled | unresolved
      · exact keeps wasSettled
      · rw [settleAt_settled, unresolved, Bool.or_false] at isSettled
        exact keeps isSettled
  · intro tag isTagged isUnknown
    rcases answers isTagged with ⟨other, found, isFound, foundTag, -, -⟩ | ⟨-, read⟩
    · have known := related.tagged other found isFound (foundTag ▸ isTagged)
      rw [foundTag] at known
      cases known.symm.trans isUnknown
    · exact And.imp read.1.trans read.2.trans (related.unknown tag isTagged isUnknown)

end

section Launch

variable (related : Related rules state evaluations)
include related

variable (future : Future)

theorem namedEvaluation_append (tag : String) :
    ((state.namedFutures.lookup tag).bind fun index => (state.futures ++ [future])[index]?) = state.namedEvaluation tag := by
  unfold namedEvaluation
  cases isKnown : state.namedFutures.lookup tag with
  | none => rfl
  | some index =>
    obtain ⟨found, isFound, -⟩ := related.pointed tag index isKnown
    exact (getElem?_append_of_some isFound [future]).trans isFound.symm

theorem anonymousEvaluation_append :
    (state.anonymousFuture.bind fun index => (state.futures ++ [future])[index]?) = state.anonymousEvaluation := by
  unfold anonymousEvaluation
  cases isAnonymous : state.anonymousFuture with
  | none => rfl
  | some index => exact getElem?_append_left (related.present index isAnonymous)

theorem launchAnonymous {future : Future} (untagged : future.tag = "") (launched : Nat) :
    Related rules { state with
        futures := state.futures ++ [future], launched, anonymousFuture := some state.futures.length }
      { evaluations with anonymous := some ⟨future.transport, future.answer⟩ } :=
  { related with
    anonymous := by simp [anonymousEvaluation]
    present := fun index isIndex => by
      cases isIndex
      simp
    named := fun tag => by
      have named := related.named tag
      rwa [← related.namedEvaluation_append future] at named
    tagged := fun index found isFound isTagged => by
      rcases getElem?_append_singleton isFound with isOld | ⟨-, rfl⟩
      · exact related.tagged index found isOld isTagged
      · exact absurd untagged isTagged
    pointed := fun tag index isIndex => by
      obtain ⟨found, isFound, isTag⟩ := related.pointed tag index isIndex
      exact ⟨found, getElem?_append_of_some isFound [future], isTag⟩
    settled := fun index found isFound isTagged isSettled => by
      rcases getElem?_append_singleton isFound with isOld | ⟨-, rfl⟩
      · exact related.settled index found isOld isTagged isSettled
      · exact absurd untagged isTagged }

/-- A tag is used for one query only. -/
theorem launchNamed (isTagged : future.tag ≠ "") (unsettled : future.settled = false)
    (unused : state.namedFutures.lookup future.tag = none)
    (ahead : future.tag ∉ (rules.drop (state.ruleIndex + 1)).filterMap DNSRule.evaluateTag) (launched : Nat) :
    Related rules { state with
        ruleIndex := state.ruleIndex + 1, futures := state.futures ++ [future], launched
        namedFutures := Lib.assign state.namedFutures future.tag (some state.futures.length) }
      (evaluations.record future.tag ⟨future.transport, future.answer⟩) := by
  have other : ∀ {index : Nat} {found : Future}, state.futures[index]? = some found → found.tag ≠ "" →
      found.tag ≠ future.tag := by
    intro index found isFound foundTagged same
    cases (same ▸ related.tagged index found isFound foundTagged).symm.trans unused
  unfold Evaluations.record
  rw [if_neg isTagged]
  refine { related with
    anonymous := ?_, present := ?_, named := ?_, tagged := ?_, pointed := ?_
    settled := ?_, unknown := ?_, ahead := ?_ }
  · rw [related.anonymous, ← related.anonymousEvaluation_append future]
    rfl
  · intro index isIndex
    simpa using lt_succ_of_lt (related.present index isIndex)
  · intro tag
    simp only [lookup_assign, namedEvaluation]
    split
    · simp
    · rw [related.namedEvaluation_append]
      exact related.named tag
  · intro index found isFound foundTagged
    simp only [lookup_assign]
    rcases getElem?_append_singleton isFound with isOld | ⟨isLast, rfl⟩
    · rw [if_neg (other isOld foundTagged)]
      exact related.tagged index found isOld foundTagged
    · rw [if_pos rfl, isLast]
  · intro tag index isIndex
    simp only [lookup_assign] at isIndex
    split at isIndex
    case isTrue same =>
      cases isIndex
      exact ⟨future, by simp, same.symm⟩
    case isFalse =>
      obtain ⟨found, isFound, isTag⟩ := related.pointed tag index isIndex
      exact ⟨found, getElem?_append_of_some isFound [future], isTag⟩
  · intro index found isFound foundTagged isSettled
    rcases getElem?_append_singleton isFound with isOld | ⟨-, rfl⟩
    · exact related.settled index found isOld foundTagged isSettled
    · cases unsettled.symm.trans isSettled
  · intro tag tagTagged isUnknown
    simp only [lookup_assign] at isUnknown
    split at isUnknown
    · cases isUnknown
    · exact related.unknown tag tagTagged isUnknown
  · intro tag isTag
    simp only [lookup_assign]
    split
    case isTrue same => exact absurd (same ▸ isTag) ahead
    case isFalse => exact (related.moveTo (le_succ state.ruleIndex)).ahead tag isTag

end Launch

end Related

/-! ## Matching -/

/-- The responses that the rule binds are there to be read. -/
structure Readable (state : WalkState) (rule : Rule) : Prop where
  anonymous : rule.matchResponseAnonymous → ∀ future ∈ state.anonymousEvaluation, future.resolved state.now
  tagged : ∀ tag ∈ rule.matchResponseTags, ∀ future ∈ state.namedEvaluation tag, future.settled

variable {state : WalkState}

theorem Readable.tick (ready : Readable state rule) (looks : Nat) : Readable (state.tick looks) rule where
  anonymous binds future isFuture := resolved_mono (le_add_right _ _) (ready.anonymous binds future isFuture)
  tagged := ready.tagged

theorem Readable.of_not_hasBindings (unbound : rule.hasBindings = false) : Readable state rule := by
  unfold Rule.hasBindings at unbound
  simp only [Bool.or_eq_false_iff, Bool.not_eq_false', List.isEmpty_iff] at unbound
  constructor
  · intro binds
    cases unbound.2.symm.trans binds
  · rw [unbound.1]
    simp

namespace Related

variable {rules : List DNSRule} {state : WalkState} {evaluations : Evaluations}

section
variable (related : Related rules state evaluations)
include related

theorem response_eq (resolved : ∀ future ∈ state.anonymousEvaluation, future.resolved state.now) :
    state.anonymousResponse = evaluations.response := by
  unfold anonymousResponse Evaluations.response
  rw [related.anonymous]
  change state.anonymousEvaluation.bind _ = _
  cases isFuture : state.anonymousEvaluation with
  | none => rfl
  | some future => exact view_of_resolved (resolved future isFuture)

theorem tagged_eq (ready : Readable state rule) {tag : String} (isTag : tag ∈ rule.matchResponseTags) :
    state.namedResponses.lookup tag = evaluations.responses.lookup tag ∧
      state.namedTransports.lookup tag = evaluations.transports.lookup tag := by
  have isTagged := rule.ne_empty_of_mem_matchResponseTags tag isTag
  rw [(related.named tag).1, (related.named tag).2]
  have settled := ready.tagged tag isTag
  unfold namedEvaluation at settled ⊢
  cases isKnown : state.namedFutures.lookup tag with
  | none => exact related.unknown tag isTagged isKnown
  | some index =>
    obtain ⟨future, isFuture, rfl⟩ := related.pointed tag index isKnown
    have read := related.settled index future isFuture isTagged (settled future (by simp [isKnown, isFuture]))
    simpa [isFuture] using read

theorem agree (ready : Readable state rule) :
    rule.Agree state.anonymousResponse evaluations.response state.namedResponses evaluations.responses where
  anonymous binds := related.response_eq (ready.anonymous binds)
  tagged _ isTag := (related.tagged_eq ready isTag).1

theorem ruleMatches_eq (context : WalkContext) {rule : DNSRule}
    (sound : rule.Sound) (ready : Readable state rule.rule) :
    context.ruleMatches state rule state.anonymousResponse = context.matchesNow rule evaluations :=
  @Rule.matched_withResponses context.router.env
    { context.metadata.resetRuleCache with destinationAddressMatchFromResponse := false } _ _ _ _
    rule.rule sound.binds rfl rfl (related.agree ready)

end

end Related

/-! ## Actions -/

/-- Time has passed at a rule, and no query was launched. -/
structure Passed (before after : WalkState) : Prop where
  index : after.ruleIndex = before.ruleIndex
  later : before.now < after.now
  completes : after.futures.map Future.completes = before.futures.map Future.completes

variable {before after : WalkState}

theorem Passed.tick (passed : Passed before after) (looks : Nat) : Passed before (after.tick looks) :=
  { passed with later := passed.later.trans_le (le_add_right _ _) }

theorem Passed.unresolved (passed : Passed before after) {future : Future}
    (isFuture : future ∈ after.futures) (unresolved : after.now < future.completes) :
    ∃ time ∈ before.futures.map Future.completes, before.now < time := by
  refine ⟨future.completes, ?_, passed.later.trans unresolved⟩
  rw [← passed.completes]
  exact mem_map_of_mem isFuture

/-- How the examination of a rule, begun in the state, relates to its turn in the
interpreter: it comes to the same, or waits. -/
inductive Simulates (context : WalkContext) (state : WalkState) (evaluations : Evaluations) : Outcome → Turn → Prop where
  | next {after : WalkState} {evaluations' : Evaluations} (related : Related context.rules after evaluations')
      (index : after.ruleIndex = state.ruleIndex + 1) : Simulates context state evaluations (.next after) (.next evaluations')
  | await {future : Nat} {after : WalkState} {turn : Turn} (related : Related context.rules after evaluations)
      (passed : Passed state after) (unresolved : ∃ time ∈ state.futures.map Future.completes, state.now < time) :
      Simulates context state evaluations (.suspend (.await future) after) turn
  | pending {exchange : PendingExchange} {after : WalkState} (related : Related context.rules after evaluations)
      (index : after.ruleIndex = state.ruleIndex) (unlaunched : exchange.future = none)
      (rule : exchange.rule = some state.ruleIndex) :
      Simulates context state evaluations (.suspend (.pending exchange) after) (.commit
        (queryResult exchange.transport exchange.rule exchange.options
          (context.askNow state.ruleIndex exchange.transport exchange.options)))
  | done {result : ExchangeResult} {after : WalkState} (related : Related context.rules after evaluations)
      (index : after.ruleIndex = state.ruleIndex) :
      Simulates context state evaluations (.done result after) (.commit result)

section Simulation

variable {context : WalkContext} {before state : WalkState} {evaluations : Evaluations}

theorem final_result (related : Related context.rules state evaluations) (index : state.ruleIndex = before.ruleIndex)
    (result : ExchangeResult) :
    Simulates context before evaluations (final state (.result result)) (.commit result) := by
  unfold final
  rw [if_neg (by simpa using related.unarmed)]
  exact .done (related.note _) index

variable {rule : DNSRule}

section
variable (related : Related context.rules state evaluations)
include related

variable {speculative : Bool}

theorem evaluate_simulates (accepted : AcceptedRules context.rules)
    (index : state.ruleIndex = before.ruleIndex) (isRule : context.rules[state.ruleIndex]? = some rule)
    {server tag : String} {routeOptions : RuleActionDNSRouteOptions}
    (action : rule.action = .evaluate server tag speculative routeOptions) :
    Simulates context before evaluations (context.evaluate state server tag speculative routeOptions)
      (context.actNow before.ruleIndex rule evaluations) := by
  have rest : context.rules.drop state.ruleIndex = rule :: context.rules.drop (state.ruleIndex + 1) := by
    obtain ⟨inside, isElem⟩ := List.getElem?_eq_some_iff.mp isRule
    rw [← isElem]
    exact List.drop_eq_getElem_cons inside
  unfold evaluate actNow
  simp only [action]
  cases context.router.transport server with
  | none =>
    dsimp only
    split
    · refine .next (Related.next { related with anonymous := rfl, present := by simp }) (congrArg (· + 1) index)
    · exact .next related.next (congrArg (· + 1) index)
  | some type =>
    have undrained : ¬(!speculative && decide (state.armedRules ≠ [])) := by simp [related.unarmed]
    simp only [undrained]
    have asked : context.askNow before.ruleIndex server (applyDNSRouteOptions evaluations.options routeOptions) =
        context.router.exchange {
          position := state.ruleIndex, transport := server
          options := context.router.finalizeExchangeOptions
            (applyDNSRouteOptions state.effectiveOptions routeOptions) } := by
      rw [askNow, index, related.options]
    rw [asked]
    by_cases untagged : tag = ""
    · simp only [untagged, Evaluations.record, if_true]
      exact .next (related.launchAnonymous rfl _).next (congrArg (· + 1) index)
    · simp only [untagged, if_false]
      have isTag : rule.evaluateTag = some tag := by simp [DNSRule.evaluateTag, action, untagged]
      have tags : (context.rules.drop state.ruleIndex).filterMap DNSRule.evaluateTag =
          tag :: (context.rules.drop (state.ruleIndex + 1)).filterMap DNSRule.evaluateTag := by
        rw [rest, filterMap_cons, isTag]
      have unique : (tag :: (context.rules.drop (state.ruleIndex + 1)).filterMap DNSRule.evaluateTag).Nodup := by
        rw [← tags]
        exact accepted.unique.sublist ((drop_sublist _ _).filterMap _)
      have unused : state.namedFutures.lookup tag = none := related.ahead tag (by rw [tags]; exact mem_cons_self)
      refine .next (related.launchNamed {
        tag, transport := server, completes := max state.now (context.schedule.completes state.launched), answer := _ }
        untagged rfl unused (nodup_cons.mp unique).1 _) (congrArg (· + 1) index)

theorem respond_simulates (passed : Passed before state)
    (sound : rule.Sound) (ready : Readable state rule.rule) (action : rule.action = .respond) :
    Simulates context before evaluations (respond state rule) (context.actNow before.ruleIndex rule evaluations) := by
  unfold respond actNow respondNow
  simp only [action, ← passed.index, related.options]
  by_cases untagged : rule.rule.matchResponseTag = ""
  · simp only [untagged, ne_eq, not_true_eq_false, if_false]
    cases isAnonymous : state.anonymousFuture with
    | none =>
      have nothing : evaluations.anonymous = none := by
        rw [related.anonymous, anonymousEvaluation, isAnonymous]
        rfl
      simp only [Evaluations.response, nothing]
      exact final_result related passed.index _
    | some index =>
      dsimp only
      split
      case isTrue waits =>
        -- The rule itself binds nothing, so it is its action that waits.
        obtain ⟨-, -, unresolved⟩ := waits
        obtain ⟨future, isFuture, unresolved⟩ := (Option.any_eq_true ..).mp unresolved
        refine .await related passed (passed.unresolved (mem_of_getElem? isFuture) ?_)
        simpa [Future.resolved] using unresolved
      case isFalse proceeds =>
        have resolved : ∀ future ∈ state.anonymousEvaluation, future.resolved state.now := by
          cases bound : rule.rule.hasBindings with
          | true =>
            refine ready.anonymous ?_
            rw [Rule.hasBindings, sound.responds action untagged] at bound
            simpa using bound
          | false =>
            intro future isFuture
            by_contra unresolved
            refine proceeds ⟨related.unarmed, by simp [bound], ?_⟩
            rw [anonymousEvaluation, isAnonymous] at isFuture
            rw [show ((some index).bind fun future => state.futures[future]?) = some future from isFuture]
            simpa using unresolved
        have transport : evaluations.anonymous.map Evaluated.transport = state.futures[index]?.map Future.transport := by
          rw [related.anonymous, anonymousEvaluation, isAnonymous, Option.map_map]
          rfl
        rw [related.response_eq resolved, transport]
        exact final_result related passed.index _
  · simp only [ne_eq, untagged, not_false_eq_true, if_true]
    have binds : rule.rule.matchResponseTag ∈ rule.rule.matchResponseTags := Rule.matchResponseTag_mem untagged
    obtain ⟨responses, transports⟩ := related.tagged_eq ready binds
    rw [responses, transports]
    exact final_result related passed.index _

theorem route_simulates (index : state.ruleIndex = before.ruleIndex)
    {server : String} {routeOptions : RuleActionDNSRouteOptions}
    (action : rule.action = .route server speculative routeOptions) :
    Simulates context before evaluations (context.route state server speculative routeOptions)
      (context.actNow before.ruleIndex rule evaluations) := by
  unfold route actNow
  simp only [action, related.options]
  cases context.router.resolveDNSRoute context.allowFakeIP server routeOptions evaluations.options with
  | none => exact .next related.next (congrArg (· + 1) index)
  | some options =>
    simp only [related.unarmed, related.terminal, ne_eq, not_true_eq_false, if_false]
    rw [final, if_neg (by simpa using related.unarmed), index]
    exact .pending (related.note _) index rfl rfl

theorem act_simulates (accepted : AcceptedRules context.rules)
    (passed : Passed before state) (isRule : context.rules[state.ruleIndex]? = some rule)
    (ready : Readable state rule.rule) :
    Simulates context before evaluations (context.act state rule)
      (context.actNow before.ruleIndex rule evaluations) := by
  unfold act
  split
  case _ routeOptions action =>
    unfold actNow
    simp only [action]
    exact .next (Related.next { related with options := by rw [related.options] }) (congrArg (· + 1) passed.index)
  case _ action => exact evaluate_simulates related accepted passed.index isRule action
  case _ action =>
    exact respond_simulates related passed (accepted.sound rule (mem_of_getElem? isRule)) ready action
  case _ action => exact route_simulates related passed.index action
  case _ rcode method action =>
    unfold actNow
    simp only [action, related.options, passed.index]
    exact final_result related passed.index _
  case _ response action =>
    unfold actNow
    simp only [action, related.options, passed.index]
    exact final_result related passed.index _

end

/-- The turn of a rule that is not disabled. -/
def WalkContext.enabledTurn (context : WalkContext) (position : Nat) (rule : DNSRule) (evaluations : Evaluations) :
    Turn :=
  if context.matchesNow rule evaluations then context.actNow position rule evaluations else .next evaluations

theorem matchAndAct_simulates (related : Related context.rules state evaluations)
    (accepted : AcceptedRules context.rules) (passed : Passed before state)
    (isRule : context.rules[state.ruleIndex]? = some rule) (ready : Readable state rule.rule) :
    Simulates context before evaluations (context.matchAndAct state rule)
      (context.enabledTurn before.ruleIndex rule evaluations) := by
  unfold matchAndAct enabledTurn
  rw [related.ruleMatches_eq context (accepted.sound rule (mem_of_getElem? isRule)) ready]
  split
  · exact act_simulates (related.tick 1) accepted (passed.tick 1) isRule (ready.tick 1)
  · exact .next (related.tick 1).next (congrArg (· + 1) passed.index)

/-! ## One rule -/

/-- No query that the rule binds completes between the settling of the futures and the look
at it; for a rule with `race` all of them have completed before. -/
def Prompt (state : WalkState) (rule : DNSRule) : Prop :=
  ∀ (index future : Nat) (found : Future), (state.bindings rule.rule)[index]? = some future →
    state.futures[future]? = some found →
      (found.tag ≠ "" → found.resolved (state.now + index) → found.settled) ∧
      (rule.race → found.resolved (state.now + index))

theorem Related.ready (related : Related context.rules state evaluations) (prompt : Prompt state rule)
    (resolved : AllResolved state.futures state.now (state.bindings rule.rule)) :
    Readable (state.tick (state.bindings rule.rule).length) rule.rule := by
  constructor
  · intro binds found isFound
    change found ∈ state.anonymousEvaluation at isFound
    obtain ⟨future, isAnonymous, isFound⟩ := bind_eq_some_iff.mp isFound
    have isBound : future ∈ state.bindings rule.rule := by simp [bindings, binds, isAnonymous]
    obtain ⟨index, inside, isBound⟩ := mem_iff_getElem.mp isBound
    refine resolved_mono (Nat.add_le_add_left inside.le _) (resolved ?_ isFound)
    rw [← isBound]
    exact getElem?_eq_getElem inside
  · intro tag isTag found isFound
    obtain ⟨future, isKnown, isFound⟩ := bind_eq_some_iff.mp isFound
    have isBound : future ∈ state.bindings rule.rule :=
      mem_append_left _ (mem_filterMap.mpr ⟨tag, isTag, isKnown⟩)
    obtain ⟨index, isBound⟩ := mem_iff_getElem?.mp isBound
    obtain ⟨named, isNamed, hasTag⟩ := related.pointed tag future isKnown
    cases isFound.symm.trans isNamed
    refine (prompt index future found isBound isFound).1 ?_ (resolved isBound isFound)
    exact hasTag ▸ rule.rule.ne_empty_of_mem_matchResponseTags tag isTag

theorem map_completes_settle (state : WalkState) :
    (settleDNSFutures state).futures.map completes = state.futures.map completes := by
  rw [settleDNSFutures_futures]
  refine ext_getElem? fun index => ?_
  simp [Function.comp_def]

theorem passed_settle (state : WalkState) : Passed state (settleDNSFutures (state.tick 1)) where
  index := rfl
  later := by
    change state.now < state.now + 1 + _
    omega
  completes := map_completes_settle (state.tick 1)

/-- The rule at hand, armed when all futures it binds are resolved. -/
def armedNow (state : WalkState) (rule : DNSRule) : ArmedRule where
  ruleIndex := state.ruleIndex
  rule := rule
  futures := []
  anonymousFuture := if rule.rule.matchResponseAnonymous then state.anonymousFuture else none
  bindsAnonymous := rule.rule.matchResponseAnonymous
  options := state.effectiveOptions

section
variable (related : Related context.rules { state with armedRules := [] } evaluations)
include related

theorem respondArmed_eq (sound : rule.Sound) (ready : Readable state rule.rule) (races : rule.race)
    (action : rule.action = .respond) :
    respondArmed state (armedNow state rule) = respondNow state.ruleIndex rule evaluations := by
  have own : ((armedNow state rule).anonymousFuture <|> state.anonymousFuture) = state.anonymousFuture := by
    unfold armedNow
    cases rule.rule.matchResponseAnonymous <;> cases state.anonymousFuture <;> rfl
  have options : (armedNow state rule).options = evaluations.options := related.options
  unfold respondArmed respondNow
  rw [own, options]
  change (if rule.rule.matchResponseTag ≠ "" then respondResult state.ruleIndex evaluations.options
      (state.namedResponses.lookup rule.rule.matchResponseTag) (state.namedTransports.lookup rule.rule.matchResponseTag)
    else respondResult state.ruleIndex evaluations.options state.anonymousResponse
      (state.anonymousEvaluation.map transport)) = _
  by_cases untagged : rule.rule.matchResponseTag = ""
  · have binds : rule.rule.matchResponseAnonymous := by
      have bound := (rule.race_binds races).1
      rw [Rule.hasBindings, sound.responds action untagged] at bound
      simpa using bound
    have transport : evaluations.anonymous.map Evaluated.transport = state.anonymousEvaluation.map transport := by
      rw [related.anonymous, Option.map_map]
      rfl
    have response : state.anonymousResponse = evaluations.response := related.response_eq (ready.anonymous binds)
    simp [untagged, response, transport]
  · have binds : rule.rule.matchResponseTag ∈ rule.rule.matchResponseTags := Rule.matchResponseTag_mem untagged
    have readable : Readable { state with armedRules := [] } rule.rule := ⟨ready.anonymous, ready.tagged⟩
    obtain ⟨responses, transports⟩ := related.tagged_eq readable binds
    simp only [ne_eq, untagged, not_false_eq_true, if_true]
    exact congrArg₂ _ responses transports

theorem judgeArmed_eq (sound : rule.Sound) (ready : Readable state rule.rule) (races : rule.race) :
    (∃ result, context.judgeArmed state (armedNow state rule) = some (.result result) ∧
        context.enabledTurn state.ruleIndex rule evaluations = .commit result) ∨
      (∃ server options, context.judgeArmed state (armedNow state rule) =
          some (.pending { transport := server, options, rule := some state.ruleIndex }) ∧
        context.enabledTurn state.ruleIndex rule evaluations = .commit
          (queryResult server (some state.ruleIndex) options (context.askNow state.ruleIndex server options))) ∨
      (context.judgeArmed state (armedNow state rule) = none ∧
        context.enabledTurn state.ruleIndex rule evaluations = .next evaluations) := by
  have response : (if (armedNow state rule).bindsAnonymous then
      ((armedNow state rule).anonymousFuture.bind fun future => state.futures[future]?).bind fun future =>
        future.view state.now
      else state.anonymousResponse) = state.anonymousResponse := by
    unfold armedNow
    cases rule.rule.matchResponseAnonymous <;> rfl
  have readable : Readable { state with armedRules := [] } rule.rule := ⟨ready.anonymous, ready.tagged⟩
  have matched : context.ruleMatches state rule state.anonymousResponse = context.matchesNow rule evaluations :=
    related.ruleMatches_eq context sound readable
  have options : (armedNow state rule).options = evaluations.options := related.options
  have isFinal := (rule.race_binds races).2
  unfold judgeArmed enabledTurn actNow
  simp only [response, options]
  change (∃ result, (if context.ruleMatches state rule state.anonymousResponse then _ else none) = _ ∧ _) ∨
    (∃ server options, (if context.ruleMatches state rule state.anonymousResponse then _ else none) = _ ∧ _) ∨
      (if context.ruleMatches state rule state.anonymousResponse then _ else none) = none ∧ _
  rw [matched]
  cases context.matchesNow rule evaluations with
  | false => exact .inr (.inr ⟨rfl, rfl⟩)
  | true =>
    have same : (armedNow state rule).rule = rule := rfl
    rw [same]
    cases action : rule.action with
    | respond =>
      rw [respondArmed_eq related sound ready races action]
      exact .inl ⟨_, rfl, rfl⟩
    | route server speculative routeOptions =>
      dsimp only
      cases context.router.resolveDNSRoute context.allowFakeIP server routeOptions evaluations.options with
      | none => exact .inr (.inr ⟨rfl, rfl⟩)
      | some options => exact .inr (.inl ⟨server, options, rfl, rfl⟩)
    | reject rcode method => exact .inl ⟨_, rfl, rfl⟩
    | predefined response => exact .inl ⟨_, rfl, rfl⟩
    | evaluate => simp [action, DNSRuleAction.isFinal] at isFinal
    | routeOptions => simp [action, DNSRuleAction.isFinal] at isFinal

end

theorem examineRace_simulates (related : Related context.rules state evaluations)
    (index : state.ruleIndex = before.ruleIndex) (sound : rule.Sound) (prompt : Prompt state rule)
    (races : rule.race) (enabled : ∀ now, context.schedule.disabled now state.ruleIndex = false) :
    Simulates context before evaluations (context.examineRace state rule)
      (context.enabledTurn before.ruleIndex rule evaluations) := by
  have resolved : AllResolved state.futures state.now (state.bindings rule.rule) :=
    fun {index future found} isBound isFound => (prompt index future found isBound isFound).2 races
  have none : unresolvedAmong state.futures state.now (state.bindings rule.rule) = [] := unresolvedAmong_eq_nil resolved
  let armed := (armRule state rule).tick 1
  have kept : Related context.rules { armed with armedRules := [] } evaluations := { related with unarmed := rfl }
  have readable := (related.ready prompt resolved).tick 1
  have ready : Readable armed rule.rule := ⟨readable.anonymous, readable.tagged⟩
  have swept : context.sweepArmedDNSRules (armRule state rule) =
      (context.judgeArmed armed (armedNow armed rule)).elim
        (.none, { armed.note (.judged armed.ruleIndex armed.now) with armedRules := [] })
        fun commit => (.some commit, { armed.note (.committed armed.ruleIndex) with armedRules := [] }) := by
    have alone : (armRule state rule).armedRules = [armedNow armed rule] := by
      simp only [armRule, related.unarmed, none]
      rfl
    have isEnabled : context.disabled armed (armedNow armed rule).ruleIndex = false := enabled _
    unfold sweepArmedDNSRules
    rw [alone]
    change (if context.disabled armed (armedNow armed rule).ruleIndex then _ else _) = _
    rw [isEnabled, if_neg Bool.false_ne_true]
    split
    case _ judged =>
      rw [show context.judgeArmed armed (armedNow armed rule) = .none from judged]
      rfl
    case _ judged =>
      rw [show context.judgeArmed armed (armedNow armed rule) = .some _ from judged]
      rfl
  unfold examineRace
  simp only [none, ne_eq, not_true_eq_false, if_false, swept]
  rw [← index]
  rcases judgeArmed_eq kept sound ready races with
    ⟨result, judged, turn⟩ | ⟨server, options, judged, turn⟩ | ⟨judged, turn⟩
  · rw [judged]
    exact turn ▸ .done (kept.note _) index
  · rw [judged]
    have committed := @Simulates.pending context before evaluations
      { transport := server, options, rule := some state.ruleIndex } _
      (kept.note (.committed armed.ruleIndex)) index rfl (congrArg some index)
    rw [← index] at committed
    exact turn ▸ committed
  · rw [judged]
    exact turn ▸ .next (kept.note _).next (congrArg (· + 1) index)

/-- One rule of the walk, where its flag does not change while it is looked at. -/
theorem examine_simulates (related : Related context.rules state evaluations) (accepted : AcceptedRules context.rules)
    (isRule : context.rules[state.ruleIndex]? = some rule) {disabled : Nat → Bool}
    (steady : ∀ now, context.schedule.disabled now = disabled)
    (prompt : disabled state.ruleIndex = false → rule.rule.hasBindings →
      Prompt (settleDNSFutures (state.tick 1)) rule) :
    Simulates context state evaluations (context.examine state rule)
      (context.turn disabled state.ruleIndex rule evaluations) := by
  have flag : context.disabled state state.ruleIndex = disabled state.ruleIndex := by rw [WalkContext.disabled, steady]
  have sound := accepted.sound rule (mem_of_getElem? isRule)
  unfold WalkContext.examine WalkContext.turn
  rw [flag]
  cases isDisabled : disabled state.ruleIndex with
  | true => exact .next (related.tick 1).next rfl
  | false =>
    cases bound : rule.rule.hasBindings with
    | false =>
      have passed : Passed state (state.tick 1) := ⟨rfl, lt_succ_self state.now, rfl⟩
      exact matchAndAct_simulates (related.tick 1) accepted passed isRule (.of_not_hasBindings bound)
    | true =>
      have isPrompt := prompt isDisabled bound
      have settled := (related.tick 1).settle
      have passed := passed_settle state
      simp only [Bool.not_true, Bool.false_eq_true, if_false]
      split
      case isTrue races =>
        have enabled : ∀ now, context.schedule.disabled now state.ruleIndex = false := fun now => by
          rw [steady]
          exact isDisabled
        exact examineRace_simulates settled passed.index sound isPrompt races enabled
      case isFalse =>
        split
        case _ future isFirst =>
          obtain ⟨-, found, isFound, unresolved⟩ := firstUnresolved_eq_some isFirst
          exact .await (settled.tick _) (passed.tick _) (passed.unresolved (mem_of_getElem? isFound) unresolved)
        case _ noneUnresolved =>
          exact matchAndAct_simulates (settled.tick _) accepted (passed.tick _) isRule
            (settled.ready isPrompt (resolved_of_firstUnresolved noneUnresolved))

end Simulation

end SingBox
