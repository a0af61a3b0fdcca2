import SingBox.Dns.Determinism

/-! # Rules that fall through

A rule with `allow_fallthrough` whose query and fallback queries all end badly should leave
no trace: the rules behind it should come to what they come to when it is disabled. The
first time a rule falls through the walk starts afresh, though, with the options of the
query that failed last and without the responses evaluated so far; later it keeps its state.
-/

namespace SingBox

open Lib.Machine List Nat
open WalkContext (Exchange start)

/-- A rule that fell through: what it was entered with, and how its last query ended. -/
structure Fallthrough where
  position : Nat
  evaluations : Evaluations
  result : ExchangeResult

/-- Nothing was evaluated before the rule, and neither its options nor those of its fallback
servers differ from those it was entered with. -/
def Fallthrough.Lossless (fallthrough : Fallthrough) : Prop :=
  fallthrough.evaluations = { options := fallthrough.result.options }

namespace WalkContext

/-- The rules that fall through, in the order in which they do. -/
def fallthroughs (context : WalkContext) (disabled : Nat → Bool) :
    (continued : Bool) → Nat → List DNSRule → Evaluations → List Fallthrough
  | _, _, [], _ => []
  | continued, position, rule :: rules, evaluations =>
    match context.turn disabled position rule evaluations with
    | .next evaluations => fallthroughs context disabled continued (position + 1) rules evaluations
    | .commit result =>
      if (SingBox.fallsThrough context.rules (context.settle result)).isSome then
        { position, evaluations, result := context.settle result } ::
          fallthroughs context disabled true (position + 1) rules
            (carriedOver continued evaluations (context.settle result))
      else []

/-- The same rules, with one of them disabled all the time. -/
def disabling (context : WalkContext) (position : Nat) : WalkContext :=
  { context with schedule := { context.schedule with
      disabled := fun now other => decide (other = position) || context.schedule.disabled now other } }

end WalkContext

/-- The flags with one more rule disabled. -/
def without (position : Nat) (disabled : Nat → Bool) :
    Nat → Bool := fun other => decide (other = position) || disabled other

variable {fallthrough : Fallthrough}

section Interpreter

variable {context : WalkContext} {disabled : Nat → Bool}

open WalkContext

variable {position : Nat} {rules : List DNSRule} {evaluations : Evaluations}

theorem le_position_of_mem {continued : Bool}
    (mem : fallthrough ∈ context.fallthroughs disabled continued position rules evaluations) :
    position ≤ fallthrough.position := by
  induction rules generalizing continued position evaluations with
  | nil => cases mem
  | cons rule rules ih =>
    unfold fallthroughs at mem
    split at mem
    · exact (le_succ _).trans (ih mem)
    · split at mem
      · rcases mem_cons.mp mem with rfl | mem
        · exact le_rfl
        · exact (le_succ _).trans (ih mem)
      · cases mem

theorem sequential_disabling (index : Nat) (continued : Bool) (position : Nat) (rules : List DNSRule)
    (evaluations : Evaluations) :
    (context.disabling index).sequential disabled continued position rules evaluations =
      context.sequential disabled continued position rules evaluations := by
  induction rules generalizing continued position evaluations with
  | nil => rfl
  | cons rule rules ih =>
    have turn : (context.disabling index).turn disabled position rule evaluations =
      context.turn disabled position rule evaluations := rfl
    rw [sequential, sequential, turn]
    cases context.turn disabled position rule evaluations with
    | next evaluations => exact ih ..
    | commit result =>
      dsimp only
      rw [ih]
      rfl

theorem sequential_without_behind {index : Nat} (behind : index < position) (continued : Bool)
    (rules : List DNSRule) (evaluations : Evaluations) :
    context.sequential (without index disabled) continued position rules evaluations =
      context.sequential disabled continued position rules evaluations := by
  induction rules generalizing continued position evaluations with
  | nil => rfl
  | cons rule rules ih =>
    have flag : without index disabled position = disabled position := by
      simp [without, ne_of_gt behind]
    have turn : context.turn (without index disabled) position rule evaluations =
        context.turn disabled position rule evaluations := by
      unfold WalkContext.turn
      rw [flag]
    rw [sequential, sequential, turn]
    cases context.turn disabled position rule evaluations with
    | next evaluations => exact ih (behind.trans (lt_succ_self _)) ..
    | commit result =>
      dsimp only
      rw [ih (behind.trans (lt_succ_self _))]

/-- Whether a rule has fallen through before matters only to the next one that does. -/
theorem sequential_continued
    (lossless : ∀ next ∈ (context.fallthroughs disabled true position rules evaluations).head?, next.Lossless) :
    context.sequential disabled true position rules evaluations =
      context.sequential disabled false position rules evaluations := by
  induction rules generalizing position evaluations with
  | nil => rfl
  | cons rule rules ih =>
    rw [fallthroughs] at lossless
    rw [sequential, sequential]
    cases turn : context.turn disabled position rule evaluations with
    | next evaluations' =>
      rw [turn] at lossless
      exact ih lossless
    | commit result =>
      rw [turn] at lossless
      dsimp only at lossless ⊢
      split
      case isTrue falls =>
        rw [if_pos falls] at lossless
        have same : evaluations = { options := (context.settle result).options } := lossless _ rfl
        have keeps : carriedOver false evaluations (context.settle result) = evaluations := same.symm
        rw [keeps]
        rfl
      case isFalse => rfl

/-- A rule that fell through could as well have been disabled, unless the walk starts
afresh there, or behind it, with something else than what it had come to. -/
theorem sequential_without {continued : Bool} {order : Nat}
    (fell : (context.fallthroughs disabled continued position rules evaluations)[order]? = some fallthrough)
    (lossless : continued = false → order = 0 →
      ∀ next ∈ (context.fallthroughs disabled continued position rules evaluations).take 2, next.Lossless) :
    context.sequential (without fallthrough.position disabled) continued position rules evaluations =
      context.sequential disabled continued position rules evaluations := by
  induction rules generalizing continued position evaluations order with
  | nil => cases fell
  | cons rule rules ih =>
    have reached := le_position_of_mem (mem_of_getElem? fell)
    rw [fallthroughs] at fell lossless
    rw [sequential, sequential]
    rcases reached.lt_or_eq with ahead | here
    · -- The rule is looked at before: its turn is the same on both sides.
      have flag : without fallthrough.position disabled position = disabled position := by
        simp [without, Nat.ne_of_lt ahead]
      have same : context.turn (without fallthrough.position disabled) position rule evaluations =
          context.turn disabled position rule evaluations := by
        unfold WalkContext.turn
        rw [flag]
      rw [same]
      cases turn : context.turn disabled position rule evaluations with
      | next evaluations' =>
        rw [turn] at fell lossless
        exact ih fell lossless
      | commit result =>
        rw [turn] at fell lossless
        dsimp only at fell lossless ⊢
        split
        case isTrue falls =>
          rw [if_pos falls] at fell lossless
          cases order with
          | zero =>
            cases fell
            exact absurd ahead (lt_irrefl position)
          | succ order => exact ih fell (fun fresh => by cases fresh)
        case isFalse => rfl
    · -- The rule itself: disabled, it passes on what it was entered with.
      subst here
      have skipped : context.turn (without fallthrough.position disabled) fallthrough.position rule evaluations =
          .next evaluations := by simp [WalkContext.turn, without]
      rw [skipped]
      dsimp only
      rw [sequential_without_behind (lt_succ_self _)]
      cases turn : context.turn disabled fallthrough.position rule evaluations with
      | next evaluations' =>
        rw [turn] at fell
        exact absurd (le_position_of_mem (mem_of_getElem? fell)) (not_succ_le_self _)
      | commit result =>
        rw [turn] at fell lossless
        dsimp only at fell lossless ⊢
        split
        case isTrue falls =>
          rw [if_pos falls] at fell lossless
          cases order with
          | succ order =>
            exact absurd (le_position_of_mem (mem_of_getElem? fell)) (not_succ_le_self _)
          | zero =>
            cases continued with
            | true => rfl
            | false =>
              have both := lossless rfl rfl
              have same : evaluations = { options := (context.settle result).options } :=
                both { position := fallthrough.position, evaluations, result := context.settle result } (by simp)
              have keeps : carriedOver false evaluations (context.settle result) = evaluations := same.symm
              rw [keeps] at both ⊢
              refine (sequential_continued fun next isNext => both next ?_).symm
              rw [take_succ_cons, take_one]
              exact mem_cons_of_mem _ (Option.mem_toList.mpr isNext)
        case isFalse stays =>
          rw [if_neg stays] at fell
          cases fell

end Interpreter

/-! ## Exchanges -/

/-- An exchange in which a rule falls through has the result of the exchange in which the
rule is disabled, unless the walk starts afresh there, or behind it, with something else
than what it had come to. -/
theorem fallthrough_transparent {lookup : String → Except String RuleSetMetadata} {ruleSets : String → Option RuleSet}
    {rawRules : List Options.DNSRule} {warnings : List String} {context : WalkContext} {disabled : Nat → Bool}
    (validated : validateLegacyDNSModeDisabledRules lookup rawRules = .ok warnings)
    (built : newDNSRules ruleSets 0 rawRules = .ok context.rules)
    (steady : ∀ now, context.schedule.disabled now = disabled) (options : DNSQueryOptions)
    {order : Nat} {fallthrough : Fallthrough}
    (fell : (context.fallthroughs disabled false 0 context.rules { options })[order]? = some fallthrough)
    (undisturbed : Always context.step (context.Undisturbed disabled) (start options))
    (undisturbedWithout : Always (context.disabling fallthrough.position).step
      ((context.disabling fallthrough.position).Undisturbed (without fallthrough.position disabled)) (start options))
    (lossless : order = 0 →
      ∀ next ∈ (context.fallthroughs disabled false 0 context.rules { options }).take 2, next.Lossless) :
    ∃ result, Finishes context result (start options) ∧
      Finishes (context.disabling fallthrough.position) result (start options) := by
  have accepted := acceptedRules_of_validated validated built
  have steadyWithout : ∀ now, (context.disabling fallthrough.position).schedule.disabled now =
      without fallthrough.position disabled := by
    intro now
    change (fun other => _ || context.schedule.disabled now other) = _
    rw [steady]
    rfl
  refine ⟨_, finishes_sequential accepted steady options undisturbed, ?_⟩
  rw [← sequential_without fell fun _ => lossless, ← sequential_disabling fallthrough.position]
  exact @finishes_sequential (context.disabling fallthrough.position) _ accepted steadyWithout options undisturbedWithout

theorem local_unraced : false → (Rule.default {}).hasBindings ∧
    (DNSRuleAction.route "local" false {}).isFinal := by simp

/-- A first rule that fails, and one behind it. -/
def failThenRoute : WalkContext where
  router := {
    exchange := fun query => if query.transport = "broken" then { err := some "timeout" } else { response := some {} } }
  rules := [
    { rule := .default {}, action := .route "broken" false {}, allowFallthrough := true },
    { rule := .default {}, action := .route "local" false {}, race_binds := local_unraced }]

theorem undisturbed_failThenRoute :
    Always failThenRoute.step (failThenRoute.Undisturbed fun _ => false) (start {}) := by
  refine @Always.of_rest _ _ _ _ 6 rfl fun index early => ?_
  match index, early with
  | 0, _ | 3, _ => rintro rule ⟨⟩ - ⟨⟩
  | 1, _ | 4, _ | 6, _ => trivial
  | 2, _ => exact nofun
  | 5, _ => exact fun _ => nofun

theorem undisturbed_failThenRoute_without : Always (failThenRoute.disabling 0).step
    ((failThenRoute.disabling 0).Undisturbed (without 0 fun _ => false)) (start {}) := by
  refine @Always.of_rest _ _ _ _ 4 rfl fun index early => ?_
  match index, early with
  | 0, _ | 1, _ => rintro rule ⟨⟩ - ⟨⟩
  | 2, _ | 4, _ => trivial
  | 3, _ => exact nofun

theorem fallthrough_transparent_failThenRoute :
    ∃ result, Finishes failThenRoute result (start {}) ∧ Finishes (failThenRoute.disabling 0) result (start {}) := by
  let rawRules : List Options.DNSRule := [
    .default { allowFallthrough := true } { action := some (.route "broken" false {}) } [],
    .default {} { action := some (.route "local" false {}) } []]
  refine @fallthrough_transparent (fun _ => .ok {}) (fun _ => none) rawRules [] failThenRoute (fun _ => false) rfl rfl
    (fun _ => rfl) {} 0 { position := 0, evaluations := {}, result := {
      transport := some "broken", rule := some 0, err := some "timeout" } } rfl
    undisturbed_failThenRoute undisturbed_failThenRoute_without ?_
  intro _ next isNext
  cases mem_singleton.mp isNext
  rfl

/-- A response is evaluated, a rule falls through, and the next looks at the response. -/
def askFailRespond : WalkContext where
  router := failThenRoute.router
  rules := [
    { rule := .default {}, action := .evaluate "remote" "a" false {} },
    { rule := .default {}, action := .route "broken" false {}, allowFallthrough := true },
    { rule := .default { matchResponse := true, matchResponseTag := "a" }, action := .respond }]

/-- The response is lost, so that the default server is asked instead. -/
theorem fallthrough_loses_response :
    (∃ fallthrough, (askFailRespond.fallthroughs (fun _ => false) false 0 askFailRespond.rules {})[0]? = some fallthrough ∧
        fallthrough.position = 1) ∧
      ¬∃ result other, Finishes askFailRespond result (start {}) ∧
        Finishes (askFailRespond.disabling 1) other (start {}) ∧ result.response = other.response ∧
        result.transport = other.transport ∧ result.rule = other.rule := by
  refine ⟨⟨_, rfl, rfl⟩, ?_⟩
  rintro ⟨result, other, finishes, finishesWithout, -, -, sameRule⟩
  have lost : Finishes askFailRespond { response := some {}, transport := some "" } (start {}) := ⟨11, rfl⟩
  have kept : Finishes (askFailRespond.disabling 1)
    { response := some {}, transport := some "remote", rule := some 2 } (start {}) := ⟨5, rfl⟩
  rw [finishes.unique lost, finishesWithout.unique kept] at sameRule
  cases sameRule

end SingBox
