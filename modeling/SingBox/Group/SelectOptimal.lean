import Mathlib.Algebra.Group.Nat.Defs
import SingBox.Group.Select
import SingBox.Lib.Hysteresis

/-! # When the selection of a URL test is a best one

The loop of `Select` is the search of `Lib.Hysteresis` over the eligible members, as long as
two things hold of the group. The current selection is eligible, or takes no part in the search;
and no comparison on the way is made with a delay of zero, or overflows.
-/

open List Option

namespace SingBox.URLTestGroup

open Lib

variable {Outbound : Type} [DecidableEq Outbound]

/-! ## The conditions -/

section Conditions

variable (group : URLTestGroup Outbound) (network : Network)

/-- The current selection is eligible, or does not carry the network, or fails and is not among
the members that the loop looks at. -/
def Settled : Prop :=
  ∀ outbound ∈ group.selected network, group.supports network outbound →
    group.Eligible network outbound ∨
      group.memberExcessive network outbound ∧
        ¬(outbound ∈ group.outbounds ∧ (group.loadHistory network outbound).isSome)

/-- The members that the loop does not pass over. -/
def isCandidate (outbound : Outbound) : Bool :=
  group.supports network outbound &&
    !(decide (group.selected network ≠ some outbound) && group.memberExcessive network outbound) &&
      (group.loadHistory network outbound).isSome

/-- The selection that the search starts with. -/
def initial : Option Outbound :=
  (group.selected network).filter fun outbound =>
    decide (outbound ∈ group.outbounds) && group.isCandidate network outbound

/-- What a search without bounds on the numbers finds among the members looked at. -/
def found (members : List Outbound) : Option Outbound :=
  Hysteresis.scan (group.delay network) group.tolerance.toNat (group.initial network)
    (members.filter (group.isCandidate network))

/-- The 16-bit comparison of a delay found with another one is that of the numbers. -/
def Compares (tolerance found delay : Nat) : Prop :=
  0 < found ∧ (delay + tolerance < 2 ^ 16 ∨ found + 2 ^ 16 ≤ delay + tolerance)

/-- The search comes to no eligible member whose delay it compares wrongly with the one found. -/
def Comparable : Prop :=
  ∀ before detour after, group.outbounds = before ++ detour :: after → group.Eligible network detour →
    ∀ current ∈ group.found network before,
      Compares group.tolerance.toNat (group.delay network current) (group.delay network detour)

end Conditions

/-! ## The loop as a search -/

variable {group : URLTestGroup Outbound} {network : Network} {outbound : Outbound} {choice : Choice Outbound}

omit [DecidableEq Outbound] in
theorem delay_eq {delay : UInt16} (isDelay : group.loadHistory network outbound = some delay) :
    group.delay network outbound = delay.toNat := by
  rw [URLTestGroup.delay, isDelay]
  rfl

theorem replaces_eq {minDelay delay tolerance : UInt16}
    (compares : Compares tolerance.toNat minDelay.toNat delay.toNat) :
    (minDelay == 0 || minDelay > delay + tolerance) = decide (minDelay.toNat > delay.toNat + tolerance.toNat) := by
  obtain ⟨positive, fits⟩ := compares
  have notZero : (minDelay == 0) = false := by
    rw [beq_eq_false_iff_ne]
    rintro rfl
    exact absurd positive (by decide)
  have delayBound := delay.toNat_lt
  have toleranceBound := tolerance.toNat_lt
  rw [notZero, Bool.false_or, decide_eq_decide, GT.gt, GT.gt, UInt16.lt_iff_toNat_lt, UInt16.toNat_add]
  omega

/-- The choice of the loop is the one of the search. -/
def Tracks (group : URLTestGroup Outbound) (network : Network) (choice : Choice Outbound) (best : Option Outbound) :
    Prop :=
  choice.minOutbound = best ∧
    match best with
    | none => choice.minDelay = 0
    | some outbound => group.loadHistory network outbound = some choice.minDelay

theorem selectLoop_tracks (disabled : group.fallback.enabled = false) (members : List Outbound) {best : Option Outbound}
    (compares : ∀ before detour after, members = before ++ detour :: after → group.isCandidate network detour →
      ∀ current ∈ Hysteresis.scan (group.delay network) group.tolerance.toNat best
          (before.filter (group.isCandidate network)),
        Compares group.tolerance.toNat (group.delay network current) (group.delay network detour))
    (tracks : Tracks group network choice best) :
    Tracks group network (group.selectLoop network members choice)
      (Hysteresis.scan (group.delay network) group.tolerance.toNat best (members.filter (group.isCandidate network))) := by
  induction members generalizing choice best with
  | nil => exact tracks
  | cons detour rest ih =>
    -- what is said of the rest when the head is passed over, and when it is not
    have passed (isPassed : group.isCandidate network detour = false) :
        Tracks group network (group.selectLoop network rest choice) (Hysteresis.scan (group.delay network)
          group.tolerance.toNat best ((detour :: rest).filter (group.isCandidate network))) := by
      have later := ih (fun before next after isRest => by
        simpa [isPassed] using compares (detour :: before) next after (by rw [isRest, cons_append])) tracks
      rwa [filter_cons_of_neg (by simp [isPassed])]
    rw [selectLoop]
    by_cases supported : group.supports network detour
    · rw [if_neg (by simp [supported])]
      by_cases excluded : group.selected network ≠ some detour ∧ group.memberExcessive network detour
      · rw [if_pos excluded]
        exact passed (by simp [isCandidate, excluded])
      · rw [if_neg excluded]
        cases history : group.loadHistory network detour with
        | none => exact passed (by simp [isCandidate, history])
        | some delay =>
          have candidate : group.isCandidate network detour := by
            rw [isCandidate, supported, history]
            simpa [or_iff_not_imp_left] using excluded
          have taken {choice : Choice Outbound} {next : Option Outbound}
              (isPreferred : Hysteresis.prefer (group.delay network) group.tolerance.toNat best detour = next)
              (tracks : Tracks group network choice next) :
              Tracks group network (group.selectLoop network rest choice) (Hysteresis.scan (group.delay network)
                group.tolerance.toNat best ((detour :: rest).filter (group.isCandidate network))) := by
            have tracked := ih (fun before next after isRest => by
              simpa [candidate, Hysteresis.scan, isPreferred] using
                compares (detour :: before) next after (by rw [isRest, cons_append])) tracks
            rwa [filter_cons_of_pos candidate, Hysteresis.scan, foldl_cons, isPreferred]
          dsimp only
          rw [disabled, Bool.false_and, Bool.false_and, if_neg Bool.false_ne_true, if_neg Bool.false_ne_true]
          obtain ⟨isBest, tracked⟩ := tracks
          cases best with
          | none =>
            have unset : (choice.minDelay == 0) := beq_iff_eq.mpr tracked
            rw [unset, Bool.true_or, if_pos rfl]
            exact taken rfl ⟨rfl, history⟩
          | some current =>
            have here := compares [] detour rest rfl candidate current rfl
            rw [delay_eq tracked, delay_eq history] at here
            rw [replaces_eq here]
            by_cases replaces : choice.minDelay.toNat > delay.toNat + group.tolerance.toNat
            · rw [if_pos (decide_eq_true replaces)]
              refine taken ?_ ⟨rfl, history⟩
              rw [Hysteresis.prefer, delay_eq tracked, delay_eq history, if_pos replaces]
            · rw [if_neg (by simpa using replaces)]
              refine taken ?_ ⟨isBest, tracked⟩
              rw [Hysteresis.prefer, delay_eq tracked, delay_eq history, if_neg replaces]
    · rw [if_pos (by simpa using supported)]
      exact passed (by simp [isCandidate, supported])

/-! ## The search among the eligible members -/

section Settled

variable (settled : group.Settled network)
include settled

theorem isCandidate_iff (isMember : outbound ∈ group.outbounds) :
    group.isCandidate network outbound ↔ group.Eligible network outbound := by
  rw [isCandidate]
  constructor
  · intro candidate
    simp only [Bool.and_eq_true, Bool.not_eq_true', Bool.and_eq_false_iff, decide_eq_false_iff_not, not_not] at candidate
    obtain ⟨⟨supported, notExcluded⟩, tested⟩ := candidate
    rcases notExcluded with isSelected | working
    · exact (settled outbound isSelected supported).resolve_right fun failing => failing.2 ⟨isMember, tested⟩
    · exact ⟨isMember, supported, tested, working⟩
  · rintro ⟨_, supported, tested, working⟩
    simp [supported, tested, working]

theorem mem_candidates :
    outbound ∈ group.outbounds.filter (group.isCandidate network) ↔ group.Eligible network outbound := by
  rw [mem_filter]
  constructor
  · rintro ⟨isMember, candidate⟩
    exact (isCandidate_iff settled isMember).mp candidate
  · exact fun eligible => ⟨eligible.isMember, (isCandidate_iff settled eligible.isMember).mpr eligible⟩

theorem mem_initial :
    outbound ∈ group.initial network ↔ group.selected network = some outbound ∧ group.Eligible network outbound := by
  simp only [initial, mem_def, filter_eq_some_iff, Bool.and_eq_true, decide_eq_true_eq]
  refine and_congr_right fun _ => ⟨?_, fun eligible => ⟨eligible.isMember, ?_⟩⟩
  · rintro ⟨isMember, candidate⟩
    exact (isCandidate_iff settled isMember).mp candidate
  · exact (isCandidate_iff settled eligible.isMember).mpr eligible

/-- The loop of `Select` starts with the selection if that is eligible, and with nothing otherwise. -/
theorem select_of_settled :
    ∃ choice, Tracks group network choice (group.initial network) ∧
      group.Select network = group.concludes network (group.selectLoop network group.outbounds choice) := by
  rw [Select]
  cases isSelected : group.selected network with
  | none =>
    have unset : group.initial network = none := by rw [initial, isSelected]; rfl
    exact ⟨{}, by rw [unset]; exact ⟨rfl, rfl⟩, rfl⟩
  | some current =>
    by_cases usable : (group.supports network current && !group.memberExcessive network current)
    · obtain ⟨supported, working⟩ := Bool.and_eq_true_iff.mp usable
      have eligible : group.Eligible network current :=
        (settled current isSelected supported).resolve_right fun failing => by simp [failing.1] at working
      obtain ⟨delay, isDelay⟩ := isSome_iff_exists.mp eligible.tested
      have starts : group.initial network = some current := (mem_initial settled).mpr ⟨isSelected, eligible⟩
      refine ⟨{ minDelay := delay, minOutbound := some current }, by rw [starts]; exact ⟨rfl, isDelay⟩, ?_⟩
      rw [show Option.filter _ (some current) = some current from filter_some_pos usable]
      dsimp only
      rw [isDelay]
    · rw [Bool.not_eq_true] at usable
      have unset : group.initial network = none := by
        rw [eq_none_iff_forall_not_mem]
        intro outbound isInitial
        obtain ⟨isCurrent, eligible⟩ := (mem_initial settled).mp isInitial
        cases isSelected.symm.trans isCurrent
        simp [eligible.supported, eligible.working] at usable
      refine ⟨{}, by rw [unset]; exact ⟨rfl, rfl⟩, ?_⟩
      rw [show Option.filter _ (some current) = none from filter_some_neg usable]

theorem select_eq_found (disabled : group.fallback.enabled = false) (comparable : group.Comparable network)
    (isFound : group.found network group.outbounds = some outbound) : (group.Select network).1 = some outbound := by
  obtain ⟨choice, tracks, isSelect⟩ := select_of_settled settled
  have tracked := selectLoop_tracks disabled group.outbounds (fun before detour after split candidate =>
    comparable before detour after split ((isCandidate_iff settled (by simp [split])).mp candidate)) tracks
  rw [isSelect, concludes, tracked.1.trans isFound]

end Settled

/-- A group with an eligible member selects as it should if its selection is settled and the
search compares no two delays wrongly. -/
theorem selects_of_comparable (group : URLTestGroup Outbound) (network : Network)
    (disabled : group.fallback.enabled = false)
    (sound : (∃ outbound, group.Eligible network outbound) → group.Settled network ∧ group.Comparable network) :
    group.Selects network := by
  rintro ⟨known, isKnown⟩
  obtain ⟨settled, comparable⟩ := sound ⟨known, isKnown⟩
  have candidates : group.outbounds.filter (group.isCandidate network) ≠ [] :=
    ne_nil_of_mem ((mem_candidates settled).mpr isKnown)
  obtain ⟨result, isResult⟩ := isSome_iff_exists.mp
    (@Hysteresis.scan_isSome _ (group.delay network) group.tolerance.toNat (group.initial network) _ (.inr candidates))
  have isSelect := select_eq_found settled disabled comparable isResult
  constructor
  · refine ⟨result, isSelect, ?_, fun other eligible => ?_⟩
    · rcases Hysteresis.scan_mem isResult with isInitial | isCandidate
      · exact ((mem_initial settled).mp isInitial).2
      · exact (mem_candidates settled).mp isCandidate
    · have within := Hysteresis.scan_within (fun _ _ _ isEarlier => absurd isEarlier not_mem_nil) (fun _ => rfl) isResult
      exact within other ((mem_candidates settled).mpr eligible)
  · intro current isSelected best
    have starts : group.initial network = some current := (mem_initial settled).mpr ⟨isSelected, best.1⟩
    have within : Hysteresis.Within (group.delay network) group.tolerance.toNat current
        (group.outbounds.filter (group.isCandidate network)) :=
      fun other isCandidate => best.2 other ((mem_candidates settled).mp isCandidate)
    have keeps := Hysteresis.scan_keeps within
    rw [starts] at isResult
    rw [isSelect, ← isResult, keeps]

/-- Two members with a tolerance of 50 ms, of which the second one may be selected, beside other tags
with a delay of zero in the storage. -/
def pair (first second : UInt16) (isSelected : Bool) : URLTestGroup Bool where
  outbounds := [false, true]
  networks _ := [.tcp]
  realTag outbound _ := if outbound then "second" else "first"
  selectedOutboundTCP := if isSelected then some true else none
  tolerance := 50
  health := { delay := fun tag => if tag = "first" then some first else if tag = "second" then some second else some 0 }

theorem pair_eligible {first second : UInt16} {isSelected outbound : Bool} :
    (pair first second isSelected).Eligible .tcp outbound := by
  cases isSelected <;> cases outbound <;> exact ⟨by simp [pair], rfl, rfl, rfl⟩

/-- The selected member is given up for one that is faster by more than the tolerance. -/
theorem selects_pair :
    (pair 100 200 true).Selects .tcp ∧ ((pair 100 200 true).Select .tcp).1 = some false := by
  refine ⟨selects_of_comparable (pair 100 200 true) .tcp rfl fun _ => ⟨fun _ _ _ => .inl pair_eligible, ?_⟩, rfl⟩
  intro before detour after split _ current isFound
  rcases before with _ | ⟨first, _ | ⟨second, rest⟩⟩
  · cases split
    cases isFound
    exact ⟨by decide, .inl (by decide)⟩
  · cases split
    cases isFound
    exact ⟨by decide, .inl (by decide)⟩
  · simp [pair] at split

theorem not_selects {first second : UInt16} (isSelect : ((pair first second false).Select .tcp).1 = some true)
    (slower : first.toNat + 50 < second.toNat) : ¬(pair first second false).Selects .tcp := by
  intro selects
  obtain ⟨outbound, isResult, best⟩ := (selects ⟨false, pair_eligible⟩).1
  cases isSelect.symm.trans isResult
  exact absurd (best.2 false pair_eligible) (Nat.not_le.mpr slower)

/-- The second member is selected: with 500 ms after 0 ms, and with 65500 ms after 100 ms. -/
theorem slower_member_selected : ¬(pair 0 500 false).Selects .tcp ∧ ¬(pair 100 65500 false).Selects .tcp :=
  ⟨not_selects rfl (by decide), not_selects rfl (by decide)⟩

end SingBox.URLTestGroup
