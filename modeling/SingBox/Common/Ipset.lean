import SingBox.Common.Netip
import SingBox.Lib.Search

/-! # Address sets as sorted ranges

`common/ipset`: an address set is two lists of ranges, one for IPv4 and one for
IPv6, and membership is a binary search. The search is right because the ranges
are ordered and disjoint; `Set` carries that as a field, `fromRanges` checks it.
-/

namespace SingBox.Ipset

open Lib.Search BitVec List

/-- `Range4` and `Range6`, with the addresses as numbers of the family's width. -/
structure Range (width : Nat) where
  fromAddr : BitVec width
  toAddr : BitVec width
deriving DecidableEq, Repr

namespace Range

variable {width : Nat}

def Holds (range : Range width) (value : BitVec width) : Prop :=
  range.fromAddr ≤ value ∧ value ≤ range.toAddr

instance (range : Range width) (value : BitVec width) : Decidable (range.Holds value) :=
  inferInstanceAs (Decidable (_ ∧ _))

/-- The whole range lies before the other one. -/
def Before (first second : Range width) : Prop := first.toAddr < second.fromAddr

end Range

/-- Well-formed ranges, each before the next. -/
structure Ordered {width : Nat} (ranges : List (Range width)) : Prop where
  wellFormed : ∀ range ∈ ranges, range.fromAddr ≤ range.toAddr
  sorted : ranges.Pairwise Range.Before

/-- `ipset.Set`. The owner of memory-mapped ranges (`storage`) is left out. -/
structure Set where
  ranges4 : List (Range 32)
  ranges6 : List (Range 128)
  ordered4 : Ordered ranges4
  ordered6 : Ordered ranges6

/-- 10.0.0.0/8. -/
def tenNet : Set where
  ranges4 := [⟨0x0a000000, 0x0affffff⟩]
  ranges6 := []
  ordered4 := ⟨by decide, by simp⟩
  ordered6 := ⟨by simp, by simp⟩

/-! ## Comparison -/

/-- Two 16-byte addresses, compared as two big-endian 64-bit words. -/
def compare16 (a b : BitVec 128) : Ordering :=
  let aHigh := a.extractLsb' 64 64
  let bHigh := b.extractLsb' 64 64
  if aHigh ≠ bHigh then
    if aHigh < bHigh then .lt else .gt
  else
    let aLow := a.extractLsb' 0 64
    let bLow := b.extractLsb' 0 64
    if aLow ≠ bLow then if aLow < bLow then .lt else .gt else .eq

def compare4 (a b : BitVec 32) : Ordering := if a < b then .lt else if b < a then .gt else .eq

/-- Where a range lies relative to the address looked for. -/
def compareRange {width : Nat} (compare : BitVec width → BitVec width → Ordering) (target : BitVec width)
    (range : Range width) : Ordering :=
  if compare range.fromAddr target = .gt then .gt
  else if compare range.toAddr target = .lt then .lt
  else .eq

/-- A comparison of addresses that is the order of their numbers. -/
structure Faithful {width : Nat} (compare : BitVec width → BitVec width → Ordering) : Prop where
  lt_iff : ∀ a b, compare a b = .lt ↔ a < b
  gt_iff : ∀ a b, compare a b = .gt ↔ b < a

theorem compare4_faithful : Faithful compare4 := by
  constructor
  all_goals
    intro a b
    simp only [compare4, lt_def]
    grind

theorem extract_high_low (a : BitVec 128) :
    a.toNat = (a.extractLsb' 64 64).toNat * 2 ^ 64 + (a.extractLsb' 0 64).toNat := by
  simp only [extractLsb'_toNat, Nat.shiftRight_eq_div_pow]
  omega

theorem compare16_faithful : Faithful compare16 := by
  constructor <;> intro a b
  all_goals
    have aWords := extract_high_low a
    have bWords := extract_high_low b
    have aLow := (a.extractLsb' 0 64).isLt
    have bLow := (b.extractLsb' 0 64).isLt
    simp only [compare16, lt_def, ne_eq, ← toNat_inj]
    generalize (a.extractLsb' 64 64).toNat = aHigh at *
    generalize (b.extractLsb' 64 64).toNat = bHigh at *
    generalize (a.extractLsb' 0 64).toNat = aRest at *
    generalize (b.extractLsb' 0 64).toNat = bRest at *
    split <;> split <;> (try split) <;> simp <;> omega

/-! ## Membership -/

def contains4 (ranges : List (Range 32)) (value : BitVec 32) : Bool :=
  (binarySearchFunc ranges (compareRange compare4 value)).2

def contains6 (ranges : List (Range 128)) (value : BitVec 128) : Bool :=
  (binarySearchFunc ranges (compareRange compare16 value)).2

variable (set : Set)

/-- An invalid address is not an IPv4 one, and its sixteen bytes are zero. -/
def Set.contains : Option Addr → Bool
  | some (.v4 value) => contains4 set.ranges4 value
  | some (.v6 value) => contains6 set.ranges6 value
  | none => contains6 set.ranges6 0

/-- The addresses of a set, without the search. -/
def Set.Holds : Option Addr → Prop
  | some (.v4 value) => ∃ range ∈ set.ranges4, range.Holds value
  | some (.v6 value) => ∃ range ∈ set.ranges6, range.Holds value
  | none => ∃ range ∈ set.ranges6, range.Holds 0

section Search

variable {width : Nat} {compare : BitVec width → BitVec width → Ordering}

section
variable (faithful : Faithful compare)
include faithful

theorem compareRange_eq_iff (target : BitVec width) (range : Range width) :
    compareRange compare target range = .eq ↔ range.Holds target := by
  simp only [compareRange, Range.Holds, faithful.gt_iff, faithful.lt_iff, lt_def, le_def]
  split
  · simp only [reduceCtorEq, false_iff]; omega
  · split
    · simp only [reduceCtorEq, false_iff]; omega
    · simp only [true_iff]; omega

variable {target : BitVec width} {range : Range width} {ranges : List (Range width)}

theorem compareRange_lt_iff (wellFormed : range.fromAddr ≤ range.toAddr) :
    compareRange compare target range = .lt ↔ range.toAddr < target := by
  simp only [compareRange, faithful.gt_iff, faithful.lt_iff, lt_def, le_def] at *
  split
  · simp only [reduceCtorEq, false_iff]; omega
  · split <;> simp_all

theorem compareRange_gt_iff : compareRange compare target range = .gt ↔ target < range.fromAddr := by
  simp only [compareRange, faithful.gt_iff]
  split
  · simp_all
  · split <;> simp_all

theorem Ordered.sorted_compareRange (ordered : Ordered ranges) (target : BitVec width) :
    Sorted (compareRange compare target) ranges := by
  refine ordered.sorted.imp_of_mem ?_
  intro first second firstMember secondMember before
  have firstWell := ordered.wellFormed first firstMember
  have secondWell := ordered.wellFormed second secondMember
  rw [compareRange_lt_iff faithful firstWell, compareRange_lt_iff faithful secondWell,
    compareRange_gt_iff faithful, compareRange_gt_iff faithful]
  simp only [Range.Before, lt_def, le_def] at *
  omega

theorem binarySearch_holds (ordered : Ordered ranges) (target : BitVec width) :
    (binarySearchFunc ranges (compareRange compare target)).2 ↔ ∃ range ∈ ranges, range.Holds target := by
  rw [binarySearchFunc_found (ordered.sorted_compareRange faithful target)]
  simp [compareRange_eq_iff faithful]

end

end Search

theorem Set.contains_holds (addr : Option Addr) : set.contains addr ↔ set.Holds addr := by
  cases addr with
  | none => exact binarySearch_holds compare16_faithful set.ordered6 0
  | some addr =>
    cases addr with
    | v4 value => exact binarySearch_holds compare4_faithful set.ordered4 value
    | v6 value => exact binarySearch_holds compare16_faithful set.ordered6 value

/-! ## Construction -/

/-- The loop of `FromRanges` over one family, from position `index` on; `previous`
is the end of the range before. -/
def checkRanges {width : Nat} (compare : BitVec width → BitVec width → Ordering) :
    Nat → Option (BitVec width) → List (Range width) → Except String Unit
  | _, _, [] => .ok ()
  | index, previous, range :: ranges =>
    if compare range.fromAddr range.toAddr = .gt then .error s!"ipset: malformed range {index}"
    else if previous.any fun stop => compare stop range.fromAddr ≠ .lt then
      .error s!"ipset: unordered range {index}"
    else checkRanges compare (index + 1) (some range.toAddr) ranges

section
variable {width : Nat} {compare : BitVec width → BitVec width → Ordering} (faithful : Faithful compare) (index : Nat)
  (previous : Option (BitVec width))
include faithful

theorem checkRanges_ordered (ranges : List (Range width)) (accepted : checkRanges compare index previous ranges = .ok ()) :
    Ordered ranges ∧ ∀ stop, previous = some stop → ∀ range ∈ ranges, stop < range.fromAddr := by
  induction ranges generalizing index previous with
  | nil => exact ⟨⟨by simp, .nil⟩, by simp⟩
  | cons range ranges ih =>
    simp only [checkRanges, faithful.gt_iff] at accepted
    split at accepted
    · contradiction
    next wellFormed =>
      split at accepted
      · contradiction
      next unordered =>
        obtain ⟨tailOrdered, after⟩ := ih _ _ accepted
        have rangeWell : range.fromAddr ≤ range.toAddr := by
          simp only [lt_def, le_def] at *; omega
        refine ⟨⟨?_, pairwise_cons.mpr ⟨after _ rfl, tailOrdered.sorted⟩⟩, ?_⟩
        · intro other mem
          rcases mem_cons.mp mem with rfl | mem
          · exact rangeWell
          · exact tailOrdered.wellFormed other mem
        · rintro stop rfl other mem
          have first : stop < range.fromAddr := by simpa [faithful.lt_iff] using unordered
          rcases mem_cons.mp mem with rfl | mem
          · exact first
          · have := after _ rfl other mem
            simp only [lt_def, le_def] at *
            omega

theorem checkRanges_of_ordered {ranges : List (Range width)} (ordered : Ordered ranges)
    (after : ∀ stop, previous = some stop → ∀ range ∈ ranges, stop < range.fromAddr) :
    checkRanges compare index previous ranges = .ok () := by
  induction ranges generalizing index previous with
  | nil => rfl
  | cons range ranges ih =>
    obtain ⟨before, sorted⟩ := pairwise_cons.mp ordered.sorted
    have wellFormed := ordered.wellFormed range (by simp)
    rw [checkRanges, if_neg, if_neg]
    · refine ih _ _ ⟨fun other isMember => ordered.wellFormed other (by simp [isMember]), sorted⟩ ?_
      intro stop isStop other isMember
      cases isStop
      exact before other isMember
    · cases previous with
      | none => simp
      | some stop => simpa [faithful.lt_iff] using after stop rfl range (by simp)
    · rw [faithful.gt_iff, lt_def, Nat.not_lt]
      exact wellFormed

end

def fromRanges (ranges4 : List (Range 32)) (ranges6 : List (Range 128)) : Except String Set :=
  match accepted4 : checkRanges compare4 0 none ranges4 with
  | .error message => .error message
  | .ok () =>
    match accepted6 : checkRanges compare16 0 none ranges6 with
    | .error message => .error message
    | .ok () =>
      .ok ⟨ranges4, ranges6, (checkRanges_ordered compare4_faithful 0 none ranges4 accepted4).1,
        (checkRanges_ordered compare16_faithful 0 none ranges6 accepted6).1⟩

theorem fromRanges_ranges : fromRanges set.ranges4 set.ranges6 = .ok set := by
  have accepted4 := checkRanges_of_ordered compare4_faithful 0 none set.ordered4 (by simp)
  have accepted6 := checkRanges_of_ordered compare16_faithful 0 none set.ordered6 (by simp)
  unfold fromRanges
  split
  · simp_all
  · split
    · simp_all
    · rfl

end SingBox.Ipset
