import SingBox.Lib.Guard
import SingBox.Lib.Lpm

/-! # The UID policy

`compileUIDPolicy` of `common/ebpf/policy.go`. The configured ranges of UIDs become
the keys of a trie: the excluded ranges, or, when UIDs that are not included are
bypassed, the included ranges without the excluded ones. A range is cut into aligned
blocks, one key each. `compileUIDPolicy_bypassed` says that looking a UID up in the
trie is scanning the ranges.
-/

open List Nat

namespace SingBox.Ebpf

open Lib.Lpm Lib.Guard

structure UIDRange where
  start : UInt32
  stop : UInt32
deriving DecidableEq, Repr

namespace UIDRange

variable (range : UIDRange)

def Holds (uid : UInt32) : Prop := range.start ≤ uid ∧ uid ≤ range.stop

instance (range : UIDRange) (uid : UInt32) : Decidable (range.Holds uid) := inferInstanceAs (Decidable (_ ∧ _))

/-- What `compileUIDPolicy` checks of each range. -/
def WellFormed : Prop := range.start ≤ range.stop

instance (range : UIDRange) : Decidable range.WellFormed := inferInstanceAs (Decidable (_ ≤ _))

theorem holds_iff {range : UIDRange} {uid : UInt32} :
    range.Holds uid ↔ range.start.toNat ≤ uid.toNat ∧ uid.toNat ≤ range.stop.toNat := Iff.rfl

theorem wellFormed_iff {range : UIDRange} : range.WellFormed ↔ range.start.toNat ≤ range.stop.toNat := Iff.rfl

end UIDRange

def containsUID (ranges : List UIDRange) (uid : UInt32) : Bool := ranges.any fun range => decide (range.Holds uid)

variable {excluded : List UIDRange}

section Ranges

variable {ranges rest : List UIDRange} {uid : UInt32} {range last current : UIDRange} {start stop : Nat}

theorem containsUID_iff : containsUID ranges uid ↔ ∃ range ∈ ranges, range.Holds uid := by
  simp [containsUID]

theorem containsUID_append {first second : List UIDRange} :
    containsUID (first ++ second) uid = (containsUID first uid || containsUID second uid) := by
  simp [containsUID]

@[simp] theorem containsUID_nil (uid : UInt32) : containsUID [] uid = false := rfl

theorem containsUID_cons :
    containsUID (range :: ranges) uid ↔ range.Holds uid ∨ containsUID ranges uid := by
  simp [containsUID]

structure LocalUIDPolicy where
  includeUIDConfigured : Bool := false
  includeUID : List UIDRange := []
  excludeUID : List UIDRange := []
deriving DecidableEq, Repr

/-! ## Merging ranges -/

/-- The order of `sort.Slice` in `normalizeUIDRanges`. -/
def UIDRange.Le (first second : UIDRange) : Prop :=
  first.start < second.start ∨ first.start = second.start ∧ first.stop ≤ second.stop

instance (first second : UIDRange) : Decidable (first.Le second) := inferInstanceAs (Decidable (_ ∨ _))

/-- The loop of `normalizeUIDRanges`, with the last merged range in hand. -/
def mergeUIDRanges (last : UIDRange) : List UIDRange → List UIDRange
  | [] => [last]
  | current :: rest =>
    if current.start ≤ last.stop ∨ (last.stop ≠ ~~~(0 : UInt32) ∧ current.start = last.stop + 1) then
      mergeUIDRanges (if last.stop < current.stop then { last with stop := current.stop } else last) rest
    else last :: mergeUIDRanges current rest

def normalizeUIDRanges (ranges : List UIDRange) : List UIDRange :=
  match ranges.insertionSort UIDRange.Le with
  | [] => []
  | first :: rest => mergeUIDRanges first rest

/-- Well-formed ranges, each with a gap before the next. -/
structure Separated (ranges : List UIDRange) : Prop where
  wellFormed : ∀ range ∈ ranges, range.WellFormed
  sorted : ranges.Pairwise fun first second => first.stop < second.start

theorem Separated.tail (separated : Separated (range :: ranges)) : Separated ranges :=
  ⟨fun other isMember => separated.wellFormed other (by simp [isMember]), separated.sorted.tail⟩

theorem Separated.later (separated : Separated (range :: ranges)) :
    ∀ other ∈ ranges, range.start.toNat < other.start.toNat ∧ range.stop.toNat < other.stop.toNat := by
  intro other isMember
  have gap := UInt32.lt_iff_toNat_lt.mp ((pairwise_cons.mp separated.sorted).1 other isMember)
  have wellFormed := UIDRange.wellFormed_iff.mp (separated.wellFormed range (by simp))
  have otherWell := UIDRange.wellFormed_iff.mp (separated.wellFormed other (by simp [isMember]))
  omega

/-- The condition of the merge, on numbers: the ranges touch. -/
theorem touches_iff :
    (current.start ≤ last.stop ∨ (last.stop ≠ ~~~(0 : UInt32) ∧ current.start = last.stop + 1)) ↔
      current.start.toNat ≤ last.stop.toNat + 1 := by
  have bound := last.stop.toNat_lt
  have startBound := current.start.toNat_lt
  have ones : (~~~(0 : UInt32)).toNat = 2 ^ 32 - 1 := by decide
  rw [UInt32.le_iff_toNat_le, ne_eq, ← UInt32.toNat_inj, ← UInt32.toNat_inj, ones]
  by_cases last.stop.toNat = 2 ^ 32 - 1
  · omega
  · have next : (last.stop + 1).toNat = last.stop.toNat + 1 := by
      rw [UInt32.toNat_add]
      simp only [UInt32.toNat_ofNat]
      omega
    omega

/-- What is left to merge: well formed, starting no earlier than the range in hand. -/
structure Mergeable (last : UIDRange) (rest : List UIDRange) : Prop where
  lastWellFormed : last.WellFormed
  wellFormed : ∀ range ∈ rest, range.WellFormed
  after : ∀ range ∈ rest, last.start.toNat ≤ range.start.toNat
  sorted : rest.Pairwise fun first second => first.start.toNat ≤ second.start.toNat

theorem Mergeable.next (mergeable : Mergeable last (current :: rest)) : Mergeable current rest where
  lastWellFormed := mergeable.wellFormed current (by simp)
  wellFormed := fun range isMember => mergeable.wellFormed range (by simp [isMember])
  after := (pairwise_cons.mp mergeable.sorted).1
  sorted := (pairwise_cons.mp mergeable.sorted).2

theorem Mergeable.extend (mergeable : Mergeable last (current :: rest)) :
    Mergeable (if last.stop < current.stop then { last with stop := current.stop } else last) rest where
  lastWellFormed := by
    split
    · rename_i larger
      exact UInt32.le_trans mergeable.lastWellFormed (UInt32.le_of_lt larger)
    · exact mergeable.lastWellFormed
  wellFormed := fun range isMember => mergeable.wellFormed range (by simp [isMember])
  after := fun range isMember => by
    have := mergeable.after range (by simp [isMember])
    split <;> exact this
  sorted := (pairwise_cons.mp mergeable.sorted).2

theorem holds_extend
    (after : last.start.toNat ≤ current.start.toNat) (touches : current.start.toNat ≤ last.stop.toNat + 1) :
    (if last.stop < current.stop then { last with stop := current.stop } else last).Holds uid ↔
      last.Holds uid ∨ current.Holds uid := by
  simp only [UInt32.lt_iff_toNat_lt]
  split <;> simp only [UIDRange.holds_iff] <;> omega

section
variable (mergeable : Mergeable last rest)
include mergeable

theorem containsUID_mergeUIDRanges : containsUID (mergeUIDRanges last rest) uid = containsUID (last :: rest) uid := by
  induction rest generalizing last with
  | nil => rfl
  | cons current rest ih =>
    rw [mergeUIDRanges]
    split
    · rename_i touches
      rw [touches_iff] at touches
      rw [ih mergeable.extend, Bool.eq_iff_iff]
      simp [containsUID_cons, or_assoc, holds_extend (mergeable.after current (by simp)) touches]
    · rw [Bool.eq_iff_iff, containsUID_cons, containsUID_cons, ih mergeable.next]

theorem mergeUIDRanges_after : ∀ range ∈ mergeUIDRanges last rest, last.start.toNat ≤ range.start.toNat := by
  induction rest generalizing last with
  | nil => simp [mergeUIDRanges]
  | cons current rest ih =>
    rw [mergeUIDRanges]
    split
    · intro range isMember
      have := ih mergeable.extend range isMember
      split at this <;> exact this
    · intro range isMember
      rcases mem_cons.mp isMember with rfl | isMember
      · exact le_refl _
      · exact (mergeable.after current (by simp)).trans (ih mergeable.next range isMember)

theorem mergeUIDRanges_separated : Separated (mergeUIDRanges last rest) := by
  induction rest generalizing last with
  | nil => exact ⟨by simpa [mergeUIDRanges] using mergeable.lastWellFormed, pairwise_singleton _ _⟩
  | cons current rest ih =>
    rw [mergeUIDRanges]
    split
    · exact ih mergeable.extend
    · rename_i apart
      rw [touches_iff] at apart
      have separated := ih mergeable.next
      refine ⟨forall_mem_cons.mpr ⟨mergeable.lastWellFormed, separated.wellFormed⟩,
        pairwise_cons.mpr ⟨fun range isMember => ?_, separated.sorted⟩⟩
      have := mergeUIDRanges_after mergeable.next range isMember
      rw [UInt32.lt_iff_toNat_lt]
      omega

end

instance : Std.Total UIDRange.Le where
  total first second := by
    simp only [UIDRange.Le, UInt32.lt_iff_toNat_lt, UInt32.le_iff_toNat_le, ← UInt32.toNat_inj]
    omega

instance : IsTrans UIDRange UIDRange.Le where
  trans first second third := by
    simp only [UIDRange.Le, UInt32.lt_iff_toNat_lt, UInt32.le_iff_toNat_le, ← UInt32.toNat_inj]
    omega

theorem containsUID_sort : containsUID (ranges.insertionSort UIDRange.Le) uid = containsUID ranges uid := by
  rw [Bool.eq_iff_iff, containsUID_iff, containsUID_iff]
  simp

section
variable (wellFormed : ∀ range ∈ ranges, range.WellFormed)
include wellFormed

theorem sort_mergeable {first : UIDRange}
    (sorts : ranges.insertionSort UIDRange.Le = first :: rest) : Mergeable first rest := by
  have sorted := pairwise_insertionSort UIDRange.Le ranges
  have allWell : ∀ range ∈ first :: rest, range.WellFormed := by
    intro range isMember
    rw [← sorts] at isMember
    exact wellFormed range ((mem_insertionSort _).mp isMember)
  have start_le {a b : UIDRange} (le : a.Le b) : a.start.toNat ≤ b.start.toNat := by
    simp only [UIDRange.Le, UInt32.lt_iff_toNat_lt, ← UInt32.toNat_inj] at le
    omega
  rw [sorts, pairwise_cons] at sorted
  exact ⟨allWell first (by simp), fun range isMember => allWell range (by simp [isMember]),
    fun range isMember => start_le (sorted.1 range isMember), sorted.2.imp start_le⟩

theorem containsUID_normalizeUIDRanges : containsUID (normalizeUIDRanges ranges) uid = containsUID ranges uid := by
  rw [← @containsUID_sort ranges, normalizeUIDRanges]
  split
  · rename_i sorts
    rw [sorts]
  · rename_i sorts
    rw [sorts, containsUID_mergeUIDRanges (sort_mergeable wellFormed sorts)]

theorem normalizeUIDRanges_separated : Separated (normalizeUIDRanges ranges) := by
  rw [normalizeUIDRanges]
  split
  · exact ⟨by simp, .nil⟩
  · rename_i sorts
    exact mergeUIDRanges_separated (sort_mergeable wellFormed sorts)

end

/-! ## Subtracting ranges -/

def uidRange (start stop : Nat) : UIDRange := ⟨UInt32.ofNat start, UInt32.ofNat stop⟩

/-- The last statement of a round of `subtractUIDRanges`: what is left of the range. -/
def leftover (start stop : Nat) : List UIDRange := if start ≤ stop then [uidRange start stop] else []

/-- The inner loop of `subtractUIDRanges`, over the excluded ranges from `index` on. -/
def cutUIDRange (start stop : Nat) : List UIDRange → List UIDRange
  | [] => leftover start stop
  | excluded :: rest =>
    if stop < excluded.start.toNat then leftover start stop
    else
      (if start < excluded.start.toNat then [uidRange start (excluded.start.toNat - 1)] else []) ++
        -- `start = end + 1` leaves nothing over
        if stop ≤ excluded.stop.toNat then [] else cutUIDRange (excluded.stop.toNat + 1) stop rest

/-- The outer loop. The excluded ranges that end before this range are skipped for good. -/
def subtractNormalized (excluded : List UIDRange) : List UIDRange → List UIDRange
  | [] => []
  | included :: rest =>
    let remaining := excluded.dropWhile fun range => range.stop.toNat < included.start.toNat
    cutUIDRange included.start.toNat included.stop.toNat remaining ++ subtractNormalized remaining rest

def subtractUIDRanges (includeRanges excludeRanges : List UIDRange) : List UIDRange :=
  subtractNormalized (normalizeUIDRanges excludeRanges) (normalizeUIDRanges includeRanges)

theorem holds_uidRange (ordered : start ≤ stop) (bound : stop < 2 ^ 32) :
    (uidRange start stop).Holds uid ↔ start ≤ uid.toNat ∧ uid.toNat ≤ stop := by
  have startNat : (UInt32.ofNat start).toNat = start := UInt32.toNat_ofNat_of_lt (by rw [UInt32.size]; omega)
  have stopNat : (UInt32.ofNat stop).toNat = stop := UInt32.toNat_ofNat_of_lt (by rw [UInt32.size]; omega)
  rw [UIDRange.holds_iff, uidRange, startNat, stopNat]

theorem containsUID_leftover (bound : stop < 2 ^ 32) :
    containsUID (leftover start stop) uid ↔ start ≤ uid.toNat ∧ uid.toNat ≤ stop := by
  rw [leftover]
  split
  · rename_i ordered
    rw [containsUID_cons, holds_uidRange ordered bound]
    simp
  · simp only [containsUID_nil, Bool.false_eq_true, false_iff]
    omega

theorem Separated.not_holds_of_lt (separated : Separated (range :: ranges))
    (below : uid.toNat < range.start.toNat) : containsUID (range :: ranges) uid = false := by
  rw [Bool.eq_false_iff, Ne, containsUID_cons, containsUID_iff]
  rintro (holds | ⟨other, isMember, holds⟩)
  · rw [UIDRange.holds_iff] at holds
    omega
  · have later := separated.later other isMember
    rw [UIDRange.holds_iff] at holds
    omega

/-- The loop keeps that the next excluded range does not end before `start`. -/
theorem containsUID_cutUIDRange (bound : stop < 2 ^ 32)
    (separated : Separated excluded) (ahead : ∀ range ∈ excluded, start ≤ range.stop.toNat) :
    containsUID (cutUIDRange start stop excluded) uid ↔
      (start ≤ uid.toNat ∧ uid.toNat ≤ stop) ∧ containsUID excluded uid = false := by
  induction excluded generalizing start with
  | nil => simp [cutUIDRange, containsUID_leftover bound]
  | cons range rest ih =>
    have wellFormed := separated.wellFormed range (by simp)
    have startBefore := ahead range (by simp)
    rw [cutUIDRange]
    split
    · rename_i beyond
      rw [containsUID_leftover bound, iff_self_and]
      rintro ⟨-, upper⟩
      exact separated.not_holds_of_lt (by omega)
    · rename_i reached
      -- the piece before the excluded range
      have piece : containsUID (if start < range.start.toNat then [uidRange start (range.start.toNat - 1)] else []) uid =
          true ↔ start ≤ uid.toNat ∧ uid.toNat < range.start.toNat := by
        split
        · rename_i gap
          rw [containsUID_cons, holds_uidRange (by omega) (by omega)]
          simp only [containsUID_nil, Bool.false_eq_true, or_false]
          omega
        · simp only [containsUID_nil, Bool.false_eq_true, false_iff]
          omega
      -- what is behind it
      have behind : containsUID (if stop ≤ range.stop.toNat then [] else cutUIDRange (range.stop.toNat + 1) stop rest) uid =
          true ↔ (range.stop.toNat < uid.toNat ∧ uid.toNat ≤ stop) ∧ containsUID rest uid = false := by
        split
        · simp only [containsUID_nil, Bool.false_eq_true, false_iff]
          omega
        · exact ih separated.tail fun other isMember => (separated.later other isMember).2
      rw [containsUID_append, Bool.or_eq_true, piece, behind]
      by_cases below : uid.toNat < range.start.toNat
      · simp only [separated.not_holds_of_lt below, and_true]
        omega
      · have behindRange : range.Holds uid ↔ ¬ range.stop.toNat < uid.toNat := by
          rw [UIDRange.holds_iff]
          omega
        have fromStart : range.stop.toNat < uid.toNat → start ≤ uid.toNat := by omega
        rw [Bool.eq_false_iff (b := containsUID (range :: rest) uid), Ne, containsUID_cons, behindRange, not_or, not_not,
          Bool.not_eq_true]
        tauto

theorem separated_dropWhile (separated : Separated ranges) (skip : UIDRange → Bool) :
    Separated (ranges.dropWhile skip) :=
  ⟨fun range isMember => separated.wellFormed range ((dropWhile_sublist skip).mem isMember),
    separated.sorted.sublist (dropWhile_sublist skip)⟩

/-- No range that stays ends before `start`, since the first of them does not. -/
theorem dropWhile_ahead (separated : Separated ranges) (start : Nat) :
    ∀ range ∈ ranges.dropWhile fun range => range.stop.toNat < start, start ≤ range.stop.toNat := by
  induction ranges with
  | nil => simp
  | cons first rest ih =>
    rw [dropWhile_cons]
    split
    · exact ih separated.tail
    · rename_i stays
      rw [decide_eq_true_eq, not_lt] at stays
      exact forall_mem_cons.mpr ⟨stays, fun range isMember => stays.trans (separated.later range isMember).2.le⟩

theorem containsUID_dropWhile (from_start : start ≤ uid.toNat) :
    containsUID (ranges.dropWhile fun range => range.stop.toNat < start) uid = containsUID ranges uid := by
  induction ranges with
  | nil => rfl
  | cons first rest ih =>
    rw [dropWhile_cons]
    split
    · rename_i skipped
      rw [decide_eq_true_eq] at skipped
      rw [ih, Bool.eq_iff_iff, containsUID_cons, UIDRange.holds_iff]
      constructor
      · exact Or.inr
      · rintro (holds | holds)
        · omega
        · exact holds
    · rfl

theorem containsUID_subtractNormalized {included : List UIDRange}
    (includedSeparated : Separated included) (excludedSeparated : Separated excluded) :
    containsUID (subtractNormalized excluded included) uid =
      (containsUID included uid && !containsUID excluded uid) := by
  induction included generalizing excluded with
  | nil => rfl
  | cons range rest ih =>
    have remainingSeparated := separated_dropWhile excludedSeparated fun other => other.stop.toNat < range.start.toNat
    have bound := range.stop.toNat_lt
    rw [subtractNormalized, containsUID_append, Bool.eq_iff_iff, Bool.or_eq_true,
      ih includedSeparated.tail remainingSeparated,
      containsUID_cutUIDRange bound remainingSeparated (dropWhile_ahead excludedSeparated _)]
    simp only [Bool.and_eq_true, Bool.not_eq_eq_eq_not, Bool.not_true, containsUID_cons, ← UIDRange.holds_iff]
    -- a UID of this range or of a later one is not below the start of this one
    by_cases below : uid.toNat < range.start.toNat
    · have outside := includedSeparated.not_holds_of_lt below
      rw [Bool.eq_false_iff, Ne, containsUID_cons, not_or, Bool.not_eq_true] at outside
      simp [outside.1, outside.2]
    · rw [containsUID_dropWhile (Nat.le_of_not_lt below)]
      tauto

theorem containsUID_subtractUIDRanges {includeRanges excludeRanges : List UIDRange}
    (includeWell : ∀ range ∈ includeRanges, range.WellFormed)
    (excludeWell : ∀ range ∈ excludeRanges, range.WellFormed) :
    containsUID (subtractUIDRanges includeRanges excludeRanges) uid =
      (containsUID includeRanges uid && !containsUID excludeRanges uid) := by
  rw [subtractUIDRanges, containsUID_subtractNormalized (normalizeUIDRanges_separated includeWell)
    (normalizeUIDRanges_separated excludeWell), containsUID_normalizeUIDRanges includeWell,
    containsUID_normalizeUIDRanges excludeWell]

/-! ## Cutting ranges into keys -/

/-- `bits.TrailingZeros64`: 64 for zero. -/
def trailingZeros : Nat → Nat → Nat
  | 0, _ => 0
  | fuel + 1, value => if value % 2 = 1 then 0 else trailingZeros fuel (value / 2) + 1

/-- `for blockSize > remaining { blockSize >>= 1 }`, on the exponent of the block size. -/
def shrink (remaining : Nat) : Nat → Nat
  | 0 => 0
  | shift + 1 => if remaining < 2 ^ (shift + 1) then shrink remaining shift else shift + 1

/-- The exponent of the largest aligned block at `start`. -/
def blockShift (start remaining : Nat) : Nat :=
  shrink remaining (if start = 0 then 32 else trailingZeros 64 start)

/-- The loop of `compileUIDRanges` over one range; each round takes at least one UID. -/
def compileUIDBlocks : Nat → Nat → Nat → List (Key 32)
  | 0, _, _ => []
  | fuel + 1, start, stop =>
    if start ≤ stop then
      let shift := blockShift start (stop - start + 1)
      ⟨32 - shift, BitVec.ofNat 32 start⟩ :: compileUIDBlocks fuel (start + 2 ^ shift) stop
    else []

/-- By the length of the key, then by the UID. -/
def KeyLe (first second : Key 32) : Prop :=
  if first.prefixLength ≠ second.prefixLength then first.prefixLength < second.prefixLength
  else first.data ≤ second.data

instance (first second : Key 32) : Decidable (KeyLe first second) := by
  unfold KeyLe
  infer_instance

/-- The keys are collected in a set and then sorted. -/
def compileUIDRanges (ranges : List UIDRange) : List (Key 32) :=
  (ranges.flatMap fun range =>
    compileUIDBlocks (range.stop.toNat + 1 - range.start.toNat) range.start.toNat range.stop.toNat).eraseDups.insertionSort
      KeyLe

theorem two_pow_trailingZeros_dvd (fuel value : Nat) : 2 ^ trailingZeros fuel value ∣ value := by
  induction fuel generalizing value with
  | zero => simp [trailingZeros]
  | succ fuel ih =>
    rw [trailingZeros]
    split
    · simp
    · obtain ⟨quotient, isMultiple⟩ := ih (value / 2)
      refine ⟨quotient, ?_⟩
      rw [pow_succ, mul_right_comm, ← isMultiple]
      omega

theorem shrink_le (remaining shift : Nat) : shrink remaining shift ≤ shift := by
  induction shift with
  | zero => exact le_refl 0
  | succ shift ih =>
    rw [shrink]
    split
    · omega
    · exact le_refl _

theorem two_pow_shrink_le {remaining : Nat} (positive : 0 < remaining) (shift : Nat) :
    2 ^ shrink remaining shift ≤ remaining := by
  induction shift with
  | zero => exact positive
  | succ shift ih =>
    rw [shrink]
    split
    · exact ih
    · rename_i fits
      exact Nat.le_of_not_lt fits

theorem two_pow_blockShift_dvd (start remaining : Nat) : 2 ^ blockShift start remaining ∣ start := by
  rw [blockShift]
  split
  · rename_i isZero
    simp [isZero]
  · exact (pow_dvd_pow 2 (shrink_le _ _)).trans (two_pow_trailingZeros_dvd 64 start)

theorem blockShift_le {remaining : Nat} (positive : 0 < remaining) (bound : start + remaining ≤ 2 ^ 32) :
    blockShift start remaining ≤ 32 := by
  have fits : 2 ^ blockShift start remaining ≤ remaining := two_pow_shrink_le positive _
  exact (Nat.pow_le_pow_iff_right (by decide)).mp (show 2 ^ blockShift start remaining ≤ 2 ^ 32 by omega)

variable {fuel : Nat}

theorem compileUIDBlocks_covers (enough : stop < start + fuel) (bound : stop < 2 ^ 32) :
    (∃ key ∈ compileUIDBlocks fuel start stop, key.covers uid.toBitVec) ↔
      start ≤ uid.toNat ∧ uid.toNat ≤ stop := by
  induction fuel generalizing start with
  | zero =>
    simp only [compileUIDBlocks, not_mem_nil, false_and, exists_false, false_iff]
    omega
  | succ fuel ih =>
    rw [compileUIDBlocks]
    split
    · rename_i ordered
      have fits : 2 ^ blockShift start (stop - start + 1) ≤ stop - start + 1 := two_pow_shrink_le (by omega) _
      have startNat : (BitVec.ofNat 32 start).toNat = start := by
        exact Nat.mod_eq_of_lt (by omega)
      have aligned : 2 ^ blockShift start (stop - start + 1) ∣ (BitVec.ofNat 32 start).toNat := by
        rw [startNat]
        exact two_pow_blockShift_dvd _ _
      have small : blockShift start (stop - start + 1) ≤ 32 := blockShift_le (by omega) (by omega)
      have rest := @ih (start + 2 ^ blockShift start (stop - start + 1)) (by omega)
      have block : Key.covers ⟨32 - blockShift start (stop - start + 1), BitVec.ofNat 32 start⟩ uid.toBitVec ↔
          start ≤ uid.toNat ∧ uid.toNat < start + 2 ^ blockShift start (stop - start + 1) := by
        rw [covers_block small aligned, startNat, UInt32.toNat_toBitVec]
      simp only [mem_cons, exists_eq_or_imp, block, rest]
      omega
    · simp only [not_mem_nil, false_and, exists_false, false_iff]
      omega

theorem compileUIDBlocks_aligned (bound : stop < 2 ^ 32) :
    ∀ key ∈ compileUIDBlocks fuel start stop, key.prefixLength ≤ 32 ∧ 2 ^ (32 - key.prefixLength) ∣ key.data.toNat := by
  induction fuel generalizing start with
  | zero => simp [compileUIDBlocks]
  | succ fuel ih =>
    rw [compileUIDBlocks]
    split
    · rename_i ordered
      have small : blockShift start (stop - start + 1) ≤ 32 := blockShift_le (by omega) (by omega)
      refine forall_mem_cons.mpr ⟨⟨sub_le _ _, ?_⟩, ih⟩
      rw [Nat.sub_sub_self small, BitVec.toNat_ofNat, Nat.mod_eq_of_lt (by omega)]
      exact two_pow_blockShift_dvd _ _
    · simp

/-- The loop ends by itself: it is over once there have been as many rounds as UIDs. -/
theorem compileUIDBlocks_ends (enough : stop < start + fuel) (more : Nat) :
    compileUIDBlocks (fuel + more) start stop = compileUIDBlocks fuel start stop := by
  induction fuel generalizing start with
  | zero =>
    have nothingLeft : ¬start ≤ stop := by omega
    cases more <;> simp [compileUIDBlocks, nothingLeft]
  | succ fuel ih =>
    have positive : 0 < 2 ^ blockShift start (stop - start + 1) := Nat.two_pow_pos _
    rw [Nat.add_right_comm, compileUIDBlocks, compileUIDBlocks]
    split
    · exact congrArg _ (ih (by omega))
    · rfl

theorem mem_compileUIDRanges {key : Key 32} :
    key ∈ compileUIDRanges ranges ↔ ∃ range ∈ ranges,
      key ∈ compileUIDBlocks (range.stop.toNat + 1 - range.start.toNat) range.start.toNat range.stop.toNat := by
  simp [compileUIDRanges]

theorem found_compileUIDRanges : found (compileUIDRanges ranges) uid.toBitVec = containsUID ranges uid := by
  have enoughFuel (range : UIDRange) :
      range.stop.toNat < range.start.toNat + (range.stop.toNat + 1 - range.start.toNat) := by
    generalize range.stop.toNat = stop, range.start.toNat = start
    omega
  rw [Bool.eq_iff_iff, found_iff, containsUID_iff]
  constructor
  · rintro ⟨key, isKey, covers⟩
    obtain ⟨range, isRange, isBlock⟩ := mem_compileUIDRanges.mp isKey
    exact ⟨range, isRange, (compileUIDBlocks_covers (enoughFuel range) range.stop.toNat_lt).mp ⟨key, isBlock, covers⟩⟩
  · rintro ⟨range, isRange, holds⟩
    obtain ⟨key, isBlock, covers⟩ := (compileUIDBlocks_covers (enoughFuel range) range.stop.toNat_lt).mpr holds
    exact ⟨key, mem_compileUIDRanges.mpr ⟨range, isRange, isBlock⟩, covers⟩

end Ranges

/-! ## The policy -/

def maxUIDPolicyEntries : Nat := 4096

/-- The check of one list of ranges. The source looks at the two lists in no fixed order;
the order decides only which of two errors is reported. -/
def checkUIDRanges (name : String) : List UIDRange → Except String Unit
  | [] => .ok ()
  | range :: ranges =>
    if range.stop < range.start then
      .error ("invalid " ++ name ++ " range: " ++ toString range.start ++ ":" ++ toString range.stop)
    else checkUIDRanges name ranges

variable (policy : LocalUIDPolicy)

def LocalUIDPolicy.defaultBypass : Bool :=
  policy.includeUIDConfigured || !policy.includeUID.isEmpty

/-- The ranges whose keys go into the trie. -/
def LocalUIDPolicy.ranges : List UIDRange :=
  if policy.defaultBypass then subtractUIDRanges policy.includeUID policy.excludeUID else policy.excludeUID

def compileUIDPolicy : Except String (List (Key 32) × Bool) := do
  checkUIDRanges "include_uid" policy.includeUID
  checkUIDRanges "exclude_uid" policy.excludeUID
  let entries := compileUIDRanges policy.ranges
  ensure (entries.length ≤ maxUIDPolicyEntries)
    ("UID policy compiles to too many eBPF map entries: " ++ toString entries.length ++ " > " ++
      toString maxUIDPolicyEntries)
  return (entries, policy.defaultBypass)

theorem wellFormed_of_checkUIDRanges {name : String} {ranges : List UIDRange}
    (accepted : checkUIDRanges name ranges = .ok ()) : ∀ range ∈ ranges, range.WellFormed := by
  induction ranges with
  | nil => simp
  | cons range rest ih =>
    rw [checkUIDRanges] at accepted
    split at accepted
    · cases accepted
    · rename_i ordered
      refine forall_mem_cons.mpr ⟨?_, ih accepted⟩
      exact UIDRange.wellFormed_iff.mpr (Nat.le_of_not_lt ordered)

/-- What is known of a policy that was compiled. -/
structure CompilesUID (policy : LocalUIDPolicy) (entries : List (Key 32)) (defaultBypass : Bool) : Prop where
  includeWellFormed : ∀ range ∈ policy.includeUID, range.WellFormed
  excludeWellFormed : ∀ range ∈ policy.excludeUID, range.WellFormed
  entries_eq : entries = compileUIDRanges policy.ranges
  defaultBypass_eq : defaultBypass = policy.defaultBypass

variable {policy : LocalUIDPolicy} {entries : List (Key 32)} {defaultBypass : Bool}

/-- The decision of `uid_bypassed`, on the flags and the trie it reads. -/
def uidTrieBypassed (entries : List (Key 32)) (defaultBypass : Bool) (uid : UInt32) : Bool :=
  let matched := found entries uid.toBitVec
  if defaultBypass then !matched else matched

section
variable (compiles : compileUIDPolicy policy = .ok (entries, defaultBypass))
include compiles

theorem compileUIDPolicy_ok : CompilesUID policy entries defaultBypass := by
  simp only [compileUIDPolicy, bind_eq_ok, ensure_eq_ok, pure_eq_ok, Prod.mk.injEq] at compiles
  obtain ⟨_, includeChecked, _, excludeChecked, _, _, rfl, rfl⟩ := compiles
  exact ⟨wellFormed_of_checkUIDRanges includeChecked, wellFormed_of_checkUIDRanges excludeChecked, rfl, rfl⟩

theorem compileUIDPolicy_bypassed (uid : UInt32) :
    uidTrieBypassed entries defaultBypass uid =
      (containsUID policy.excludeUID uid || (policy.defaultBypass && !containsUID policy.includeUID uid)) := by
  obtain ⟨includeWell, excludeWell, rfl, rfl⟩ := compileUIDPolicy_ok compiles
  rw [uidTrieBypassed, found_compileUIDRanges, LocalUIDPolicy.ranges]
  cases policy.defaultBypass with
  | false => simp
  | true => simp [containsUID_subtractUIDRanges includeWell excludeWell, Bool.or_comm]

end

/-- The keys of a policy cover the UIDs that it selects, each key is a block of UIDs, and the loop that
cuts a range into blocks needs no more rounds than the range has UIDs. -/
theorem compileUIDPolicy_covers (compiles : compileUIDPolicy policy = .ok (entries, defaultBypass)) :
    (∀ uid : UInt32, (∃ key ∈ entries, key.covers uid.toBitVec) ↔
      if policy.includeUIDConfigured ∨ policy.includeUID ≠ [] then
        (∃ range ∈ policy.includeUID, range.Holds uid) ∧ ∀ range ∈ policy.excludeUID, ¬range.Holds uid
      else ∃ range ∈ policy.excludeUID, range.Holds uid) ∧
    (∀ key ∈ entries, key.prefixLength ≤ 32 ∧ 2 ^ (32 - key.prefixLength) ∣ key.data.toNat) ∧
    ∀ (range : UIDRange) (more : Nat),
      compileUIDBlocks (range.stop.toNat + 1 - range.start.toNat + more) range.start.toNat range.stop.toNat =
        compileUIDBlocks (range.stop.toNat + 1 - range.start.toNat) range.start.toNat range.stop.toNat := by
  obtain ⟨includeWell, excludeWell, rfl, rfl⟩ := compileUIDPolicy_ok compiles
  refine ⟨fun uid => ?_, fun key isKey => ?_, fun range more => compileUIDBlocks_ends (by omega) more⟩
  · have isDefault : policy.defaultBypass ↔ policy.includeUIDConfigured ∨ policy.includeUID ≠ [] := by
      simp [LocalUIDPolicy.defaultBypass]
    rw [← found_iff, found_compileUIDRanges, LocalUIDPolicy.ranges]
    by_cases bypasses : policy.defaultBypass
    · rw [if_pos bypasses, if_pos (isDefault.mp bypasses), containsUID_subtractUIDRanges includeWell excludeWell]
      simp [containsUID]
    · rw [if_neg bypasses, if_neg (mt isDefault.mpr bypasses), containsUID_iff]
  · obtain ⟨range, -, isBlock⟩ := mem_compileUIDRanges.mp isKey
    exact compileUIDBlocks_aligned range.stop.toNat_lt key isBlock

/-- Four UIDs without the second: the blocks of one UID and of two. -/
theorem compileUIDPolicy_covers_hole : compileUIDPolicy { includeUID := [⟨1000, 1003⟩], excludeUID := [⟨1001, 1001⟩] } =
        .ok ([⟨31, 1002#32⟩, ⟨32, 1000#32⟩], true) ∧
      ¬∃ key ∈ [(⟨31, 1002#32⟩ : Key 32), ⟨32, 1000#32⟩], key.covers (1001 : UInt32).toBitVec := by
  have compiles : compileUIDPolicy { includeUID := [⟨1000, 1003⟩], excludeUID := [⟨1001, 1001⟩] } =
      .ok ([⟨31, 1002#32⟩, ⟨32, 1000#32⟩], true) := by decide
  refine ⟨compiles, fun isCovered => ?_⟩
  have selected := ((compileUIDPolicy_covers compiles).1 1001).mp isCovered
  revert selected
  decide

end SingBox.Ebpf
