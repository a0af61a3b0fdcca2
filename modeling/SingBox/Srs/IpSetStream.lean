import SingBox.Lib.Grammar
import SingBox.Srs.IpSet

/-! # The streams that are read as address sets

`readIPSet` takes the ranges of a set in any order: it sorts them and leaves the rest to the
checks of `FromRanges`. `IsStream` is the format without the reader; `readIPSet_accepted` says
that exactly the streams whose ranges are well formed and disjoint are accepted. Asked for an
address, the set searches; for the zero `netip.Addr`, which is no address, it searches the IPv6
ranges for `::`.
-/

namespace SingBox

open Lib.Bytes Lib.Codec Netipx IPRange

/-! ## Disjoint ranges -/

namespace Ipset

variable {width : Nat}

/-- No value lies in both ranges. -/
def Range.Disjoint (first second : Range width) : Prop := ∀ value, ¬(first.Holds value ∧ second.Holds value)

variable {first second : Range width}

theorem Range.Disjoint.symm (disjoint : first.Disjoint second) : second.Disjoint first :=
  fun value both => disjoint value both.symm

theorem Range.Before.disjoint (before : first.Before second) : first.Disjoint second := by
  intro value both
  simp only [Range.Before, Range.Holds, BitVec.lt_def, BitVec.le_def] at before both
  omega

theorem Range.Disjoint.before (disjoint : first.Disjoint second)
    (wellFormed : second.fromAddr ≤ second.toAddr) (starts : first.fromAddr ≤ second.fromAddr) :
    first.Before second := by
  have apart := disjoint second.fromAddr
  simp only [Range.Before, Range.Holds, BitVec.lt_def, BitVec.le_def] at *
  omega

theorem fromRanges_eq_ok {ranges4 : List (Range 32)} {ranges6 : List (Range 128)} {set : Set} :
    fromRanges ranges4 ranges6 = .ok set ↔ set.ranges4 = ranges4 ∧ set.ranges6 = ranges6 := by
  constructor
  · intro accepted
    unfold fromRanges at accepted
    split at accepted
    · cases accepted
    · split at accepted
      · cases accepted
      · cases accepted
        exact ⟨rfl, rfl⟩
  · rintro ⟨rfl, rfl⟩
    exact fromRanges_ranges set

end Ipset

open Ipset (Range Ordered)

namespace Netipx.IPRange

def WellFormed : IPRange → Prop
  | .v4 range => range.fromAddr ≤ range.toAddr
  | .v6 range => range.fromAddr ≤ range.toAddr

/-- No address lies in both ranges; ranges of different families are always disjoint. -/
def Disjoint (first second : IPRange) : Prop := ∀ ip, ¬(first.Holds ip ∧ second.Holds ip)

theorem disjoint_v4 {first second : Range 32} : (v4 first).Disjoint (.v4 second) ↔ first.Disjoint second := by
  constructor
  · exact fun disjoint value => disjoint (.v4 value)
  · intro disjoint ip
    cases ip with
    | v4 value => exact disjoint value
    | v6 value => exact fun both => both.1

theorem disjoint_v6 {first second : Range 128} : (v6 first).Disjoint (.v6 second) ↔ first.Disjoint second := by
  constructor
  · exact fun disjoint value => disjoint (.v6 value)
  · intro disjoint ip
    cases ip with
    | v4 value => exact fun both => both.1
    | v6 value => exact disjoint value

theorem disjoint_v4_v6 (first : Range 32) (second : Range 128) : (v4 first).Disjoint (.v6 second) := by
  intro ip
  cases ip with
  | v4 value => exact fun both => both.2
  | v6 value => exact fun both => both.1

theorem Disjoint.symm {first second : IPRange} (disjoint : first.Disjoint second) : second.Disjoint first :=
  fun ip both => disjoint ip both.symm

end Netipx.IPRange

namespace Srs

/-! ## The format -/

/-- The length, 4 or 16, and that many bytes. -/
def IsAddr : Grammar Bytes := fun bytes addr =>
  ∃ head, bytes = head ++ addr ∧ IsUvarint head addr.length ∧ (addr.length = 4 ∨ addr.length = 16)

/-- Two addresses of one family. -/
inductive IsRange : Grammar IPRange where
  | v4 {first last firstAddr lastAddr : Bytes} : IsAddr first firstAddr → IsAddr last lastAddr →
      firstAddr.length = 4 → lastAddr.length = 4 →
      IsRange (first ++ last)
        (.v4 ⟨BitVec.ofNat 32 (ofBigEndian firstAddr), BitVec.ofNat 32 (ofBigEndian lastAddr)⟩)
  | v6 {first last firstAddr lastAddr : Bytes} : IsAddr first firstAddr → IsAddr last lastAddr →
      firstAddr.length = 16 → lastAddr.length = 16 →
      IsRange (first ++ last)
        (.v6 ⟨BitVec.ofNat 128 (ofBigEndian firstAddr), BitVec.ofNat 128 (ofBigEndian lastAddr)⟩)

/-- The version, the number of the ranges on eight bytes, and the ranges. -/
def IsStream : Grammar (List IPRange) := fun bytes ranges =>
  ∃ count body, bytes = 1 :: count ++ body ∧ count.length = 8 ∧ ofBigEndian count = ranges.length ∧
    Sequence IsRange body ranges

/-- What the checks ask of the ranges of a stream. -/
structure Separate (ranges : List IPRange) : Prop where
  wellFormed : ∀ range ∈ ranges, range.WellFormed
  disjoint : ranges.Pairwise IPRange.Disjoint

/-! ## The readers accept the format -/

theorem accepts_ipSetAddr : Accepts readIPSetAddr IsAddr := by
  refine (accepts_uvarint.bind fun addrLen => Accepts.ite (fun _ => Accepts.fail errInvalid)
    fun _ => accepts_full addrLen).congr ?_
  intro bytes addr
  constructor
  · rintro ⟨head, _, addrLen, rfl, isLength, body⟩
    split at body
    · exact body.elim
    next allowed =>
      obtain ⟨rfl, rfl⟩ := body
      exact ⟨head, rfl, isLength, by omega⟩
  · rintro ⟨head, rfl, isLength, allowed⟩
    refine ⟨head, addr, addr.length, rfl, isLength, ?_⟩
    rw [if_neg (by omega)]
    exact ⟨rfl, rfl⟩

theorem accepts_range : Accepts readRange IsRange := by
  refine (accepts_ipSetAddr.bind fun first => accepts_ipSetAddr.bind fun last =>
    Accepts.ite (fun _ => Accepts.fail errInvalid) fun _ =>
      Accepts.ite (fun _ => Accepts.pure _) fun _ => Accepts.pure _).congr ?_
  intro bytes range
  constructor
  · rintro ⟨firstBytes, _, first, rfl, isFirst, lastBytes, _, last, rfl, isLast, body⟩
    split at body
    · exact body.elim
    next sameLength =>
      split at body
      next four =>
        obtain ⟨rfl, rfl⟩ := body
        rw [List.append_nil]
        exact .v4 isFirst isLast four (by omega)
      next notFour =>
        obtain ⟨rfl, rfl⟩ := body
        obtain ⟨_, _, _, allowed⟩ := id isFirst
        rw [List.append_nil]
        exact .v6 isFirst isLast (by omega) (by omega)
  · rintro (⟨isFirst, isLast, firstLength, lastLength⟩ | ⟨isFirst, isLast, firstLength, lastLength⟩)
    · refine ⟨_, _, _, rfl, isFirst, _, [], _, by rw [List.append_nil], isLast, ?_⟩
      rw [if_neg (by omega), if_pos firstLength]
      exact ⟨rfl, rfl⟩
    · refine ⟨_, _, _, rfl, isFirst, _, [], _, by rw [List.append_nil], isLast, ?_⟩
      rw [if_neg (by omega), if_neg (by omega)]
      exact ⟨rfl, rfl⟩

/-! ## Sorting -/

/-- Ranges in any order pass the checks after sorting exactly if they are well formed and
disjoint. Ranges with one start overlap, so that it does not matter how the sort places
equal keys. -/
theorem ordered_sortRanges {width : Nat} (ranges : List (Range width)) :
    Ordered (sortRanges ranges) ↔
      (∀ range ∈ ranges, range.fromAddr ≤ range.toAddr) ∧ ranges.Pairwise Range.Disjoint := by
  have perm : (sortRanges ranges).Perm ranges := List.perm_insertionSort _ ranges
  have sorted : (sortRanges ranges).Pairwise fun first second => first.fromAddr ≤ second.fromAddr := by
    exact List.pairwise_insertionSort _ ranges
  constructor
  · rintro ⟨wellFormed, before⟩
    refine ⟨fun range isMember => wellFormed range (perm.mem_iff.mpr isMember), ?_⟩
    exact (perm.pairwise_iff Range.Disjoint.symm).mp (before.imp Range.Before.disjoint)
  · rintro ⟨wellFormed, disjoint⟩
    have wellFormedSorted (range) (isMember : range ∈ sortRanges ranges) : range.fromAddr ≤ range.toAddr :=
      wellFormed range (perm.mem_iff.mp isMember)
    refine ⟨wellFormedSorted, ?_⟩
    have disjointSorted := (perm.pairwise_iff Range.Disjoint.symm).mpr disjoint
    refine (disjointSorted.and sorted).imp_of_mem ?_
    intro first second _ isSecond both
    exact both.1.before (wellFormedSorted second isSecond) both.2

variable {ranges : List IPRange}

theorem mem_filterMap_range : (∀ range, range ∈ ranges.filterMap range4 ↔ .v4 range ∈ ranges) ∧
    ∀ range, range ∈ ranges.filterMap range6 ↔ .v6 range ∈ ranges := by
  refine ⟨fun range => ?_, fun range => ?_⟩
  all_goals
    rw [List.mem_filterMap]
    constructor
    · rintro ⟨other, isMember, isRange⟩
      cases other <;> cases isRange
      exact isMember
    · exact fun isMember => ⟨_, isMember, rfl⟩

theorem pairwise_disjoint_iff :
    ranges.Pairwise IPRange.Disjoint ↔
      (ranges.filterMap range4).Pairwise Range.Disjoint ∧
        (ranges.filterMap range6).Pairwise Range.Disjoint := by
  rw [List.pairwise_filterMap, List.pairwise_filterMap, ← List.pairwise_and_iff]
  constructor
  · refine List.Pairwise.imp ?_
    intro first second disjoint
    constructor
    · intro range isFirst other isSecond
      cases first <;> cases isFirst
      cases second <;> cases isSecond
      exact disjoint_v4.mp disjoint
    · intro range isFirst other isSecond
      cases first <;> cases isFirst
      cases second <;> cases isSecond
      exact disjoint_v6.mp disjoint
  · refine List.Pairwise.imp ?_
    rintro first second ⟨disjoint4, disjoint6⟩
    cases first with
    | v4 first =>
      cases second with
      | v4 second => exact disjoint_v4.mpr (disjoint4 first rfl second rfl)
      | v6 second => exact disjoint_v4_v6 first second
    | v6 first =>
      cases second with
      | v4 second => exact (disjoint_v4_v6 second first).symm
      | v6 second => exact disjoint_v6.mpr (disjoint6 first rfl second rfl)

theorem separate_iff :
    Separate ranges ↔
      Ordered (sortRanges (ranges.filterMap range4)) ∧
        Ordered (sortRanges (ranges.filterMap range6)) := by
  rw [ordered_sortRanges, ordered_sortRanges]
  simp only [mem_filterMap_range]
  constructor
  · rintro ⟨wellFormed, disjoint⟩
    obtain ⟨disjoint4, disjoint6⟩ := pairwise_disjoint_iff.mp disjoint
    exact ⟨⟨fun range isMember => wellFormed _ isMember, disjoint4⟩,
      ⟨fun range isMember => wellFormed _ isMember, disjoint6⟩⟩
  · rintro ⟨⟨wellFormed4, disjoint4⟩, ⟨wellFormed6, disjoint6⟩⟩
    refine ⟨?_, pairwise_disjoint_iff.mpr ⟨disjoint4, disjoint6⟩⟩
    intro range isMember
    cases range with
    | v4 range => exact wellFormed4 range isMember
    | v6 range => exact wellFormed6 range isMember

/-! ## Reading a set -/

/-- The ranges of the set, each family sorted. -/
def Sorts (ranges : List IPRange) (set : Ipset.Set) : Prop :=
  set.ranges4 = sortRanges (ranges.filterMap IPRange.range4) ∧
    set.ranges6 = sortRanges (ranges.filterMap IPRange.range6)

theorem exists_sorts : (∃ set, Sorts ranges set) ↔ Separate ranges := by
  rw [separate_iff]
  constructor
  · rintro ⟨set, isRanges4, isRanges6⟩
    rw [← isRanges4, ← isRanges6]
    exact ⟨set.ordered4, set.ordered6⟩
  · exact fun ⟨ordered4, ordered6⟩ => ⟨⟨_, _, ordered4, ordered6⟩, rfl, rfl⟩

theorem accepts_sorted (ranges : List IPRange) :
    Accepts (match Ipset.fromRanges (sortRanges (ranges.filterMap range4))
          (sortRanges (ranges.filterMap range6)) with
        | .ok set => return set
        | .error message => fail (.invalid message))
      fun bytes set => bytes = [] ∧ Sorts ranges set := by
  intro input set rest
  have accepted := @Ipset.fromRanges_eq_ok (sortRanges (ranges.filterMap range4))
    (sortRanges (ranges.filterMap range6))
  cases answer : Ipset.fromRanges (sortRanges (ranges.filterMap range4))
      (sortRanges (ranges.filterMap range6)) with
  | error message =>
    constructor
    · intro failed
      cases failed
    · rintro ⟨_, rfl, rfl, sorts⟩
      have := accepted.mpr sorts
      rw [answer] at this
      cases this
  | ok result =>
    rw [answer] at accepted
    constructor
    · intro isSet
      cases isSet
      exact ⟨[], rfl, rfl, accepted.mp rfl⟩
    · rintro ⟨_, rfl, rfl, sorts⟩
      cases accepted.mpr sorts
      rfl

theorem accepts_ipSet :
    Accepts readIPSet fun bytes set => ∃ ranges, IsStream bytes ranges ∧ Sorts ranges set := by
  refine (accepts_byte.bind fun version => Accepts.ite (fun _ => Accepts.fail errInvalid) fun _ =>
    (accepts_bigEndian 8).bind fun length => (accepts_manyFrom (fun _ => accepts_range) 0 length).bind fun ranges =>
      accepts_sorted ranges).congr ?_
  intro bytes set
  constructor
  · rintro ⟨_, _, version, rfl, rfl, body⟩
    split at body
    · exact body.elim
    next isOne =>
      obtain ⟨count, _, length, rfl, ⟨eight, rfl⟩, body, _, ranges, rfl, ⟨isLength, isBody⟩, rfl, sorts⟩ := body
      refine ⟨ranges, ⟨count, body, ?_, eight, isLength.symm, isBody⟩, sorts⟩
      rw [not_not] at isOne
      rw [isOne, List.append_nil, List.singleton_append, List.cons_append]
  · rintro ⟨ranges, ⟨count, body, rfl, eight, isLength, isBody⟩, sorts⟩
    refine ⟨[1], count ++ body, 1, rfl, rfl, ?_⟩
    exact ⟨count, body, _, rfl, ⟨eight, rfl⟩, body, [], ranges, by rw [List.append_nil], ⟨isLength.symm, isBody⟩, rfl, sorts⟩

/-- A stream is accepted exactly if it has the format and its ranges are well formed and disjoint. -/
theorem readIPSet_accepted (input rest : Bytes) :
    (∃ set, readIPSet.run input = .ok (set, rest)) ↔
      ∃ bytes ranges, input = bytes ++ rest ∧ IsStream bytes ranges ∧ Separate ranges := by
  constructor
  · rintro ⟨set, accepted⟩
    obtain ⟨bytes, rfl, ranges, isStream, sorts⟩ := (accepts_ipSet _ _ _).mp accepted
    exact ⟨bytes, ranges, rfl, isStream, exists_sorts.mp ⟨set, sorts⟩⟩
  · rintro ⟨bytes, ranges, rfl, isStream, separate⟩
    obtain ⟨set, sorts⟩ := exists_sorts.mpr separate
    exact ⟨set, (accepts_ipSet _ _ _).mpr ⟨bytes, rfl, ranges, isStream, sorts⟩⟩

/-! ## Membership -/

/-- The answer a set owes: an address, in a range of its own family. -/
def Owes (set : Ipset.Set) (addr : Option Addr) : Prop := ∃ ip, addr = some ip ∧ set.Holds (some ip)

theorem contains_owes_iff_and_readIPSet_accepted (set : Ipset.Set) (addr : Option Addr) (input rest : Bytes) :
    ((set.contains addr ↔ Owes set addr) ↔ (addr.isSome ∨ ¬∃ range ∈ set.ranges6, range.Holds 0)) ∧
      ((∃ set, readIPSet.run input = .ok (set, rest)) ↔
        ∃ bytes ranges, input = bytes ++ rest ∧ IsStream bytes ranges ∧ Separate ranges) := by
  refine ⟨?_, readIPSet_accepted input rest⟩
  rw [Ipset.Set.contains_holds]
  cases addr with
  | some ip => simp [Owes]
  | none => simp [Owes, Ipset.Set.Holds]

/-- `::/0` contains the zero `netip.Addr`. -/
theorem invalid_address_contained :
    ∃ set, Ipset.fromRanges [] [⟨0, BitVec.allOnes 128⟩] = .ok set ∧ set.contains none ∧ ¬Owes set none := by
  refine ⟨⟨[], [⟨0, BitVec.allOnes 128⟩], ⟨by simp, .nil⟩, ⟨by decide, by simp⟩⟩, ?_, by decide, by simp [Owes]⟩
  exact Ipset.fromRanges_eq_ok.mpr ⟨rfl, rfl⟩

end Srs

end SingBox
