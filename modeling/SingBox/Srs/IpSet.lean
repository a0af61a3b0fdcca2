import Mathlib.Data.List.Sort
import SingBox.Common.Ipset
import SingBox.Lib.Codec

/-! # Address sets and prefixes in the rule-set format

`common/srs/ip_set.go` and the prefix half of `common/srs/ip_cidr.go`. A set is written as
its ranges; it is read back through a sort and the checks of `FromRanges`.
-/

namespace SingBox

open Lib.Bytes Lib.Codec BitVec List

/-! ## Sets of netipx -/

namespace Netipx

open Ipset (Range Ordered)

inductive IPRange where
  | v4 (range : Range 32)
  | v6 (range : Range 128)

namespace IPRange

def range4 : IPRange → Option (Range 32)
  | .v4 range => some range
  | .v6 _ => none

def range6 : IPRange → Option (Range 128)
  | .v4 _ => none
  | .v6 range => some range

def Holds : IPRange → Addr → Prop
  | .v4 range, .v4 value => range.Holds value
  | .v6 range, .v6 value => range.Holds value
  | _, _ => False

end IPRange

/-- `netipx.IPSet`: sorted disjoint ranges, as many as a slice can have. -/
structure IPSet where
  ranges : List IPRange
  ordered4 : Ordered (ranges.filterMap IPRange.range4)
  ordered6 : Ordered (ranges.filterMap IPRange.range6)
  fits : ranges.length < 2 ^ 63

def IPSet.Holds (set : IPSet) (ip : Addr) : Prop := ∃ range ∈ set.ranges, range.Holds ip

end Netipx

open Netipx

def Ipset.fromIPSet (set : IPSet) : Ipset.Set where
  ranges4 := set.ranges.filterMap IPRange.range4
  ranges6 := set.ranges.filterMap IPRange.range6
  ordered4 := set.ordered4
  ordered6 := set.ordered6

theorem Ipset.fromIPSet_holds (set : IPSet) (ip : Addr) : (Ipset.fromIPSet set).Holds (some ip) ↔ set.Holds ip := by
  cases ip with
  | v4 value =>
    constructor
    · rintro ⟨range, isMember, holds⟩
      obtain ⟨all, isRange, isV4⟩ := mem_filterMap.mp isMember
      cases all <;> cases isV4
      exact ⟨.v4 range, isRange, holds⟩
    · rintro ⟨range, isMember, holds⟩
      cases range with
      | v4 range => exact ⟨range, mem_filterMap.mpr ⟨_, isMember, rfl⟩, holds⟩
      | v6 range => exact holds.elim
  | v6 value =>
    constructor
    · rintro ⟨range, isMember, holds⟩
      obtain ⟨all, isRange, isV6⟩ := mem_filterMap.mp isMember
      cases all <;> cases isV6
      exact ⟨.v6 range, isRange, holds⟩
    · rintro ⟨range, isMember, holds⟩
      cases range with
      | v4 range => exact holds.elim
      | v6 range => exact ⟨range, mem_filterMap.mpr ⟨_, isMember, rfl⟩, holds⟩

namespace Srs

/-! ## Address sets -/

def errInvalid : ReadError := .invalid "invalid argument"

def fail {α : Type} (err : ReadError) : Reader α := fun _ => .error err

def writeIPSetAddr (addr : Bytes) : Bytes := uvarint addr.length ++ addr

def readIPSetAddr : Reader Bytes := do
  let addrLen ← readUvarint
  if addrLen ≠ 4 ∧ addrLen ≠ 16 then fail errInvalid
  else readFull addrLen

def writeRange {width : Nat} (range : Ipset.Range width) : Bytes :=
  writeIPSetAddr (toBigEndian (width / 8) range.fromAddr.toNat) ++
    writeIPSetAddr (toBigEndian (width / 8) range.toAddr.toNat)

/-- One round of the loop of `readIPSet`. -/
def readRange : Reader IPRange := do
  let first ← readIPSetAddr
  let last ← readIPSetAddr
  if first.length ≠ last.length then fail errInvalid
  else if first.length = 4 then
    return .v4 ⟨BitVec.ofNat 32 (ofBigEndian first), BitVec.ofNat 32 (ofBigEndian last)⟩
  else
    return .v6 ⟨BitVec.ofNat 128 (ofBigEndian first), BitVec.ofNat 128 (ofBigEndian last)⟩

variable (set : Ipset.Set)

def writeIPSet : Bytes :=
  1 :: toBigEndian 8 (set.ranges4.length + set.ranges6.length) ++ set.ranges4.flatMap writeRange ++
    set.ranges6.flatMap writeRange

/-- By the first address. -/
def sortRanges {width : Nat} (ranges : List (Ipset.Range width)) : List (Ipset.Range width) :=
  ranges.insertionSort fun first second => first.fromAddr ≤ second.fromAddr

def readIPSet : Reader Ipset.Set := do
  let version ← readByte
  if version ≠ 1 then fail errInvalid
  else
    let length ← readBigEndian 8
    let ranges ← readManyFrom (fun _ => readRange) 0 length
    let ranges4 := sortRanges (ranges.filterMap IPRange.range4)
    let ranges6 := sortRanges (ranges.filterMap IPRange.range6)
    match Ipset.fromRanges ranges4 ranges6 with
    | .ok set => return set
    | .error message => fail (.invalid message)

/-! ## Prefixes -/

variable (network : Prefix)

def writePrefix : Bytes :=
  let addrSlice := (network.addr.map Addr.asSlice).getD []
  -- the zero prefix has -1 bits
  uvarint addrSlice.length ++ addrSlice ++ [(network.bits.map UInt8.ofNat).getD 255]

def readPrefix : Reader Prefix := do
  let addrBytes ← readIPSetAddr
  let prefixBits ← readByte
  return Prefix.ofAddr (Addr.ofSlice addrBytes) prefixBits.toNat

/-- A valid `netip.Prefix`: an address and a length within it. -/
def ValidPrefix : Prop := ∃ ip bits, network = ⟨some ip, some bits⟩ ∧ bits ≤ ip.bitLen

/-- A `netip.Prefix` with an address, valid or not. -/
def ReadablePrefix : Prop := ∃ ip bits, network = Prefix.ofAddr (some ip) bits

variable {network}

theorem ValidPrefix.readable (valid : ValidPrefix network) : ReadablePrefix network := by
  obtain ⟨ip, bits, rfl, fits⟩ := valid
  exact ⟨ip, bits, by rw [Prefix.ofAddr, if_pos fits]⟩

/-! ## Round trips -/

theorem reads_ipSetAddr {addr : Bytes} (length : addr.length = 4 ∨ addr.length = 16) :
    Reads readIPSetAddr (writeIPSetAddr addr) addr := by
  refine .bind (reads_uvarint (by omega)) ?_
  rw [if_neg (by omega)]
  exact reads_full rfl

theorem reads_writePrefix (readable : ReadablePrefix network) : Reads readPrefix (writePrefix network) network := by
  obtain ⟨ip, bits, rfl⟩ := readable
  have length : ip.asSlice.length = 4 ∨ ip.asSlice.length = 16 := by cases ip <;> simp [Addr.asSlice]
  have bitLen : ip.bitLen ≤ 128 := by cases ip <;> simp [Addr.bitLen]
  have reads (byte : UInt8) : Reads readPrefix (writeIPSetAddr ip.asSlice ++ [byte]) (Prefix.ofAddr (some ip) byte.toNat) := by
    refine .bind (reads_ipSetAddr length) ?_
    rw [Addr.ofSlice_asSlice]
    exact (reads_byte byte).map fun prefixBits => Prefix.ofAddr (some ip) prefixBits.toNat
  by_cases fits : bits ≤ ip.bitLen
  · have byte : (UInt8.ofNat bits).toNat = bits := by rw [UInt8.toNat_ofNat']; omega
    have readsBits := reads (UInt8.ofNat bits)
    rw [byte] at readsBits
    rw [Prefix.ofAddr, if_pos fits] at readsBits ⊢
    exact readsBits
  · -- a prefix that is not valid is written with 255 bits, and these are too many as well
    have readsBits := reads 255
    rw [Prefix.ofAddr, if_neg (show ¬(255 : UInt8).toNat ≤ ip.bitLen by simp; omega)] at readsBits
    rw [Prefix.ofAddr, if_neg fits]
    exact readsBits

/-- The zero prefix is written without an address, which no reader accepts. -/
theorem fails_writePrefix (isZero : network.addr = none) : Fails readPrefix (writePrefix network) := by
  intro rest
  refine ⟨errInvalid, ?_⟩
  unfold writePrefix
  rw [isZero]
  rfl

/-- A number of a whole number of bytes, written and read. -/
theorem ofBigEndian_bitVec {width : Nat} (whole : 8 * (width / 8) = width) (value : BitVec width) :
    BitVec.ofNat width (ofBigEndian (toBigEndian (width / 8) value.toNat)) = value := by
  have bound : value.toNat < 256 ^ (width / 8) := by
    rw [show 256 = 2 ^ 8 by rfl, ← Nat.pow_mul, whole]
    exact value.isLt
  rw [ofBigEndian_toBigEndian _ _ bound, ofNat_toNat, setWidth_eq]

def writeIPRange : IPRange → Bytes
  | .v4 range => writeRange range
  | .v6 range => writeRange range

theorem reads_range (range : IPRange) : Reads readRange (writeIPRange range) range := by
  cases range with
  | v4 range =>
    have length (value : BitVec 32) : (toBigEndian (32 / 8) value.toNat).length = 4 := toBigEndian_length _ _
    refine .bind (reads_ipSetAddr (.inl (length _))) ?_
    rw [← append_nil (writeIPSetAddr _)]
    refine .bind (reads_ipSetAddr (.inl (length _))) ?_
    rw [length, length, if_neg (by simp), if_pos rfl, ofBigEndian_bitVec rfl, ofBigEndian_bitVec rfl]
    exact .pure _
  | v6 range =>
    have length (value : BitVec 128) : (toBigEndian (128 / 8) value.toNat).length = 16 := toBigEndian_length _ _
    refine .bind (reads_ipSetAddr (.inr (length _))) ?_
    rw [← append_nil (writeIPSetAddr _)]
    refine .bind (reads_ipSetAddr (.inr (length _))) ?_
    rw [length, length, if_neg (by simp), if_neg (by decide), ofBigEndian_bitVec rfl, ofBigEndian_bitVec rfl]
    exact .pure _

theorem sortRanges_of_ordered {width : Nat} {ranges : List (Ipset.Range width)} (ordered : Ipset.Ordered ranges) :
    sortRanges ranges = ranges := by
  refine List.Pairwise.insertionSort_eq (ordered.sorted.imp_of_mem ?_)
  intro first second isFirst _ before
  have wellFormed := ordered.wellFormed first isFirst
  simp only [Ipset.Range.Before, lt_def, le_def] at *
  omega

/-- The ranges in the order in which they are written. -/
def writtenRanges : List IPRange := set.ranges4.map .v4 ++ set.ranges6.map .v6

theorem writeIPSet_eq :
    writeIPSet set = [1] ++ (toBigEndian 8 (writtenRanges set).length ++ (writtenRanges set).flatMap writeIPRange) := by
  simp [writeIPSet, writtenRanges, flatMap_map, writeIPRange]

theorem reads_ipSet {set : Ipset.Set} (fits : (writtenRanges set).length < 2 ^ 64) :
    Reads readIPSet (writeIPSet set) set := by
  rw [writeIPSet_eq]
  refine .bind (reads_byte 1) ?_
  refine .bind (reads_bigEndian fits) ?_
  rw [← append_nil (flatMap _ _)]
  refine .bind (reads_manyFrom (fun _ range _ => reads_range range) 0) ?_
  rw [map_id', show (writtenRanges set).filterMap IPRange.range4 = set.ranges4 by
      simp [writtenRanges, Function.comp_def, IPRange.range4],
    show (writtenRanges set).filterMap IPRange.range6 = set.ranges6 by
      simp [writtenRanges, Function.comp_def, IPRange.range6], sortRanges_of_ordered set.ordered4,
    sortRanges_of_ordered set.ordered6]
  dsimp only
  rw [Ipset.fromRanges_ranges]
  exact .pure set

end Srs

end SingBox
