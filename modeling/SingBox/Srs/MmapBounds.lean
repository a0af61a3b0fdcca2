import SingBox.Lib.Panic
import SingBox.Srs.MmapMatches

/-! # Bounds of the mapped file

`ReadMmap` once more, with the bounds check of every index and slice expression and with the
offsets, counts and lengths as 64-bit numbers. Every check but one is implied by those that
the code makes before: `readMmap_eq` brings the reading here back to the one of
`SingBox.Srs.Mmap`. The exception is the blob table, whose length is a product that may
wrap around.
-/

namespace SingBox.Srs

open Lib.Bytes Lib.Codec Lib.Layout Options

/-! ## The code with its checks -/

namespace Bounds

variable (order : ByteOrder) (bytes : Bytes)

/-- `binary.NativeEndian.Uint64`, which looks at eight bytes. -/
def uint64 : Except ReadError Nat := do
  return order.get (← slice bytes 0 8)

/-- `Uint64(data[first:last])`. -/
def uint64In (data : Bytes) (first last : Nat) : Except ReadError Nat :=
  slice data first last >>= uint64 order

def uint32 : Except ReadError Nat := do
  return order.get (← slice bytes 0 4)

def alignMmapOffset (offset : Nat) : Nat := (offset + 7) % 2 ^ 64 / 8 * 8

def mmapSection (data : Bytes) (offset length : Nat) : Except ReadError Bytes :=
  if offset % 8 ≠ 0 ∨ offset > data.length ∨ length > data.length - offset then
    .error (.invalid "rule-set mmap section out of bounds")
  else slice data offset ((offset + length) % 2 ^ 64)

def mmapArray {α : Type} (cell : Cell α) (count : Nat) : Reader (List α) := fun data =>
  if count > data.length / cell.size then .error (.invalid "rule-set mmap array out of bounds")
  else
    let length := alignMmapOffset (count * cell.size % 2 ^ 64)
    if length > data.length then .error (.invalid "rule-set mmap array out of bounds")
    else if count = 0 then do
      let rest ← sliceFrom data length
      return ([], rest)
    else do
      -- `&data[0]`, and the memory of the elements behind it
      let _ ← slice data 0 1
      let memory ← slice data 0 (count * cell.size)
      let rest ← sliceFrom data length
      return (cells cell count memory, rest)

def blobAt (reader : MmapReader) (kind index : Nat) : Except ReadError Bytes :=
  if index ≥ reader.blobCount then .error (.invalid "rule-set mmap blob index out of range")
  else do
    let entry ← sliceFrom reader.blobTable (index * mmapBlobEntrySize % 2 ^ 64)
    let entryKind ← uint64In order entry 0 8
    if entryKind ≠ kind then .error (.invalid "rule-set mmap blob kind mismatch")
    else do
      let offset ← uint64In order entry 8 16
      let length ← uint64In order entry 16 24
      mmapSection reader.data offset length

def blob {α : Type} (order : ByteOrder) (reader : MmapReader) (kind : Nat) (make : Bytes → Except ReadError α) :
    Reader α := do
  let index ← readUvarint
  let bytes ← blobAt order reader kind index
  make bytes

/-- The loop over `counts`: the word at each place. -/
def counts (order : ByteOrder) (bytes : Bytes) : List Nat → Except ReadError (List Nat)
  | [] => .ok []
  | index :: indices => do
    let count ← sliceFrom bytes (index * 8) >>= uint64 order
    let more ← counts order bytes indices
    return count :: more

/-- The arrays of a matcher; the state is the `cursor`. -/
def succinctArrays (counts : List Nat) : Reader DomainMmap := do
  let leaves ← mmapArray (uint64Cell order) (counts.getD 0 0)
  let labelBitmap ← mmapArray (uint64Cell order) (counts.getD 1 0)
  let labels ← mmapArray byteCell (counts.getD 2 0)
  let ranks ← mmapArray (int32Cell order) (counts.getD 3 0)
  let selects ← mmapArray (int32Cell order) (counts.getD 4 0)
  return { leaves, labelBitmap, labels, ranks, selects }

def readSuccinctMmap : Except ReadError DomainMmap :=
  if bytes.length < 40 then .error errTruncated
  else do
    let counts ← counts order bytes [0, 1, 2, 3, 4]
    let cursor ← sliceFrom bytes 40
    (succinctArrays order counts).run' cursor

def rangeArrays : Reader Ipset.Set := do
  let count4 ← uint64In order bytes 0 8
  let ranges4 ← mmapArray (range4Cell order) count4
  let count6 ← uint64In order bytes 8 16
  let ranges6 ← mmapArray range6Cell count6
  match Ipset.fromRanges ranges4 ranges6 with
  | .ok set => return set
  | .error message => fail (.invalid message)

def readIPSet : Except ReadError Ipset.Set :=
  if bytes.length < 16 then .error errTruncated
  else do
    let cursor ← sliceFrom bytes 16
    (rangeArrays order bytes).run' cursor

variable {matchers : Matchers} (libraries : MmapLibraries matchers)

def source (reader : MmapReader) : Source matchers where
  readMatcher := blob libraries.order reader 1 fun bytes => do
    let mmap ← readSuccinctMmap libraries.order bytes
    (libraries.newMatcherFromMmap mmap).mapError .invalid
  readAdGuardMatcher := blob libraries.order reader 1 fun bytes => do
    let mmap ← readSuccinctMmap libraries.order bytes
    (libraries.newAdGuardMatcherFromMmap mmap).mapError .invalid
  readIPSet := blob libraries.order reader 2 (readIPSet libraries.order)

def ReadMmap (data : Bytes) : Except ReadError (PlainRuleSetCompat matchers) :=
  if data.length < mmapHeaderSize then .error (.invalid "truncated rule-set mmap")
  else do
    let magic ← slice data 0 4
    if magic ≠ mmapMagic then .error (.invalid "invalid rule-set mmap")
    else do
      let formatVersion ← slice data 4 8 >>= uint32 libraries.order
      if formatVersion ≠ mmapFormatVersion then .error (.invalid "unsupported rule-set mmap version")
      else do
        let rulesLength ← uint64In libraries.order data 16 24
        let blobTableOffset ← uint64In libraries.order data 24 32
        let blobCount ← uint64In libraries.order data 32 40
        let rules ← mmapSection data mmapHeaderSize rulesLength
        let blobTable ← mmapSection data blobTableOffset (blobCount * mmapBlobEntrySize % 2 ^ 64)
        let version ← uint64In libraries.order data 8 16
        let (rules, _) ← readRules libraries.toPackages (source libraries { data, blobTable, blobCount }) false rules
        return { version := UInt8.ofNat version, rules }

end Bounds

/-! ## The checks that are implied -/

open List

section Implied

variable {order : ByteOrder} {data : Bytes}

theorem uint64In_eq {first : Nat} (inside : first + 8 ≤ data.length) :
    Bounds.uint64In order data first (first + 8) = .ok (wordAt order data first) := by
  rw [Bounds.uint64In, slice_eq (by omega) inside, Nat.add_sub_cancel_left]
  change (slice _ 0 8 >>= _) = _
  rw [slice_eq (by omega) (by rw [length_take, length_drop]; omega)]
  simp only [drop_zero, Nat.sub_zero, take_take]
  rfl

theorem uint64_sliceFrom {first : Nat} (inside : first + 8 ≤ data.length) :
    (sliceFrom data first >>= Bounds.uint64 order) = .ok (wordAt order data first) := by
  rw [sliceFrom_eq (by omega)]
  change (slice _ 0 8 >>= _) = _
  rw [slice_eq (by omega) (by rw [length_drop]; omega)]
  rfl

theorem mmapSection_bounds (small : data.length < 2 ^ 63) (offset length : Nat) :
    Bounds.mmapSection data offset length = mmapSection data offset length := by
  unfold Bounds.mmapSection mmapSection
  split
  · rfl
  next inside =>
    rw [Nat.mod_eq_of_lt (by omega), slice_eq (by omega) (by omega), Nat.add_sub_cancel_left]

/-- The array only looks at its own memory. -/
theorem cells_take {α : Type} (cell : Cell α) (count : Nat) (data : Bytes) :
    cells cell count (data.take (count * cell.size)) = cells cell count data := by
  induction count generalizing data with
  | zero => rfl
  | succ count ih =>
    have le : cell.size ≤ (count + 1) * cell.size := Nat.le_mul_of_pos_left _ (by omega)
    have rest : (count + 1) * cell.size - cell.size = count * cell.size := by rw [Nat.succ_mul, Nat.add_sub_cancel]
    rw [cells, cells, take_take, Nat.min_eq_left le, drop_take, rest, ih]

theorem mmapArray_bounds {α : Type} (cell : Cell α) (small : data.length < 2 ^ 63) (count : Nat) :
    Bounds.mmapArray cell count data = mmapArray cell count data := by
  unfold Bounds.mmapArray mmapArray getArray
  by_cases many : count > data.length / cell.size
  · rw [if_pos many, if_pos many]
  · have fits : count * cell.size ≤ data.length :=
      (Nat.le_div_iff_mul_le cell.size_pos).mp (Nat.not_lt.mp many)
    -- neither the product nor its alignment leaves 64 bits
    have aligned : Bounds.alignMmapOffset (count * cell.size % 2 ^ 64) = align (count * cell.size) := by
      rw [Bounds.alignMmapOffset, Nat.mod_eq_of_lt (by omega), Nat.mod_eq_of_lt (by omega), align]
    rw [if_neg many, if_neg many]
    rw [aligned]
    by_cases long : align (count * cell.size) > data.length
    · rw [if_pos long, if_pos long]
    · rw [if_neg long, if_neg long, sliceFrom_eq (by omega)]
      split
      next isZero =>
        subst isZero
        rfl
      next positive =>
        have atLeast : cell.size ≤ count * cell.size := Nat.le_mul_of_pos_left _ (by omega)
        have sizePositive := cell.size_pos
        rw [slice_eq (by omega) (by omega), slice_eq (by omega) fits]
        change Except.ok (cells cell count (data.take (count * cell.size)), _) = _
        rw [cells_take]

/-- Two readers that cannot be told apart on data of less than 2^63 bytes, and leave no more
than they were given. -/
def SameBelow {α : Type} (reader other : Reader α) : Prop :=
  ∀ data : Bytes, data.length < 2 ^ 63 → reader.run data = other.run data ∧
    ∀ value rest, other.run data = .ok (value, rest) → rest.length < 2 ^ 63

namespace SameBelow

variable {α β : Type} {reader other : Reader α} {next : α → Reader β}

theorem bind {otherNext : α → Reader β} (same : SameBelow reader other)
    (nextSame : ∀ value, SameBelow (next value) (otherNext value)) :
    SameBelow (reader >>= next) (other >>= otherNext) := by
  intro data small
  obtain ⟨isSame, smaller⟩ := same data small
  rw [StateT.run_bind, StateT.run_bind, isSame]
  generalize other.run data = result at smaller
  cases result with
  | error err => exact ⟨rfl, fun _ _ failed => nomatch failed⟩
  | ok answer => exact nextSame answer.1 answer.2 (smaller _ _ rfl)

theorem run'_eq (same : SameBelow reader other) (small : data.length < 2 ^ 63) :
    reader.run' data = other.run' data := congrArg (Prod.fst <$> ·) (same data small).1

theorem of_ok {value : α} {other : Reader β} (same : SameBelow (next value) other) :
    SameBelow (liftM (Except.ok value : Except ReadError α) >>= next) other := same

theorem refl_of_keeps (keeps : ∀ data value rest, reader.run data = .ok (value, rest) → rest = data) :
    SameBelow reader reader := by
  intro data small
  refine ⟨rfl, fun value rest answer => ?_⟩
  rwa [keeps data value rest answer]

theorem pure (value : α) : SameBelow (Pure.pure value) (Pure.pure value) := by
  refine refl_of_keeps ?_
  intro data result rest answer
  cases answer
  rfl

theorem mmapArray (cell : Cell α) (count : Nat) : SameBelow (Bounds.mmapArray cell count) (mmapArray cell count) := by
  intro data small
  refine ⟨mmapArray_bounds cell small count, ?_⟩
  intro value rest answer
  simp only [Srs.mmapArray, getArray, StateT.run] at answer
  split at answer
  next result isSome =>
    cases answer
    split at isSome
    · cases isSome
    · split at isSome
      · cases isSome
      · cases isSome
        rw [length_drop]
        omega
  · cases answer

end SameBelow

theorem counts_bounds {bytes : Bytes} {indices : List Nat} (inside : ∀ index ∈ indices, index * 8 + 8 ≤ bytes.length) :
    Bounds.counts order bytes indices = .ok (indices.map fun index => wordAt order bytes (index * 8)) := by
  induction indices with
  | nil => rfl
  | cons index indices ih =>
    rw [Bounds.counts, uint64_sliceFrom (inside index (by simp)),
      ih fun other isMember => inside other (by simp [isMember])]
    rfl

theorem readSuccinctMmap_bounds (small : data.length < 2 ^ 63) :
    Bounds.readSuccinctMmap order data = readSuccinctMmap order data := by
  unfold Bounds.readSuccinctMmap readSuccinctMmap
  split
  · rfl
  next long =>
    have same : SameBelow (Bounds.succinctArrays order ([0, 1, 2, 3, 4].map fun index => wordAt order data (index * 8)))
        (succinctArrays order fun index => wordAt order data (index * 8)) :=
      (SameBelow.mmapArray _ _).bind fun _ => (SameBelow.mmapArray _ _).bind fun _ =>
        (SameBelow.mmapArray _ _).bind fun _ => (SameBelow.mmapArray _ _).bind fun _ =>
          (SameBelow.mmapArray _ _).bind fun _ => .pure _
    rw [counts_bounds (by simp; omega), sliceFrom_eq (by omega)]
    exact same.run'_eq (by rw [length_drop]; omega)

theorem readIPSet_bounds (small : data.length < 2 ^ 63) : Bounds.readIPSet order data = readMmapIPSet order data := by
  unfold Bounds.readIPSet readMmapIPSet
  split
  · rfl
  next long =>
    have same : SameBelow (Bounds.rangeArrays order data) (rangeArrays order fun index => wordAt order data (index * 8)) := by
      unfold Bounds.rangeArrays
      rw [@uint64In_eq order data 0 (by omega), @uint64In_eq order data 8 (by omega)]
      refine .of_ok ((SameBelow.mmapArray _ _).bind fun ranges4 => .of_ok ((SameBelow.mmapArray _ _).bind fun ranges6 => ?_))
      refine SameBelow.refl_of_keeps ?_
      intro rest set left answer
      split at answer <;> cases answer
      rfl
    rw [sliceFrom_eq (by omega)]
    exact same.run'_eq (by rw [length_drop]; omega)

theorem mmapSection_length {offset length : Nat} {part : Bytes}
    (isSection : mmapSection data offset length = .ok part) : part.length ≤ data.length ∧ part.length = length := by
  unfold mmapSection at isSection
  split at isSection
  · cases isSection
  next inside =>
    cases isSection
    rw [length_take, length_drop]
    omega

variable {reader : MmapReader}

theorem blobAt_bounds (small : reader.data.length < 2 ^ 63) (kind index : Nat) :
    Bounds.blobAt order reader kind index = reader.blobAt order kind index := by
  unfold Bounds.blobAt MmapReader.blobAt
  split
  · rfl
  · by_cases inside : index * mmapBlobEntrySize % 2 ^ 64 ≤ reader.blobTable.length
    · rw [sliceFrom_eq inside]
      generalize reader.blobTable.drop (index * mmapBlobEntrySize % 2 ^ 64) = entry
      change (Bounds.uint64In order entry 0 8 >>= _) = _
      by_cases noKind : entry.length < 8
      · rw [if_pos noKind, Bounds.uint64In, slice_eq_error (by omega)]
        rfl
      · rw [if_neg noKind, @uint64In_eq order entry 0 (by omega)]
        change (if wordAt order entry 0 ≠ kind then _ else _) = _
        by_cases otherKind : wordAt order entry 0 ≠ kind
        · rw [if_pos otherKind, if_pos otherKind]
        · rw [if_neg otherKind, if_neg otherKind]
          by_cases noPlace : entry.length < 16
          · rw [if_pos (by omega), Bounds.uint64In, slice_eq_error (by omega)]
            rfl
          · rw [@uint64In_eq order entry 8 (by omega)]
            by_cases noLength : entry.length < 24
            · rw [if_pos noLength, Bounds.uint64In, slice_eq_error (by omega)]
              rfl
            · rw [if_neg noLength, @uint64In_eq order entry 16 (by omega)]
              exact mmapSection_bounds small _ _
    · rw [sliceFrom, slice_eq_error (by omega), drop_eq_nil_of_le (by omega)]
      rfl

theorem blobAt_length {kind index : Nat} {bytes : Bytes}
    (isBlob : reader.blobAt order kind index = .ok bytes) : bytes.length ≤ reader.data.length := by
  unfold MmapReader.blobAt at isBlob
  split at isBlob
  · cases isBlob
  · dsimp only at isBlob
    split at isBlob
    · cases isBlob
    · split at isBlob
      · cases isBlob
      · split at isBlob
        · cases isBlob
        · exact (mmapSection_length isBlob).1

theorem blob_bounds {α : Type} (small : reader.data.length < 2 ^ 63) (kind : Nat)
    {make otherMake : Bytes → Except ReadError α}
    (same : ∀ bytes : Bytes, bytes.length < 2 ^ 63 → make bytes = otherMake bytes) :
    Bounds.blob order reader kind make = reader.blob order kind otherMake := by
  unfold Bounds.blob MmapReader.blob
  congr 1
  funext index
  rw [blobAt_bounds small]
  cases isBlob : reader.blobAt order kind index with
  | error err => rfl
  | ok bytes =>
    have length := blobAt_length isBlob
    change (liftM (make bytes) : Reader α) = liftM (otherMake bytes)
    rw [same bytes (by omega)]

end Implied

section File

variable {matchers : Matchers} (libraries : MmapLibraries matchers)

theorem source_bounds {reader : MmapReader} (small : reader.data.length < 2 ^ 63) :
    Bounds.source libraries reader = mmapSource libraries reader := by
  unfold Bounds.source mmapSource
  rw [blob_bounds small 2 fun bytes short => readIPSet_bounds short,
    blob_bounds small 1 fun bytes short => by rw [readSuccinctMmap_bounds short],
    blob_bounds small 1 fun bytes short => by rw [readSuccinctMmap_bounds short]]

/-- With all its checks, the file is read as without them. -/
theorem readMmap_eq {data : Bytes} (small : data.length < 2 ^ 63) :
    Bounds.ReadMmap libraries data = ReadMmap libraries data := by
  unfold Bounds.ReadMmap ReadMmap
  dsimp only
  by_cases short : data.length < mmapHeaderSize
  · rw [if_pos short, if_pos short]
  · have header : 40 ≤ data.length := Nat.not_lt.mp short
    rw [if_neg short, if_neg short, @slice_eq data 0 4 (by omega) (by omega)]
    change (if data.take 4 ≠ mmapMagic then _ else _) = _
    congr 1
    have version : (slice data 4 8 >>= Bounds.uint32 libraries.order) = .ok (libraries.order.get ((data.drop 4).take 4)) := by
      rw [slice_eq (by omega) (by omega)]
      change (slice _ 0 4 >>= _) = _
      rw [slice_eq (by omega) (by rw [length_take, length_drop]; omega)]
      simp only [drop_zero, take_take]
      rfl
    rw [version]
    change (if _ then _ else _) = _
    congr 1
    rw [@uint64In_eq _ data 16 (by omega), @uint64In_eq _ data 24 (by omega), @uint64In_eq _ data 32 (by omega),
      @uint64In_eq _ data 8 (by omega)]
    change (Bounds.mmapSection data mmapHeaderSize _ >>= _) = _
    rw [mmapSection_bounds small]
    refine bind_congr fun rules => ?_
    rw [mmapSection_bounds small]
    refine bind_congr fun table => ?_
    have sameSource := @source_bounds _ libraries ⟨data, table, wordAt libraries.order data 32⟩ small
    rw [← sameSource]
    rfl

end File

end SingBox.Srs
