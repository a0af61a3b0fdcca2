import SingBox.Lib.Layout
import SingBox.Srs.File

/-! # Memory-mapped rule sets

`common/srs/mmap.go`. The rules are written as in a rule-set file, but matchers and address
sets are laid aside as blobs, which the rules name by index. A table behind the rules gives
the kind, the place and the length of each blob.
-/

namespace SingBox.Srs

open Lib.Bytes Lib.Codec Lib.Layout Options Nat

/-! ## Packages -/

/-- `domain.Mmap`, without its owner. -/
structure DomainMmap where
  leaves : List UInt64 := []
  labelBitmap : List UInt64 := []
  labels : Bytes := []
  ranks : List Int32 := []
  selects : List Int32 := []

/-- The packages with what a mapped file uses of them: a matcher can be made from its
arrays, and a matcher for old clients accepts the same names. -/
structure MmapLibraries (matchers : Matchers) extends Packages matchers where
  /-- `binary.NativeEndian`. -/
  order : ByteOrder
  mmap : matchers.Domain → DomainMmap
  newMatcherFromMmap : DomainMmap → Except String matchers.Domain
  newMatcherFromMmap_mmap : ∀ matcher, newMatcherFromMmap (mmap matcher) = .ok matcher
  mmapAdGuard : matchers.AdGuard → DomainMmap
  newAdGuardMatcherFromMmap : DomainMmap → Except String matchers.AdGuard
  newAdGuardMatcherFromMmap_mmap : ∀ matcher, newAdGuardMatcherFromMmap (mmapAdGuard matcher) = .ok matcher
  accepts_legacy : ∀ domains suffixes, accepts (newMatcher domains suffixes true) = accepts (newMatcher domains suffixes false)

/-! ## Memory -/

variable (order : ByteOrder)

def uint64Cell : Cell UInt64 :=
  .number order 8 (by decide) UInt64.toNat UInt64.ofNat UInt64.toNat_lt fun _ => UInt64.ofNat_toNat

def int32Cell : Cell Int32 :=
  .number order 4 (by decide) (fun value => value.toUInt32.toNat) (fun value => (UInt32.ofNat value).toInt32)
    (fun value => value.toUInt32.toNat_lt) fun value => by rw [UInt32.ofNat_toNat]; rfl

def byteCell : Cell UInt8 :=
  .number .big 1 (by decide) UInt8.toNat UInt8.ofNat UInt8.toNat_lt fun _ => UInt8.ofNat_toNat

/-- `Range4`: two `uint32`. -/
def range4Cell : Cell (Ipset.Range 32) :=
  let addr : Cell (BitVec 32) := .number order 4 (by decide) BitVec.toNat (BitVec.ofNat 32) (fun value => value.isLt)
    fun value => BitVec.ofNat_toNat 32 value
  addr.pair addr Ipset.Range.mk Ipset.Range.fromAddr Ipset.Range.toAddr fun _ => rfl

/-- `Range6`: two `[16]byte`. -/
def range6Cell : Cell (Ipset.Range 128) :=
  let addr : Cell (BitVec 128) := .number .big 16 (by decide) BitVec.toNat (BitVec.ofNat 128) (fun value => value.isLt)
    fun value => BitVec.ofNat_toNat 128 value
  addr.pair addr Ipset.Range.mk Ipset.Range.fromAddr Ipset.Range.toAddr fun _ => rfl

variable (values : List Nat)

/-- `writeMmapUint64`. -/
def words : Bytes := values.flatMap (order.put 8)

/-- The word at an offset. -/
def wordAt (data : Bytes) (offset : Nat) : Nat := order.get ((data.drop offset).take 8)

/-! ## Writing -/

inductive Blob where
  | succinct (mmap : DomainMmap)
  | ipSet (set : Ipset.Set)

namespace Blob

def kind : Blob → Nat
  | .succinct _ => 1
  | .ipSet _ => 2

def size : Blob → Nat
  | .succinct mmap =>
    40 + mmap.leaves.length * 8 + mmap.labelBitmap.length * 8 + align mmap.labels.length + align (mmap.ranks.length * 4) +
      align (mmap.selects.length * 4)
  | .ipSet set => 16 + set.ranges4.length * 8 + set.ranges6.length * 32

def write : Blob → Bytes
  | .succinct mmap =>
    words order [mmap.leaves.length, mmap.labelBitmap.length, mmap.labels.length, mmap.ranks.length, mmap.selects.length] ++
      (putArray (uint64Cell order) mmap.leaves ++ (putArray (uint64Cell order) mmap.labelBitmap ++
        (putArray byteCell mmap.labels ++ (putArray (int32Cell order) mmap.ranks ++ putArray (int32Cell order) mmap.selects))))
  | .ipSet set =>
    words order [set.ranges4.length, set.ranges6.length] ++
      (putArray (range4Cell order) set.ranges4 ++ putArray range6Cell set.ranges6)

end Blob

def mmapMagic : Bytes := [0x53, 0x52, 0x53, 0x4d]

def mmapFormatVersion : Nat := 1

def mmapHeaderSize : Nat := 40

def mmapBlobEntrySize : Nat := 24

variable {matchers : Matchers} (libraries : MmapLibraries matchers)

/-- Lay a blob aside and write its index. -/
def layAside (blob : Blob) : Put Blob Bytes := fun blobs => .ok (uvarint blobs.length, blobs ++ [blob])

def mmapSink : Sink matchers Blob where
  isMmap := true
  writeMatcher := fun matcher => layAside (.succinct (libraries.mmap matcher))
  writeAdGuardMatcher := fun matcher => layAside (.succinct (libraries.mmapAdGuard matcher))
  writeIPSet := fun set => layAside (.ipSet set)

/-- The entries of the blobs from a place on. -/
def blobTable (order : ByteOrder) : Nat → List Blob → Bytes
  | _, [] => []
  | blobOffset, blob :: blobs =>
    words order [blob.kind, blobOffset, blob.size] ++ blobTable order (blobOffset + blob.size) blobs

variable (version : UInt8)

def mmapHeader (rulesLength blobTableOffset blobCount : Nat) : Bytes :=
  mmapMagic ++ order.put 4 mmapFormatVersion ++ words order [version.toNat, rulesLength, blobTableOffset, blobCount]

/-- The file for a stream of rules and the blobs it names. -/
def mmapLayout (rules : Bytes) (blobs : List Blob) : Bytes :=
  let rulesEnd := mmapHeaderSize + rules.length
  let blobTableOffset := align rulesEnd
  mmapHeader order version rules.length blobTableOffset blobs.length ++ rules ++ zeros (blobTableOffset - rulesEnd) ++
    blobTable order (blobTableOffset + blobs.length * mmapBlobEntrySize) blobs ++ blobs.flatMap (Blob.write order)

def WriteMmap (ruleSet : PlainRuleSet matchers) (version : UInt8) : Except String Bytes :=
  match writeRules libraries.toPackages (mmapSink libraries) version ruleSet.rules [] with
  | .error err => .error err
  | .ok (bytes, blobs) => .ok (mmapLayout libraries.order version (uvarint ruleSet.rules.length ++ bytes) blobs)

/-! ## Reading -/

def mmapSection (data : Bytes) (offset length : Nat) : Except ReadError Bytes :=
  if offset % 8 ≠ 0 ∨ offset > data.length ∨ length > data.length - offset then
    .error (.invalid "rule-set mmap section out of bounds")
  else .ok ((data.drop offset).take length)

/-- Arrays are taken from the front of what is left of a blob. -/
def mmapArray {α : Type} (cell : Cell α) (count : Nat) : Reader (List α) := fun data =>
  match getArray cell data count with
  | some result => .ok result
  | none => .error (.invalid "rule-set mmap array out of bounds")

structure MmapReader where
  data : Bytes
  blobTable : Bytes
  blobCount : Nat

/-- A slice expression beyond the end of the slice panics. -/
def outOfRange : ReadError := .outOfRange

variable (reader : MmapReader)

/-- The bytes of a blob. -/
def MmapReader.blobAt (kind index : Nat) : Except ReadError Bytes :=
  if index ≥ reader.blobCount then .error (.invalid "rule-set mmap blob index out of range")
  else
    let entry := reader.blobTable.drop (index * mmapBlobEntrySize % 2 ^ 64)
    if entry.length < 8 then .error outOfRange
    else if wordAt order entry 0 ≠ kind then .error (.invalid "rule-set mmap blob kind mismatch")
    else if entry.length < 24 then .error outOfRange
    else mmapSection reader.data (wordAt order entry 8) (wordAt order entry 16)

/-- Read the index of a blob, then make something of its bytes. -/
def MmapReader.blob {α : Type} (order : ByteOrder) (reader : MmapReader) (kind : Nat)
    (make : Bytes → Except ReadError α) :
    Reader α := do
  let index ← readUvarint
  let blob ← reader.blobAt order kind index
  make blob

def errTruncated : ReadError := .invalid "rule-set mmap blob truncated"

variable (count : Nat → Nat)

/-- The arrays of a matcher, whose lengths are the words before them. -/
def succinctArrays : Reader DomainMmap := do
  let leaves ← mmapArray (uint64Cell order) (count 0)
  let labelBitmap ← mmapArray (uint64Cell order) (count 1)
  let labels ← mmapArray byteCell (count 2)
  let ranks ← mmapArray (int32Cell order) (count 3)
  let selects ← mmapArray (int32Cell order) (count 4)
  return { leaves, labelBitmap, labels, ranks, selects }

def readSuccinctMmap (blob : Bytes) : Except ReadError DomainMmap :=
  if blob.length < 40 then .error errTruncated
  else (succinctArrays order fun index => wordAt order blob (index * 8)).run' (blob.drop 40)

def rangeArrays : Reader Ipset.Set := do
  let ranges4 ← mmapArray (range4Cell order) (count 0)
  let ranges6 ← mmapArray range6Cell (count 1)
  match Ipset.fromRanges ranges4 ranges6 with
  | .ok set => return set
  | .error message => fail (.invalid message)

def readMmapIPSet (blob : Bytes) : Except ReadError Ipset.Set :=
  if blob.length < 16 then .error errTruncated
  else (rangeArrays order fun index => wordAt order blob (index * 8)).run' (blob.drop 16)

def mmapSource : Source matchers where
  readMatcher := reader.blob libraries.order 1 fun blob => do
    let mmap ← readSuccinctMmap libraries.order blob
    (libraries.newMatcherFromMmap mmap).mapError .invalid
  readAdGuardMatcher := reader.blob libraries.order 1 fun blob => do
    let mmap ← readSuccinctMmap libraries.order blob
    (libraries.newAdGuardMatcherFromMmap mmap).mapError .invalid
  readIPSet := reader.blob libraries.order 2 (readMmapIPSet libraries.order)

def ReadMmap (data : Bytes) : Except ReadError (PlainRuleSetCompat matchers) :=
  let word := wordAt libraries.order data
  if data.length < mmapHeaderSize then .error (.invalid "truncated rule-set mmap")
  else if data.take 4 ≠ mmapMagic then .error (.invalid "invalid rule-set mmap")
  else if libraries.order.get ((data.drop 4).take 4) ≠ mmapFormatVersion then
    .error (.invalid "unsupported rule-set mmap version")
  else do
    let rules ← mmapSection data mmapHeaderSize (word 16)
    let blobTable ← mmapSection data (word 24) (word 32 * mmapBlobEntrySize % 2 ^ 64)
    let reader : MmapReader := { data, blobTable, blobCount := word 32 }
    let (rules, _) ← readRules libraries.toPackages (mmapSource libraries reader) false rules
    return { version := UInt8.ofNat (word 8), rules }

/-! ## Words and blobs -/

open List

variable (order : ByteOrder)

@[simp] theorem length_words : (words order values).length = values.length * 8 := by
  induction values with
  | nil => rfl
  | cons value values ih =>
    rw [words, flatMap_cons, length_append, ByteOrder.length_put, ← words, ih, length_cons]
    omega

theorem wordAt_words {values : List Nat} {index value : Nat} (isValue : values[index]? = some value)
    (bound : value < 2 ^ 64) (rest : Bytes) : wordAt order (words order values ++ rest) (index * 8) = value := by
  unfold wordAt
  induction values generalizing index with
  | nil => cases isValue
  | cons first values ih =>
    rw [words, flatMap_cons, append_assoc, ← words]
    cases index with
    | zero =>
      cases isValue
      rw [zero_mul, drop_zero, take_left' (order.length_put 8 _), order.get_put bound]
    | succ index =>
      rw [drop_append, drop_eq_nil_of_le (by simp), nil_append, ByteOrder.length_put,
        Nat.succ_mul, Nat.add_sub_cancel]
      exact ih isValue

theorem Blob.length_write (blob : Blob) : (blob.write order).length = blob.size := by
  have double (count : Nat) : align (count * 8) = count * 8 := align_of_dvd (dvd_mul_left 8 count)
  have wide (count : Nat) : align (count * 32) = count * 32 := align_of_dvd ⟨count * 4, by omega⟩
  cases blob with
  | succinct mmap =>
    simp only [write, size, length_append, length_words, length_putArray, length_cons, length_nil,
      uint64Cell, byteCell, int32Cell, Cell.number, double, mul_one]
    omega
  | ipSet set =>
    simp only [write, size, length_append, length_words, length_putArray, length_cons, length_nil,
      range4Cell, range6Cell, Cell.pair, Cell.number, reduceAdd, double, wide]
    omega

theorem Blob.dvd_size (blob : Blob) : 8 ∣ blob.size := by
  cases blob with
  | succinct mmap =>
    have labels := dvd_align mmap.labels.length
    have ranks := dvd_align (mmap.ranks.length * 4)
    have selects := dvd_align (mmap.selects.length * 4)
    simp only [size]
    omega
  | ipSet set =>
    simp only [size]
    omega

variable {α : Type} {rules : Bytes} {final : List Blob} {rulesLength : Nat}

theorem reads_mmapArray (cell : Cell α) {values : List α} {count : Nat} (isCount : count = values.length) :
    Reads (mmapArray cell count) (putArray cell values) values := by
  intro rest
  subst isCount
  change (match getArray cell (putArray cell values ++ rest) values.length with | some result => _ | none => _) = _
  rw [getArray_putArray]

/-- The value that a reader makes of exactly these bytes. -/
theorem Reads.run'_eq {reader : Reader α} {bytes : Bytes} {value : α} (reads : Reads reader bytes value) :
    reader.run' bytes = .ok value := by
  have run := reads []
  rw [append_nil] at run
  rw [StateT.run'_eq, run]
  rfl

section Blobs

variable {order : ByteOrder}

theorem readSuccinctMmap_write {mmap : DomainMmap} (bound : (Blob.succinct mmap).size < 2 ^ 63) :
    readSuccinctMmap order ((Blob.succinct mmap).write order) = .ok mmap := by
  have labels := le_align mmap.labels.length
  have ranks := le_align (mmap.ranks.length * 4)
  have selects := le_align (mmap.selects.length * 4)
  have length := Blob.length_write order (.succinct mmap)
  simp only [Blob.size] at bound length
  have counts {index value : Nat} (isCount : [mmap.leaves.length, mmap.labelBitmap.length, mmap.labels.length,
      mmap.ranks.length, mmap.selects.length][index]? = some value) (small : value < 2 ^ 64) :
      wordAt order ((Blob.succinct mmap).write order) (index * 8) = value := wordAt_words order isCount small _
  unfold readSuccinctMmap
  rw [if_neg (by omega), Blob.write, drop_left' (by simp), ← Blob.write]
  refine Reads.run'_eq ?_
  refine .bind (reads_mmapArray _ (counts rfl (by omega))) ?_
  refine .bind (reads_mmapArray _ (counts rfl (by omega))) ?_
  refine .bind (reads_mmapArray _ (counts rfl (by omega))) ?_
  refine .bind (reads_mmapArray _ (counts rfl (by omega))) ?_
  exact (reads_mmapArray _ (counts rfl (by omega))).map _

theorem readMmapIPSet_write {set : Ipset.Set} (bound : (Blob.ipSet set).size < 2 ^ 63) :
    readMmapIPSet order ((Blob.ipSet set).write order) = .ok set := by
  have length := Blob.length_write order (.ipSet set)
  simp only [Blob.size] at bound length
  have counts {index value : Nat} (isCount : [set.ranges4.length, set.ranges6.length][index]? = some value)
      (small : value < 2 ^ 64) : wordAt order ((Blob.ipSet set).write order) (index * 8) = value :=
    wordAt_words order isCount small _
  unfold readMmapIPSet
  rw [if_neg (by omega), Blob.write, drop_left' (by simp), ← Blob.write, ← append_nil (putArray range6Cell _)]
  refine Reads.run'_eq ?_
  refine .bind (reads_mmapArray _ (counts rfl (by omega))) ?_
  refine .bind (reads_mmapArray _ (counts rfl (by omega))) ?_
  rw [Ipset.fromRanges_ranges]
  exact .pure set

/-! ## The table -/

theorem mmapSection_between {data before part after : Bytes} {offset length : Nat}
    (isData : data = before ++ (part ++ after))
    (isOffset : before.length = offset) (isLength : part.length = length) (aligned : 8 ∣ offset) :
    mmapSection data offset length = .ok part := by
  subst isData isOffset isLength
  have inside : ¬(before.length % 8 ≠ 0 ∨ before.length > (before ++ (part ++ after)).length ∨
      part.length > (before ++ (part ++ after)).length - before.length) := by
    simp only [length_append]
    omega
  unfold mmapSection
  rw [if_neg inside, drop_left, take_left]

variable (blobs : List Blob)

/-- Where a blob starts, after those before it. -/
def blobsSize : Nat := (blobs.map Blob.size).sum

@[simp] theorem blobsSize_cons (blob : Blob) : blobsSize (blob :: blobs) = blob.size + blobsSize blobs := by
  simp [blobsSize]

theorem blobsSize_append (later : List Blob) : blobsSize (blobs ++ later) = blobsSize blobs + blobsSize later := by
  simp [blobsSize]

theorem length_writeBlobs : (blobs.flatMap (Blob.write order)).length = blobsSize blobs := by
  induction blobs with
  | nil => rfl
  | cons blob blobs ih =>
    rw [flatMap_cons, length_append, Blob.length_write, ih, blobsSize_cons]

theorem dvd_blobsSize : 8 ∣ blobsSize blobs := by
  induction blobs with
  | nil => exact dvd_zero 8
  | cons blob blobs ih =>
    rw [blobsSize_cons]
    exact Nat.dvd_add blob.dvd_size ih

@[simp] theorem length_blobTable (offset : Nat) (blobs : List Blob) :
    (blobTable order offset blobs).length = blobs.length * mmapBlobEntrySize := by
  induction blobs generalizing offset with
  | nil => simp [blobTable]
  | cons blob blobs ih =>
    rw [blobTable, length_append, ih, length_words, length_cons, mmapBlobEntrySize]
    simp only [length_cons, length_nil]
    omega

theorem drop_blobTable (offset : Nat) (first : List Blob) (blob : Blob) (later : List Blob) :
    ∃ rest, (blobTable order offset (first ++ blob :: later)).drop (first.length * mmapBlobEntrySize) =
      words order [blob.kind, offset + blobsSize first, blob.size] ++ rest := by
  induction first generalizing offset with
  | nil => exact ⟨blobTable order (offset + blob.size) later, by simp [blobTable, blobsSize]⟩
  | cons other first ih =>
    obtain ⟨rest, isEntry⟩ := ih (offset + other.size)
    refine ⟨rest, ?_⟩
    have skip : (other :: first).length * mmapBlobEntrySize =
        (words order [other.kind, offset, other.size]).length + first.length * mmapBlobEntrySize := by
      simp [mmapBlobEntrySize]
      omega
    rw [cons_append, blobTable, skip, drop_append, drop_eq_nil_of_le (by omega), Nat.add_sub_cancel_left,
      nil_append, isEntry, blobsSize_cons, Nat.add_assoc]

/-! ## The file -/

variable (version : UInt8)

theorem length_mmapHeader (rulesLength blobTableOffset blobCount : Nat) :
    (mmapHeader order version rulesLength blobTableOffset blobCount).length = mmapHeaderSize := by
  simp [mmapHeader, mmapMagic, mmapHeaderSize]

/-- Where the table starts. -/
def tableOffset (rules : Bytes) : Nat := align (mmapHeaderSize + rules.length)

/-- Everything before the table. -/
def mmapFront (order : ByteOrder) (version : UInt8) (rules : Bytes) (blobs : List Blob) : Bytes :=
  mmapHeader order version rules.length (tableOffset rules) blobs.length ++
    (rules ++ zeros (tableOffset rules - (mmapHeaderSize + rules.length)))

def layoutTable (order : ByteOrder) (rules : Bytes) (blobs : List Blob) : Bytes :=
  blobTable order (tableOffset rules + blobs.length * mmapBlobEntrySize) blobs

variable (order) in
theorem mmapLayout_eq (rules : Bytes) (blobs : List Blob) :
    mmapLayout order version rules blobs = mmapFront order version rules blobs ++
      (layoutTable order rules blobs ++ blobs.flatMap (Blob.write order)) := by
  simp [mmapLayout, mmapFront, layoutTable, tableOffset]

theorem length_mmapFront (rules : Bytes) (blobs : List Blob) :
    (mmapFront order version rules blobs).length = tableOffset rules := by
  have le : _ ≤ tableOffset rules := le_align (mmapHeaderSize + rules.length)
  rw [mmapFront, length_append, length_mmapHeader, length_append, length_zeros]
  omega

theorem length_mmapLayout (rules : Bytes) (blobs : List Blob) :
    (mmapLayout order version rules blobs).length =
      tableOffset rules + (blobs.length * mmapBlobEntrySize + blobsSize blobs) := by
  rw [mmapLayout_eq, length_append, length_mmapFront, length_append, layoutTable, length_blobTable, length_writeBlobs]

/-- What the reader of a file has. -/
def layoutReader (order : ByteOrder) (version : UInt8) (rules : Bytes) (blobs : List Blob) : MmapReader where
  data := mmapLayout order version rules blobs
  blobTable := layoutTable order rules blobs
  blobCount := blobs.length

/-- The offset of a blob in the file. -/
def blobOffset (rules : Bytes) (blobs first : List Blob) : Nat :=
  tableOffset rules + blobs.length * mmapBlobEntrySize + blobsSize first

theorem mmapSection_blob (rules : Bytes) (first : List Blob) (blob : Blob) (later : List Blob) :
    mmapSection (mmapLayout order version rules (first ++ blob :: later))
      (blobOffset rules (first ++ blob :: later) first) blob.size = .ok (blob.write order) := by
  -- the file in three parts: everything before the blob, the blob, everything after it
  have parts : mmapLayout order version rules (first ++ blob :: later) =
      (mmapFront order version rules (first ++ blob :: later) ++
        (layoutTable order rules (first ++ blob :: later) ++ first.flatMap (Blob.write order))) ++
        (blob.write order ++ later.flatMap (Blob.write order)) := by
    rw [mmapLayout_eq, flatMap_append, flatMap_cons]
    simp
  refine mmapSection_between parts ?_ (Blob.length_write order blob) ?_
  · rw [length_append, length_mmapFront, length_append, layoutTable, length_blobTable, length_writeBlobs, blobOffset,
      Nat.add_assoc]
  · exact Nat.dvd_add (Nat.dvd_add (dvd_align _) (Dvd.dvd.mul_left (by decide) _)) (dvd_blobsSize first)

theorem blobAt_layoutReader {version : UInt8} (first : List Blob) (blob : Blob) (later : List Blob)
    (fits : (mmapLayout order version rules (first ++ blob :: later)).length < 2 ^ 63) :
    (layoutReader order version rules (first ++ blob :: later)).blobAt order blob.kind first.length =
      .ok (blob.write order) := by
  rw [length_mmapLayout, blobsSize_append, blobsSize_cons] at fits
  have offsetFits : blobOffset rules (first ++ blob :: later) first < 2 ^ 64 := by
    unfold blobOffset
    omega
  have small : first.length * mmapBlobEntrySize % 2 ^ 64 = first.length * mmapBlobEntrySize := by
    rw [length_append, length_cons] at fits
    exact mod_eq_of_lt (by unfold mmapBlobEntrySize at fits ⊢; omega)
  obtain ⟨rest, isEntry⟩ := @drop_blobTable order (tableOffset rules +
    (first ++ blob :: later).length * mmapBlobEntrySize) first blob later
  rw [← blobOffset, ← layoutTable] at isEntry
  have word {index value : Nat} (isWord : [blob.kind, blobOffset rules (first ++ blob :: later) first, blob.size][index]? =
      some value) (bound : value < 2 ^ 64) := wordAt_words order isWord bound rest
  have kind : wordAt order _ (0 * 8) = blob.kind := word rfl (by cases blob <;> simp [Blob.kind])
  have offset : wordAt order _ (1 * 8) = _ := word rfl offsetFits
  have length : wordAt order _ (2 * 8) = blob.size := word rfl (by omega)
  unfold MmapReader.blobAt
  rw [if_neg (by simp [layoutReader])]
  dsimp only [layoutReader]
  rw [small, isEntry, if_neg (by simp; omega), if_neg (not_not_intro kind), if_neg (by simp), offset, length]
  exact mmapSection_blob version rules first blob later

theorem reads_blob {version : UInt8} {before : List Blob} {blob : Blob}
    (fits : (mmapLayout order version rules final).length < 2 ^ 63) (kept : before ++ [blob] <+: final)
    {make : Bytes → Except ReadError α} {value : α}
    (isMade : blob.size < 2 ^ 63 → make (blob.write order) = .ok value) :
    Reads ((layoutReader order version rules final).blob order blob.kind make) (uvarint before.length) value := by
  obtain ⟨later, rfl⟩ := kept
  rw [append_assoc, singleton_append] at fits ⊢
  have found := blobAt_layoutReader before blob later fits
  rw [length_mmapLayout, length_append, length_cons, blobsSize_append, blobsSize_cons] at fits
  unfold mmapBlobEntrySize at fits
  have reads := @Reads.bind _ _ _ (fun index => do
    let bytes ← (layoutReader order version rules (before ++ blob :: later)).blobAt order blob.kind index
    make bytes) _ [] _ value (@reads_uvarint before.length (by omega)) (by
      rw [found]
      intro rest
      change (make (blob.write order) >>= fun value => pure (value, rest)) = _
      rw [isMade (by omega)]
      rfl)
  rwa [append_nil] at reads

end Blobs

variable {libraries} {version : UInt8} {blobTableOffset : Nat}

theorem mmap_readBy (fits : (mmapLayout libraries.order version rules final).length < 2 ^ 63) :
    ReadBy (mmapSink libraries) (mmapSource libraries (layoutReader libraries.order version rules final)) final where
  matcher := by
    intro matcher before bytes after ok
    cases ok
    refine ⟨prefix_append _ _, fun kept => reads_blob fits kept fun bound => ?_⟩
    rw [readSuccinctMmap_write bound]
    change (libraries.newMatcherFromMmap (libraries.mmap matcher)).mapError _ = _
    rw [libraries.newMatcherFromMmap_mmap]
    rfl
  adGuardMatcher := by
    intro matcher before bytes after ok
    cases ok
    refine ⟨prefix_append _ _, fun kept => reads_blob fits kept fun bound => ?_⟩
    rw [readSuccinctMmap_write bound]
    change (libraries.newAdGuardMatcherFromMmap (libraries.mmapAdGuard matcher)).mapError _ = _
    rw [libraries.newAdGuardMatcherFromMmap_mmap]
    rfl
  ipSet := by
    intro set before bytes after ok
    cases ok
    exact ⟨prefix_append _ _, fun kept _ => reads_blob fits kept readMmapIPSet_write⟩

theorem wordAt_mmapHeader {order : ByteOrder} {blobCount index value : Nat}
    (isWord : [version.toNat, rulesLength, blobTableOffset, blobCount][index]? = some value) (bound : value < 2 ^ 64)
    (body : Bytes) :
    wordAt order (mmapHeader order version rulesLength blobTableOffset blobCount ++ body) (8 + index * 8) = value := by
  rw [mmapHeader, wordAt, append_assoc, drop_append, drop_eq_nil_of_le (by simp [mmapMagic]), nil_append,
    show 8 + index * 8 - (mmapMagic ++ order.put 4 mmapFormatVersion).length = index * 8 by simp [mmapMagic]]
  exact wordAt_words order isWord bound _

theorem ReadMmap_header {blobCount : Nat} (rulesBound : rulesLength < 2 ^ 64)
    (tableBound : blobTableOffset < 2 ^ 64) (countBound : blobCount < 2 ^ 64) {data body : Bytes}
    (isData : data = mmapHeader libraries.order version rulesLength blobTableOffset blobCount ++ body) :
    ReadMmap libraries data = do
      let rules ← mmapSection data mmapHeaderSize rulesLength
      let blobTable ← mmapSection data blobTableOffset (blobCount * mmapBlobEntrySize % 2 ^ 64)
      let (rules, _) ← readRules libraries.toPackages (mmapSource libraries { data, blobTable, blobCount }) false rules
      return { version, rules } := by
  have word {index value : Nat} (isWord : [version.toNat, rulesLength, blobTableOffset, blobCount][index]? = some value)
      (bound : value < 2 ^ 64) : wordAt libraries.order data (8 + index * 8) = value := by
    rw [isData]
    exact wordAt_mmapHeader isWord bound body
  have versionWord : wordAt libraries.order data (8 + 0 * 8) = version.toNat :=
    word rfl (lt_trans version.toNat_lt (by decide))
  have rulesWord : wordAt libraries.order data (8 + 1 * 8) = rulesLength := word rfl rulesBound
  have tableWord : wordAt libraries.order data (8 + 2 * 8) = blobTableOffset := word rfl tableBound
  have countWord : wordAt libraries.order data (8 + 3 * 8) = blobCount := word rfl countBound
  have magic : data.take 4 = mmapMagic := by rw [isData]; rfl
  have format : libraries.order.get ((data.drop 4).take 4) = mmapFormatVersion := by
    rw [isData, mmapHeader]
    simp only [append_assoc]
    rw [drop_left' (show mmapMagic.length = 4 from rfl), take_left' (libraries.order.length_put 4 _),
      libraries.order.get_put (by decide)]
  have long : ¬data.length < mmapHeaderSize := by
    rw [isData, length_append, length_mmapHeader]
    omega
  unfold ReadMmap
  rw [if_neg long, if_neg (not_not_intro magic), if_neg (not_not_intro format), versionWord, rulesWord, tableWord, countWord,
    UInt8.ofNat_toNat]

theorem ReadMmap_layout {blobs : List Blob}
    (fits : (mmapLayout libraries.order version rules blobs).length < 2 ^ 63) :
    ReadMmap libraries (mmapLayout libraries.order version rules blobs) = do
      let (rules, _) ← readRules libraries.toPackages
        (mmapSource libraries (layoutReader libraries.order version rules blobs)) false rules
      return { version, rules } := by
  have le : _ ≤ tableOffset rules := le_align (mmapHeaderSize + rules.length)
  have length := fits
  rw [length_mmapLayout] at length
  simp only [mmapHeaderSize, mmapBlobEntrySize] at length le
  have parts := mmapLayout_eq libraries.order version rules blobs
  rw [mmapFront, append_assoc, append_assoc] at parts
  -- the places of the rules and of the table
  have rulesSection : mmapSection (mmapLayout libraries.order version rules blobs) mmapHeaderSize rules.length = .ok rules :=
    mmapSection_between parts (length_mmapHeader version _ _ _) rfl (by decide)
  have tableSection : mmapSection (mmapLayout libraries.order version rules blobs) (tableOffset rules)
      (blobs.length * mmapBlobEntrySize) = .ok (layoutTable libraries.order rules blobs) :=
    mmapSection_between (mmapLayout_eq _ _ _ _) (length_mmapFront version rules blobs) (length_blobTable _ _) (dvd_align _)
  rw [ReadMmap_header (by omega) (by omega) (by omega) parts,
    mod_eq_of_lt (by unfold mmapBlobEntrySize; omega), rulesSection, tableSection]
  rfl

end SingBox.Srs
