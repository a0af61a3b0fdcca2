import SingBox.Srs.MmapBounds

/-! # Which mapped files make the reader panic

If the length of the blob table does not wrap around, no file makes `ReadMmap` leave the
bounds of its data: every other length is compared with what is left before it is used. If
the length wraps around and the small remainder fits the file, then there is room for a rule
that names a blob behind the end of the table, and such a file panics.
-/

namespace SingBox.Srs

open Lib.Bytes Lib.Codec Lib.Layout Options List

/-! ## The rules -/

section Rules

variable {matchers : Matchers}

/-- The readers of matchers and address sets do not panic. -/
structure Source.Safe (source : Source matchers) : Prop where
  readMatcher : Lib.Codec.Safe source.readMatcher
  readAdGuardMatcher : Lib.Codec.Safe source.readAdGuardMatcher
  readIPSet : Lib.Codec.Safe source.readIPSet

theorem safe_readText : Safe readText := Safe.readUvarint.bind fun length => .readFull length

theorem safe_readRuleItemString : Safe readRuleItemString := .readCounted fun _ => safe_readText

theorem safe_readUint16s : Safe readUint16s := .readCounted fun _ => (Safe.readBigEndian 2).bind fun _ => .pure _

theorem safe_readBool : Safe readBool := Safe.readByte.bind fun _ => .pure _

theorem safe_readIPSetAddr : Safe readIPSetAddr :=
  Safe.readUvarint.bind fun length => .ite (fun _ => .fail rfl) fun _ => .readFull length

theorem safe_readPrefixes : Safe readPrefixes :=
  .readCounted fun _ => (safe_readIPSetAddr.bind fun _ => Safe.readByte.bind fun _ => .pure _).bind fun _ => .pure _

theorem safe_readAddressMap : Safe readAddressMap :=
  (Safe.readCounted fun _ => Safe.readByte.bind fun _ => safe_readPrefixes.bind fun _ => .pure _).bind fun _ => .pure _

theorem safe_readMode : Safe readMode :=
  Safe.readByte.bind fun _ => .ite (fun _ => .pure _) fun _ => .ite (fun _ => .pure _) fun _ => .fail rfl

theorem safe_named {α : Type} {reader : Reader α} (safe : Safe reader) (message : String) : Safe (named message reader) :=
  fun input => (safe input).mapError message

variable (packages : Packages matchers) {source : Source matchers} (recover : Bool)

section
variable (safe : source.Safe)
include safe

theorem safe_readItem (item : Item) (rule : Options.DefaultHeadlessRule matchers) :
    Safe (readItem packages source recover item rule) := by
  cases item with
  | domain => exact safe.readMatcher.bind fun _ => .pure _
  | adGuardDomain => exact safe.readAdGuardMatcher.bind fun _ => .pure _
  | sourceIPCIDR | ipCIDR => exact safe.readIPSet.bind fun _ => .pure _
  | queryType | sourcePort | port => exact safe_readUint16s.bind fun _ => .pure _
  | networkType => exact safe_readText.bind fun _ => .pure _
  | networkIsExpensive | networkIsConstrained => exact .pure _
  | networkInterfaceAddress => exact safe_readAddressMap.bind fun _ => .pure _
  | defaultInterfaceAddress => exact safe_readPrefixes.bind fun _ => .pure _
  | _ => exact safe_readRuleItemString.bind fun _ => .pure _

theorem safe_readDefaultRule : Safe (readDefaultRule packages source recover) := by
  refine .loop (fun state => Safe.readByte.bind fun itemType => .ite (fun _ => ?_) fun _ => ?_) _
  · exact safe_readBool.bind fun _ => .pure _
  · split
    · exact (safe_readItem packages recover safe _ _).bind fun _ => .pure _
    · exact .fail rfl

theorem safe_readRule (levels : Nat) : Safe (readRule packages source recover levels) := by
  induction levels with
  | zero => exact .fail rfl
  | succ levels ih =>
    refine Safe.readByte.bind fun ruleType => .ite (fun _ => ?_) fun _ => .ite (fun _ => ?_) fun _ => .fail rfl
    · exact (safe_readDefaultRule packages recover safe).bind fun _ => .pure _
    · exact safe_readMode.bind fun _ => (Safe.readCounted fun _ => safe_named ih _).bind fun _ =>
        safe_readBool.bind fun _ => .pure _

theorem safe_readRules : Safe (readRules packages source recover) :=
  .readCounted fun _ => safe_named (safe_readRule packages recover safe _) _

end

end Rules

/-! ## The blobs -/

section Blobs

variable {order : ByteOrder}

theorem returns_mmapSection (data : Bytes) (offset length : Nat) : Returns (mmapSection data offset length) :=
  .ite (fun _ => .error rfl) fun _ => .ok _

variable {α : Type} {reader : MmapReader}

theorem safe_mmapArray (cell : Cell α) (count : Nat) : Safe (mmapArray cell count) := by
  intro data
  change Returns (mmapArray cell count data)
  unfold mmapArray
  split
  · exact .ok _
  · exact .error rfl

theorem returns_run' {reader : Reader α} (safe : Safe reader) (data : Bytes) : Returns (reader.run' data) :=
  (safe data).bind fun _ _ => .ok _

theorem returns_readSuccinctMmap (blob : Bytes) : Returns (readSuccinctMmap order blob) := by
  refine .ite (fun _ => .error rfl) fun _ => returns_run' ?_ _
  exact (safe_mmapArray _ _).bind fun _ => (safe_mmapArray _ _).bind fun _ => (safe_mmapArray _ _).bind fun _ =>
    (safe_mmapArray _ _).bind fun _ => (safe_mmapArray _ _).bind fun _ => .pure _

theorem returns_readMmapIPSet (blob : Bytes) : Returns (readMmapIPSet order blob) := by
  refine .ite (fun _ => .error rfl) fun _ => returns_run' ?_ _
  refine (safe_mmapArray _ _).bind fun _ => (safe_mmapArray _ _).bind fun _ => ?_
  split
  · exact .pure _
  · exact .fail rfl

section
variable (whole : reader.blobTable.length = reader.blobCount * mmapBlobEntrySize)
  (fits : reader.blobCount * mmapBlobEntrySize < 2 ^ 64)
include whole fits

theorem returns_blobAt (kind index : Nat) : Returns (reader.blobAt order kind index) := by
  refine .ite (fun _ => .error rfl) fun isBlob => ?_
  have entry : 24 ≤ (reader.blobTable.drop (index * mmapBlobEntrySize % 2 ^ 64)).length := by
    simp only [mmapBlobEntrySize] at *
    rw [length_drop, whole, Nat.mod_eq_of_lt (by omega)]
    omega
  refine .ite (fun short => by omega) fun _ => .ite (fun _ => .error rfl) fun _ => .ite (fun short => by omega) fun _ => ?_
  exact returns_mmapSection _ _ _

theorem safe_blob (kind : Nat) {make : Bytes → Except ReadError α}
    (makes : ∀ bytes, Returns (make bytes)) : Safe (reader.blob order kind make) :=
  Safe.readUvarint.bind fun index => (Safe.lift (returns_blobAt whole fits kind index)).bind fun bytes => .lift (makes bytes)

end

end Blobs

section File

variable {matchers : Matchers} (libraries : MmapLibraries matchers) {reader : MmapReader}

theorem safe_mmapSource (whole : reader.blobTable.length = reader.blobCount * mmapBlobEntrySize)
    (fits : reader.blobCount * mmapBlobEntrySize < 2 ^ 64) : (mmapSource libraries reader).Safe where
  readMatcher := safe_blob whole fits 1 fun bytes =>
    (returns_readSuccinctMmap bytes).bind fun _ _ => .mapError_invalid _
  readAdGuardMatcher := safe_blob whole fits 1 fun bytes =>
    (returns_readSuccinctMmap bytes).bind fun _ _ => .mapError_invalid _
  readIPSet := safe_blob whole fits 2 returns_readMmapIPSet

/-- The number of blobs that the header gives. -/
def blobCount (data : Bytes) : Nat := wordAt libraries.order data 32

/-- The length of the blob table, as the reader computes it, is the length the table needs. -/
theorem readMmap_returns_of_fits {data : Bytes} (fits : blobCount libraries data * mmapBlobEntrySize < 2 ^ 64) :
    Returns (ReadMmap libraries data) := by
  refine .ite (fun _ => .error rfl) fun _ => .ite (fun _ => .error rfl) fun _ => .ite (fun _ => .error rfl) fun _ => ?_
  refine (returns_mmapSection _ _ _).bind fun rules _ => (returns_mmapSection _ _ _).bind fun table isTable => ?_
  have length := (mmapSection_length isTable).2
  rw [← blobCount, Nat.mod_eq_of_lt fits] at length
  have safe := @safe_mmapSource _ libraries ⟨data, table, blobCount libraries data⟩ length fits
  exact (safe_readRules libraries.toPackages false safe rules).bind fun _ _ => .ok _

def OutOfBounds (data : Bytes) (offset length : Nat) : Prop :=
  offset % 8 ≠ 0 ∨ offset > data.length ∨ length > data.length - offset

/-- A file that is refused by its header, before its rules are read. -/
def RefusedByHeader (data : Bytes) : Prop :=
  data.length < mmapHeaderSize ∨ data.take 4 ≠ mmapMagic ∨
    libraries.order.get ((data.drop 4).take 4) ≠ mmapFormatVersion ∨
    OutOfBounds data mmapHeaderSize (wordAt libraries.order data 16) ∨
    OutOfBounds data (wordAt libraries.order data 24) (blobCount libraries data * mmapBlobEntrySize % 2 ^ 64)

theorem inside_of_mmapSection {data part : Bytes} {offset length : Nat}
    (isSection : mmapSection data offset length = .ok part) : ¬OutOfBounds data offset length := by
  unfold OutOfBounds
  intro outside
  rw [mmapSection, if_pos outside] at isSection
  cases isSection

theorem readMmap_returns_of_refused {data : Bytes} (refused : RefusedByHeader libraries data) :
    Returns (ReadMmap libraries data) := by
  refine .ite (fun _ => .error rfl) fun long => .ite (fun _ => .error rfl) fun magic =>
    .ite (fun _ => .error rfl) fun version => ?_
  refine (returns_mmapSection _ _ _).bind fun rules isRules => (returns_mmapSection _ _ _).bind fun table isTable => ?_
  rcases refused with short | otherMagic | otherVersion | outside | outside
  · exact absurd short long
  · exact absurd otherMagic magic
  · exact absurd otherVersion version
  · exact absurd outside (inside_of_mmapSection isRules)
  · exact absurd outside (inside_of_mmapSection isTable)

/-! ## A file that panics -/

/-- The first rule of the file names a blob as its matcher. -/
def overrunRules (index : Nat) : Bytes := [1, 0, Item.domain.tag] ++ uvarint index

/-- The table starts with the header and has the length that is left of the product; the file
is just long enough for it. -/
def overrunFile (count : Nat) : Bytes :=
  let tableLength := count * mmapBlobEntrySize % 2 ^ 64
  let rules := overrunRules (tableLength / mmapBlobEntrySize + 1)
  mmapHeader libraries.order 1 rules.length 0 count ++ (rules ++ zeros (tableLength - (mmapHeaderSize + rules.length)))

theorem length_putUvarint (fuel number : Nat) : (putUvarint fuel number).length ≤ fuel := by
  induction fuel generalizing number with
  | zero => rfl
  | succ fuel ih =>
    rw [putUvarint]
    split
    · simp
    · simpa using ih _

theorem length_overrunRules (index : Nat) : (overrunRules index).length ≤ 13 := by
  have length := length_putUvarint maxVarintLen64 index
  rw [overrunRules, length_append, uvarint]
  simp only [maxVarintLen64, length_cons, length_nil] at *
  omega

section
variable {index : Nat} (small : index < 2 ^ 64) (isBlob : index < reader.blobCount)
  (behind : reader.blobTable.length ≤ index * mmapBlobEntrySize % 2 ^ 64)
include small isBlob behind

theorem panics_blob {α : Type} {order : ByteOrder} (kind : Nat)
    (make : Bytes → Except ReadError α) : Panics (reader.blob order kind make) (uvarint index) := by
  rw [← append_nil (uvarint index)]
  refine (reads_uvarint small).bind_panics (Panics.bind ?_ _)
  intro rest
  refine ⟨.outOfRange, ?_, rfl⟩
  unfold MmapReader.blobAt
  rw [if_neg (by omega)]
  rw [drop_eq_nil_of_le behind]
  rfl

theorem panics_overrunRules :
    Panics (readRules libraries.toPackages (mmapSource libraries reader) false) (overrunRules index) := by
  have matcher : Panics (mmapSource libraries reader).readMatcher (uvarint index) := panics_blob small isBlob behind 1 _
  have defaultRule : Panics (readDefaultRule libraries.toPackages (mmapSource libraries reader) false)
      ([Item.domain.tag] ++ uvarint index) := by
    refine Panics.loop ((reads_byte _).bind_panics ?_)
    exact (matcher.bind _).bind _
  have rule : Panics (readRule libraries.toPackages (mmapSource libraries reader) false (maxLogicalRuleDepth + 1))
      ([0] ++ ([Item.domain.tag] ++ uvarint index)) := by
    refine (reads_byte 0).bind_panics ?_
    exact defaultRule.bind _
  exact (reads_uvarint (show 1 < 2 ^ 64 by decide)).bind_panics (Panics.readManyFrom (rule.mapError _))

end

theorem overrunFile_panics {count : Nat} (bound : count < 2 ^ 64) (wraps : 2 ^ 64 ≤ count * mmapBlobEntrySize)
    (remainder : count * mmapBlobEntrySize % 2 ^ 64 < 2 ^ 63) :
    (overrunFile libraries count).length < 2 ^ 63 ∧ blobCount libraries (overrunFile libraries count) = count ∧
      ¬Returns (ReadMmap libraries (overrunFile libraries count)) := by
  obtain ⟨tableLength, isLength⟩ : ∃ length, length = count * mmapBlobEntrySize % 2 ^ 64 := ⟨_, rfl⟩
  obtain ⟨index, isIndex⟩ : ∃ index, index = tableLength / mmapBlobEntrySize + 1 := ⟨_, rfl⟩
  have isData : overrunFile libraries count = mmapHeader libraries.order 1 (overrunRules index).length 0 count ++
      (overrunRules index ++ zeros (tableLength - (mmapHeaderSize + (overrunRules index).length))) := by
    rw [isIndex, isLength]
    rfl
  have short := length_overrunRules index
  have isCount : blobCount libraries (overrunFile libraries count) = count := by
    exact @wordAt_mmapHeader _ _ _ _ _ 3 _ rfl bound _
  have length : (overrunFile libraries count).length =
      mmapHeaderSize + ((overrunRules index).length + (tableLength - (mmapHeaderSize + (overrunRules index).length))) := by
    rw [isData, length_append, length_append, length_mmapHeader, length_zeros]
  simp only [mmapHeaderSize, mmapBlobEntrySize] at length wraps isIndex ⊢
  refine ⟨by omega, isCount, ?_⟩
  have rulesSection : mmapSection (overrunFile libraries count) mmapHeaderSize (overrunRules index).length =
      .ok (overrunRules index) := mmapSection_between isData (length_mmapHeader _ _ _ _) rfl (by decide)
  have tableSection : mmapSection (overrunFile libraries count) 0 tableLength =
      .ok ((overrunFile libraries count).take tableLength) := by
    rw [mmapSection, if_neg (by omega)]
    rfl
  have behind : ((overrunFile libraries count).take tableLength).length ≤ index * mmapBlobEntrySize % 2 ^ 64 := by
    rw [length_take, mmapBlobEntrySize, Nat.mod_eq_of_lt (by omega)]
    omega
  obtain ⟨err, failed, isPanic⟩ := @panics_overrunRules _ libraries
    ⟨overrunFile libraries count, (overrunFile libraries count).take tableLength, count⟩ index (by omega)
    (show index < count by omega) behind []
  rw [append_nil] at failed
  rw [ReadMmap_header (by omega) (by omega) bound isData, rulesSection, ← isLength]
  rw [tableSection]
  change ¬Returns (StateT.run (readRules _ _ _) (overrunRules index) >>= _)
  rw [failed]
  intro returns
  have plain := returns err rfl
  rw [isPanic] at plain
  cases plain

/-- A file that is refused by its header is never read behind its bounds. For a number of blobs,
all other files whose header gives it are read within their bounds exactly if the length of the
blob table does not wrap around, or wraps around to more than a file can have. -/
theorem readMmap_returns_iff (count : Nat) (bound : count < 2 ^ 64) :
    (∀ data : Bytes, data.length < 2 ^ 63 → RefusedByHeader libraries data →
        Returns (Bounds.ReadMmap libraries data)) ∧
      ((∀ data : Bytes, data.length < 2 ^ 63 → blobCount libraries data = count → ¬RefusedByHeader libraries data →
          Returns (Bounds.ReadMmap libraries data)) ↔
        (count * mmapBlobEntrySize < 2 ^ 64 ∨ 2 ^ 63 ≤ count * mmapBlobEntrySize % 2 ^ 64)) := by
  refine ⟨fun data small refused => ?_, ?_, ?_⟩
  · rw [readMmap_eq libraries small]
    exact readMmap_returns_of_refused libraries refused
  · intro returns
    by_contra wraps
    obtain ⟨small, isCount, panics⟩ := @overrunFile_panics _ libraries count bound (by omega) (by omega)
    have returned := returns _ small isCount fun refused => panics (readMmap_returns_of_refused libraries refused)
    rw [readMmap_eq libraries small] at returned
    exact panics returned
  · rintro fits data small rfl accepted
    rw [readMmap_eq libraries small]
    rcases fits with fits | long
    · exact readMmap_returns_of_fits libraries fits
    · have refused : RefusedByHeader libraries data := .inr (.inr (.inr (.inr (.inr (.inr (by omega))))))
      exact absurd refused accepted

end File

theorem readMmap_returns_iff_few :
    (∀ data : Bytes, data.length < 2 ^ 63 → RefusedByHeader Sample.mmapPackages data →
        Returns (Bounds.ReadMmap Sample.mmapPackages data)) ∧
      ((∀ data : Bytes, data.length < 2 ^ 63 → blobCount Sample.mmapPackages data = 3 →
          ¬RefusedByHeader Sample.mmapPackages data → Returns (Bounds.ReadMmap Sample.mmapPackages data)) ↔
        (3 * mmapBlobEntrySize < 2 ^ 64 ∨ 2 ^ 63 ≤ 3 * mmapBlobEntrySize % 2 ^ 64)) :=
  readMmap_returns_iff Sample.mmapPackages 3 (by decide)

/-- 2^61 blobs: the length of their table wraps around to nothing, and the rule names the first blob. -/
theorem wrapped_table_panics :
    ∃ err, Bounds.ReadMmap Sample.mmapPackages
        [0x53, 0x52, 0x53, 0x4d, 1, 0, 0, 0, 1, 0, 0, 0, 0, 0, 0, 0, 4, 0, 0, 0, 0, 0, 0, 0, 0, 0, 0, 0, 0, 0, 0, 0,
          0, 0, 0, 0, 0, 0, 0, 0x20, 1, 0, 2, 0] = .error err ∧ err.panics :=
  ⟨_, rfl, rfl⟩

end SingBox.Srs
