import Mathlib.Data.Fintype.EquivFin
import SingBox.FakeIP.Addresses

/-! # What a crash costs the allocator

The position is saved 1024 addresses ahead before the first of them is given out, but it is
saved as it is after every allocation too, and a flush writes whichever came last. After a
crash the allocation goes on from the position in the database: it is safe exactly when that
position is not below an address whose pair was lost.
-/

open List Option Prod

namespace SingBox

open FakeIP Lib.Machine SingBox.System Store

variable {isIPv6 : Bool} {address : Addr} {metadata : FakeIPMetadata} {entries : List (Addr × String)}
  {ranges : Ranges} {database : Database} {origin : Bool → Option Addr}

def FakeIPMetadata.currentFor (metadata : FakeIPMetadata) (isIPv6 : Bool) : Option Addr :=
  if isIPv6 then metadata.inet6Current else metadata.inet4Current

def Ranges.rangeFor (ranges : Ranges) (isIPv6 : Bool) : Prefix := if isIPv6 then ranges.inet6 else ranges.inet4

theorem Prefix.isValid_of_contains {range : Prefix} (isInside : range.contains address) : range.isValid := by
  obtain ⟨_, bits, -, isBits⟩ := Prefix.exists_of_contains isInside
  simp [Prefix.isValid, isBits]

theorem Ranges.is6_of_contains (ranges : Ranges)
    (isInside : (ranges.rangeFor isIPv6).contains address) : address.is6 = isIPv6 := by
  obtain ⟨addr, _, isAddr, -⟩ := Prefix.exists_of_contains isInside
  rw [Prefix.is6_of_contains isInside isAddr]
  cases isIPv6 with
  | false => exact ranges.isInet4 addr isAddr
  | true => exact ranges.isInet6 addr isAddr

/-- The next allocation starts again at the front of the range. -/
def Store.wraps (store : Store) (isIPv6 : Bool) : Bool :=
  let address := (store.currentFor isIPv6).bind Addr.next
  decide (address = store.lastFor isIPv6) || !address.any (store.rangeFor isIPv6).contains

theorem Store.advance_of_not_wraps {store : Store} (goesOn : store.wraps isIPv6 = false) :
    ∃ before address, store.currentFor isIPv6 = some before ∧ before.next = some address ∧
      (store.rangeFor isIPv6).contains address ∧ store.lastFor isIPv6 ≠ some address ∧
      (store.advance isIPv6).currentFor isIPv6 = some address := by
  simp only [wraps, Bool.or_eq_false_iff, decide_eq_false_iff_not, Bool.not_eq_false', Option.any_eq_true] at goesOn
  obtain ⟨notLast, address, isNext, isInside⟩ := goesOn
  obtain ⟨before, isBefore, goesUp⟩ := bind_eq_some_iff.mp isNext
  rw [isNext] at notLast
  refine ⟨before, address, isBefore, goesUp, isInside, fun same => notLast same.symm, ?_⟩
  rw [currentFor_advance, if_pos rfl, nextAddress, isNext]
  simp [isInside, notLast]

namespace System

variable (system : System)

/-- The range wraps around in a step. -/
def wrapsAt (label : Label) : Bool :=
  match label, system.phase with
  | .allocate, .allocating _ isIPv6 => system.store.wraps isIPv6
  | _, _ => false

def NoWrap (label : Label) : Prop := system.wrapsAt label = false

instance (system : System) (label : Label) : Decidable (system.NoWrap label) := inferInstanceAs (Decidable (_ = _))

/-- The pairs that were given out and are not in the database. -/
def lost : List (Addr × String) :=
  system.issued.filter fun entry => system.cache.database.address.lookup entry.1 ≠ some entry.2

/-- No lost address is above the position from which the allocation would go on. -/
def PositionCovers : Prop :=
  ∀ entry ∈ system.lost, ∀ metadata ∈ system.cache.database.metadata,
    ∀ position ∈ metadata.currentFor entry.1.is6, entry.1.toNat ≤ position.toNat

end System

/-! ## Positions -/

section Tracks

variable (ranges : Ranges) (origin : Bool → Option Addr)

/-- A position that the store can have come to from its origin. -/
structure Located (metadata : FakeIPMetadata) : Prop where
  inet4 : metadata.inet4Range = ranges.inet4
  inet6 : metadata.inet6Range = ranges.inet6
  position : ∀ {isIPv6 position}, metadata.currentFor isIPv6 = some position →
    origin isIPv6 = some position ∨ (ranges.rangeFor isIPv6).contains position ∨
      firstAddress (ranges.rangeFor isIPv6) = some position

/-- The allocation from the origin on stays inside the range. -/
def Leaves (isIPv6 : Bool) : Prop :=
  ∃ address, (origin isIPv6).bind Addr.next = some address ∧ (ranges.rangeFor isIPv6).contains address

/-- What is known of an address that was allocated without a wrap. -/
structure Allocated (address : Addr) : Prop where
  inside : (ranges.rangeFor address.is6).contains address
  notLast : broadcastAddress (ranges.rangeFor address.is6) ≠ some address
  above : ∃ position ∈ origin address.is6, position.toNat < address.toNat
  leaves : Leaves ranges origin address.is6

variable (system : System)

/-- The database holds a position of this store. -/
def Saved : Prop := ∃ metadata ∈ system.cache.database.metadata, Located ranges origin metadata

def System.batchSaves : Prop := ∃ writing ∈ system.cache.writing, writing.fakeIPMetadata ≠ none

/-- A call that allocates has a position in the database, or will have. -/
def Secured : Prop :=
  match system.phase with
  | .idle => True
  | .saving .. => Saved ranges origin system ∨ system.batchSaves ∨ system.cache.pending.fakeIPMetadata ≠ none
  | .flushing .. => Saved ranges origin system ∨ system.batchSaves
  | .allocating .. => Saved ranges origin system
  | .stored address _ => Saved ranges origin system ∧ Allocated ranges origin address

structure Positioned (store : Store) : Prop where
  located : Located ranges origin store.metadata
  last : ∀ isIPv6, (ranges.rangeFor isIPv6).isValid → store.lastFor isIPv6 = broadcastAddress (ranges.rangeFor isIPv6)
  above : ∀ {isIPv6 position}, store.currentFor isIPv6 = some position →
    ∃ start ∈ origin isIPv6, start.toNat ≤ position.toNat
  left : ∀ isIPv6, store.currentFor isIPv6 = origin isIPv6 ∨ Leaves ranges origin isIPv6

structure Tracks (system : System) : Prop where
  store : Positioned ranges origin system.store
  unlocked : system.cache.flushAccess = .free → system.cache.writing = none
  pending : ∀ metadata ∈ system.cache.pending.fakeIPMetadata, Located ranges origin metadata
  writing : ∀ writing ∈ system.cache.writing, ∀ metadata ∈ writing.fakeIPMetadata, Located ranges origin metadata
  durable : system.store.reservedCount ≠ 0 ∨ system.issued ≠ [] → Saved ranges origin system
  secured : Secured ranges origin system
  issued : ∀ entry ∈ system.issued, Allocated ranges origin entry.1

variable {ranges origin} {store : Store}

theorem Located.rangeFor (located : Located ranges origin store.metadata) (isIPv6 : Bool) :
    store.rangeFor isIPv6 = ranges.rangeFor isIPv6 := by
  cases isIPv6 with
  | false => exact located.inet4
  | true => exact located.inet6

theorem currentFor_metadata (store : Store) (isIPv6 : Bool) :
    store.metadata.currentFor isIPv6 = store.currentFor isIPv6 := by
  cases isIPv6 <;> rfl

theorem currentFor_reserveNext (store : Store) (metadata : FakeIPMetadata) (isIPv6 : Bool) :
    (store.reserveNext metadata).currentFor isIPv6 =
      if (metadata.currentFor isIPv6).isSome then
        nextAddress (store.rangeFor isIPv6) (store.lastFor isIPv6) (metadata.currentFor isIPv6)
      else metadata.currentFor isIPv6 := by
  unfold reserveNext
  cases isIPv6 with
  | false =>
    simp only [FakeIPMetadata.currentFor, Bool.false_eq_true, if_false]
    split_ifs <;> rfl
  | true =>
    simp only [FakeIPMetadata.currentFor, if_true]
    split_ifs <;> rfl

theorem Located.reserveNext (storeLocated : Located ranges origin store.metadata)
    (located : Located ranges origin metadata) : Located ranges origin (store.reserveNext metadata) where
  inet4 := by
    unfold Store.reserveNext
    simp only
    split_ifs <;> exact located.inet4
  inet6 := by
    unfold Store.reserveNext
    simp only
    split_ifs <;> exact located.inet6
  position := by
    intro isIPv6 position isPosition
    rw [currentFor_reserveNext] at isPosition
    split at isPosition
    · rw [storeLocated.rangeFor] at isPosition
      rcases nextAddress_cases isPosition with ⟨-, isInside, -⟩ | startsAgain
      · exact .inr (.inl isInside)
      · exact .inr (.inr startsAgain)
    · exact located.position isPosition

theorem Located.reserved (located : Located ranges origin store.metadata) : Located ranges origin store.reserved := by
  have rounds (count : Nat) : Located ranges origin (store.reserveNext^[count] store.metadata) := by
    induction count with
    | zero => exact located
    | succ count ih =>
      rw [Function.iterate_succ_apply']
      exact located.reserveNext ih
  exact rounds _

theorem Positioned.advance (positioned : Positioned ranges origin store) (goesOn : store.wraps isIPv6 = false)
    (isNext : (store.advance isIPv6).currentFor isIPv6 = some address) :
    Allocated ranges origin address ∧ Positioned ranges origin (store.advance isIPv6) := by
  obtain ⟨before, after, isBefore, goesUp, isInside, notLast, isAfter⟩ := advance_of_not_wraps goesOn
  cases isNext.symm.trans isAfter
  rw [positioned.located.rangeFor] at isInside
  have family := ranges.is6_of_contains isInside
  subst family
  have step := (Addr.next_eq_some goesUp).2
  obtain ⟨start, isStart, isAbove⟩ := positioned.above isBefore
  have leaves : Leaves ranges origin address.is6 := by
    rcases positioned.left address.is6 with still | leaves
    · exact ⟨address, by rw [← still, isBefore]; exact goesUp, isInside⟩
    · exact leaves
  rw [positioned.last _ (Prefix.isValid_of_contains isInside)] at notLast
  have moved {other : Bool} {position : Addr} (isPosition : (store.advance address.is6).currentFor other = some position) :
      other = address.is6 ∧ position = address ∨ store.currentFor other = some position := by
    by_cases same : other = address.is6
    · exact .inl ⟨same, some.inj ((same ▸ isPosition).symm.trans isAfter)⟩
    · rw [currentFor_advance, if_neg same] at isPosition
      exact .inr isPosition
  refine ⟨⟨isInside, notLast, ⟨start, isStart, by omega⟩, leaves⟩, ⟨⟨?_, ?_, ?_⟩, ?_, ?_, ?_⟩⟩
  · rw [← positioned.located.inet4]
    cases address.is6 <;> rfl
  · rw [← positioned.located.inet6]
    cases address.is6 <;> rfl
  · intro other position isPosition
    rw [currentFor_metadata] at isPosition
    rcases moved isPosition with ⟨rfl, rfl⟩ | kept
    · exact .inr (.inl isInside)
    · exact positioned.located.position (by rwa [currentFor_metadata])
  · intro other isValid
    rw [lastFor_advance]
    exact positioned.last other isValid
  · intro other position isPosition
    rcases moved isPosition with ⟨rfl, rfl⟩ | kept
    · exact ⟨start, isStart, by omega⟩
    · exact positioned.above kept
  · intro other
    by_cases same : other = address.is6
    · exact .inr (same ▸ leaves)
    · rw [currentFor_advance, if_neg same]
      exact positioned.left other

/-! ## Runs -/

theorem Store.Start_cases (store : Store) (cache : CacheFile) (resetCommits : Bool) :
    (∃ current4 current6,
      (store.Start cache resetCommits).1 = { store with inet4Current := current4, inet6Current := current6 }) ∧
    (store.Start cache resetCommits).2.flushAccess = cache.flushAccess ∧
    (store.Start cache resetCommits).2.writing = cache.writing ∧
    (cache.pending.fakeIPMetadata = none → (store.Start cache resetCommits).2.pending.fakeIPMetadata = none) := by
  unfold Start
  simp only
  split
  · split
    · exact ⟨⟨_, _, rfl⟩, rfl, rfl, fun unsaved => unsaved⟩
    · exact ⟨⟨_, _, rfl⟩, rfl, rfl, fun _ => rfl⟩
  · exact ⟨⟨_, _, rfl⟩, rfl, rfl, fun _ => rfl⟩

theorem tracks_start (ranges : Ranges) (database : Database) (resetCommits : Bool) :
    Tracks ranges (start ranges { database } resetCommits).store.currentFor
      (start ranges { database } resetCommits) := by
  obtain ⟨⟨current4, current6, isStore⟩, -, noBatch, unsaved⟩ :=
    Start_cases (NewStore ranges.inet4 ranges.inet6) { database } resetCommits
  have isStore : (start ranges { database } resetCommits).store =
      { NewStore ranges.inet4 ranges.inet6 with inet4Current := current4, inet6Current := current6 } := isStore
  have noBatch : (start ranges { database } resetCommits).cache.writing = none := noBatch
  have unsaved : (start ranges { database } resetCommits).cache.pending.fakeIPMetadata = none := unsaved rfl
  refine ⟨⟨⟨?_, ?_, ?_⟩, ?_, ?_, ?_⟩, fun _ => noBatch, ?_, ?_, ?_, trivial, ?_⟩
  · rw [isStore]
    rfl
  · rw [isStore]
    rfl
  · intro isIPv6 position isPosition
    exact .inl isPosition
  · intro isIPv6 isValid
    rw [isStore]
    cases isIPv6 with
    | false => exact if_pos isValid
    | true => exact if_pos isValid
  · intro isIPv6 position isPosition
    exact ⟨position, isPosition, Nat.le_refl _⟩
  · exact fun _ => .inl rfl
  · intro metadata isSaved
    cases unsaved.symm.trans isSaved
  · intro writing isWriting
    cases noBatch.symm.trans isWriting
  · rw [isStore]
    simp [NewStore, start]
  · simp [start]

variable {db next : Database}

theorem metadata_putFakeIP {domain : String}
    (puts : db.putFakeIP address domain = some next) : next.metadata = db.metadata := by
  unfold Database.putFakeIP at puts
  split at puts
  · cases puts
  · cases puts
    cases address <;> rfl

theorem metadata_writePending {metadata : Option FakeIPMetadata} (writes : db.writePending entries metadata = some next) :
    next.metadata = metadata.or db.metadata := by
  induction entries generalizing db with
  | nil => cases metadata <;> cases writes <;> rfl
  | cons entry entries ih =>
    obtain ⟨between, puts, writesRest⟩ := bind_eq_some_iff.mp writes
    rw [ih writesRest, metadata_putFakeIP puts]

section Step

variable {system next : System}

theorem Secured.imp (secured : Secured ranges origin system) (phase : next.phase = system.phase)
    (saved : Saved ranges origin system → Saved ranges origin next)
    (batch : system.batchSaves → Saved ranges origin next ∨ next.batchSaves)
    (pending : system.cache.pending.fakeIPMetadata ≠ none →
      Saved ranges origin next ∨ next.batchSaves ∨ next.cache.pending.fakeIPMetadata ≠ none) :
    Secured ranges origin next := by
  rw [Secured] at secured ⊢
  rw [phase]
  cases isPhase : system.phase <;> rw [isPhase] at secured
  case idle => trivial
  case saving =>
    rcases secured with isSaved | inBatch | isPending
    · exact .inl (saved isSaved)
    · exact (batch inBatch).imp_right .inl
    · exact pending isPending
  case flushing => exact secured.elim (fun isSaved => .inl (saved isSaved)) batch
  case allocating => exact saved secured
  case stored => exact ⟨saved secured.1, secured.2⟩

theorem Tracks.create (tracks : Tracks ranges origin system) (domain : String) (isIPv6 : Bool) :
    Tracks ranges origin (system.create domain isIPv6) := by
  unfold System.create
  split
  · exact tracks
  · split
    · exact tracks
    · split
      · exact { tracks with
          pending := fun metadata isSaved => some.inj isSaved ▸ tracks.store.located.reserved
          secured := .inr (.inr (some_ne_none _)) }
      case isFalse reserved =>
        exact { tracks with secured := tracks.durable (.inl reserved) }

variable {cache : CacheFile} {domain : String}

section
variable (tracks : Tracks ranges origin system)
include tracks

theorem Tracks.flush (begins : system.cache.beginFlush = some cache) : Tracks ranges origin { system with cache } := by
  obtain ⟨free, rfl⟩ := CacheFile.beginFlush_eq_some_iff.mp begins
  refine { tracks with
    unlocked := nofun, pending := nofun, writing := ?_
    secured := tracks.secured.imp rfl id ?_ fun isPending => .inr (.inl ⟨system.cache.pending, rfl, isPending⟩) }
  · rintro writing isWriting metadata isSaved
    cases isWriting
    exact tracks.pending metadata isSaved
  · -- no batch was being written
    rintro ⟨writing, isWriting, -⟩
    cases (tracks.unlocked free).symm.trans isWriting

theorem Tracks.flushOwn
    (isSaving : system.phase = .saving domain isIPv6) (begins : system.cache.beginFlush = some cache) :
    Tracks ranges origin { system with cache, phase := .flushing domain isIPv6 } := by
  have flushed := tracks.flush begins
  have secured := flushed.secured
  obtain ⟨-, rfl⟩ := CacheFile.beginFlush_eq_some_iff.mp begins
  rw [Secured, isSaving] at secured
  refine { flushed with secured := ?_ }
  rcases secured with saved | inBatch | isPending
  · exact .inl saved
  · exact .inr inBatch
  · exact absurd rfl isPending

theorem Tracks.saved (isSaved : ∀ domain isIPv6, system.phase = .flushing domain isIPv6 → Saved ranges origin system) :
    Tracks ranges origin system.saved := by
  unfold System.saved
  split
  case h_1 domain isIPv6 isFlushing =>
    have saved : Saved ranges origin system := isSaved domain isIPv6 isFlushing
    exact { tracks with
      store := { tracks.store with located := { tracks.store.located with } }
      durable := fun _ => saved
      secured := saved }
  case h_2 => exact tracks

/-- Nothing is left to flush: another flush has written the reserved position. -/
theorem Tracks.flushNothing (isSaving : system.phase = .saving domain isIPv6) (free : system.cache.flushAccess = .free)
    (nothing : system.cache.pending.fakeIPMetadata = none) :
    Tracks ranges origin ({ system with phase := .flushing domain isIPv6 } : System).saved := by
  have secured := tracks.secured
  rw [Secured, isSaving] at secured
  have saved : Saved ranges origin system := by
    rcases secured with saved | ⟨writing, isWriting, -⟩ | isPending
    · exact saved
    · cases (tracks.unlocked free).symm.trans isWriting
    · exact absurd nothing isPending
  exact Tracks.saved { tracks with secured := .inl saved } fun _ _ _ => saved

theorem Tracks.commit {order : List (Addr × String)} (commits : system.cache.commitFlush order = some cache) :
    Tracks ranges origin ({ system with cache } : System).saved := by
  obtain ⟨writing, database, isWriting, -, writes, rfl⟩ := CacheFile.commitFlush_eq_some_iff.mp commits
  have metadata := metadata_writePending writes
  -- the position in the database is the batch's, or the old one
  have saves : writing.fakeIPMetadata ≠ none →
      ∃ metadata ∈ database.metadata, Located ranges origin metadata := by
    intro isSaved
    obtain ⟨new, isNew⟩ := ne_none_iff_exists'.mp isSaved
    exact ⟨new, by rw [metadata, isNew]; rfl, tracks.writing writing isWriting new isNew⟩
  have keeps : Saved ranges origin system → ∃ metadata ∈ database.metadata, Located ranges origin metadata := by
    rintro ⟨old, isOld, located⟩
    by_cases isSaved : writing.fakeIPMetadata = none
    · exact ⟨old, by rw [metadata, isSaved]; exact isOld, located⟩
    · exact saves isSaved
  have batch : system.batchSaves → ∃ metadata ∈ database.metadata, Located ranges origin metadata := by
    rintro ⟨other, isOther, isSaved⟩
    cases isWriting.symm.trans isOther
    exact saves isSaved
  have secured := tracks.secured
  have committed : Tracks ranges origin
      { system with cache := { system.cache with database, writing := none, flushAccess := .free } } :=
    { tracks with
      unlocked := fun _ => rfl
      writing := nofun
      durable := fun needed => keeps (tracks.durable needed)
      secured := secured.imp rfl keeps (fun inBatch => .inl (batch inBatch)) fun isPending => .inr (.inr isPending) }
  refine committed.saved fun domain isIPv6 isFlushing => ?_
  have isFlushing : system.phase = .flushing domain isIPv6 := isFlushing
  rw [Secured, isFlushing] at secured
  exact secured.elim keeps batch

theorem Tracks.allocate
    (isAllocating : system.phase = .allocating domain isIPv6) (goesOn : system.store.wraps isIPv6 = false)
    (allocates : system.allocate domain isIPv6 = some next) : Tracks ranges origin next := by
  obtain ⟨address, isNext, rfl⟩ := map_eq_some_iff.mp allocates
  obtain ⟨allocated, positioned⟩ := tracks.store.advance goesOn isNext
  have secured := tracks.secured
  rw [Secured, isAllocating] at secured
  refine { tracks with
    store := positioned, pending := fun metadata isSaved => tracks.pending metadata ?_
    durable := fun _ => secured, secured := ⟨secured, allocated⟩ }
  rw [← CacheFile.fakeIPMetadata_queue system.cache address domain]
  exact isSaved

theorem Tracks.record (isStored : system.phase = .stored address domain) :
    Tracks ranges origin (system.record address domain) := by
  have secured := tracks.secured
  rw [Secured, isStored] at secured
  exact { tracks with
    pending := fun metadata isSaved => some.inj isSaved ▸ tracks.store.located
    durable := fun _ => secured.1
    secured := trivial
    issued := forall_mem_cons.mpr ⟨secured.2, tracks.issued⟩ }

theorem Tracks.step {label : Label} (steps : system.step label = some next)
    (noWrap : system.NoWrap label) : Tracks ranges origin next := by
  unfold System.step at steps
  split at steps
  case h_1 domain isIPv6 _ =>
    cases steps
    exact tracks.create domain isIPv6
  case h_2 domain isIPv6 isSaving =>
    obtain ⟨cache, begins, rfl⟩ := map_eq_some_iff.mp steps
    exact tracks.flushOwn isSaving begins
  case h_3 domain isIPv6 isSaving =>
    split at steps
    case isTrue nothing =>
      cases steps
      exact tracks.flushNothing isSaving nothing.1 nothing.2.2
    case isFalse => cases steps
  case h_4 domain isIPv6 isAllocating =>
    simp only [NoWrap, wrapsAt, isAllocating] at noWrap
    exact tracks.allocate isAllocating noWrap steps
  case h_5 address domain isStored =>
    cases steps
    exact tracks.record isStored
  case h_6 =>
    obtain ⟨cache, begins, rfl⟩ := map_eq_some_iff.mp steps
    exact tracks.flush begins
  case h_7 order =>
    obtain ⟨cache, commits, rfl⟩ := map_eq_some_iff.mp steps
    exact tracks.commit commits
  case h_8 => cases steps

theorem Tracks.reaches (reaches : Reaches System.step NoWrap system next) : Tracks ranges origin next :=
  reaches.invariant (fun _ _ _ tracks steps noWrap => tracks.step steps noWrap) tracks

end

end Step

end Tracks

/-! ## Going on after a crash -/

theorem start_of_located {metadata : FakeIPMetadata}
    (isSaved : database.metadata = some metadata) (located : Located ranges origin metadata) (resetCommits : Bool) :
    (start ranges { database } resetCommits).store.currentFor = metadata.currentFor ∧
      (start ranges { database } resetCommits).cache = { database } := by
  have matching : metadata.inet4Range = (NewStore ranges.inet4 ranges.inet6).inet4Range ∧
      metadata.inet6Range = (NewStore ranges.inet4 ranges.inet6).inet6Range := ⟨located.inet4, located.inet6⟩
  simp only [start, Ranges.start, Start, CacheFile.FakeIPMetadata, isSaved, if_pos matching, and_true]
  funext isIPv6
  cases isIPv6 <;> rfl

/-- A position from which the allocation reaches an address without a wrap. -/
structure Leads (ranges : Ranges) (position address : Addr) : Prop where
  family : position.is6 = address.is6
  inside : ∀ {between : Addr}, between.is6 = address.is6 → position.toNat < between.toNat →
    between.toNat ≤ address.toNat → (ranges.rangeFor address.is6).contains between
  notLast : ∀ {between : Addr}, between.is6 = address.is6 → between.toNat ≤ address.toNat →
    broadcastAddress (ranges.rangeFor address.is6) ≠ some between

theorem Allocated.leads (allocated : Allocated ranges origin address) (located : Located ranges origin metadata)
    {position : Addr} (isPosition : metadata.currentFor address.is6 = some position) : Leads ranges position address := by
  -- the range begins at the position or right behind it
  obtain ⟨low, isInside, isLow, family⟩ : ∃ low, (ranges.rangeFor address.is6).contains low ∧
      low.toNat ≤ position.toNat + 1 ∧ position.is6 = address.is6 := by
    rcases located.position isPosition with isOrigin | isInside | isFirst
    · obtain ⟨next, isNext, isInside⟩ := allocated.leaves
      rw [isOrigin] at isNext
      obtain ⟨sameFamily, step⟩ := Addr.next_eq_some isNext
      exact ⟨next, isInside, by omega, sameFamily.symm.trans (ranges.is6_of_contains isInside)⟩
    · exact ⟨position, isInside, by omega, ranges.is6_of_contains isInside⟩
    · obtain ⟨addr, isAddr, sameFamily, step⟩ := firstAddress_eq_some isFirst
      have isInside := Prefix.contains_addr allocated.inside isAddr
      exact ⟨addr, isInside, by omega, sameFamily.trans (ranges.is6_of_contains isInside)⟩
  refine ⟨family, ?_, ?_⟩
  · intro between sameFamily isAbove isBelow
    refine Prefix.contains_between isInside allocated.inside ?_ (by omega) isBelow
    rw [sameFamily, ranges.is6_of_contains isInside]
  · intro between sameFamily isBelow isLast
    obtain ⟨last, isLastToo, lastFamily, covers⟩ := toNat_le_broadcastAddress allocated.inside
    cases isLast.symm.trans isLastToo
    have same : between = address := Addr.eq_of_toNat sameFamily (by omega)
    exact allocated.notLast (same ▸ isLast)

/-! ## A round of the allocator -/

theorem exists_fresh (cache : CacheFile) (isIPv6 : Bool) :
    ∃ domain, domain ≠ "" ∧ cache.FakeIPLoadDomain domain isIPv6 = none := by
  have misses {V : Type} {table : Lib.Table String V} {domain : String} (absent : domain ∉ table.entries.map fst) :
      table.lookup domain = none := by
    by_contra present
    exact absent (Lib.Table.mem_keys_iff.mpr present)
  let namesOf (pending : PendingWrites) : List String :=
    pending.fakeIPAddress4.entries.map fst ++ pending.fakeIPAddress6.entries.map fst
  have unknown {pending : PendingWrites} {domain : String} (absent : domain ∉ namesOf pending) :
      pending.fakeIPAddress domain isIPv6 = none := by
    obtain ⟨absent4, absent6⟩ := not_or.mp (fun present => absent (mem_append.mpr present))
    cases isIPv6 with
    | false => exact misses absent4
    | true => exact misses absent6
  let names := "" :: (namesOf cache.pending ++ ((cache.writing.map namesOf).getD [] ++
    (cache.database.domain isIPv6).entries.map fst))
  obtain ⟨domain, isFresh⟩ := Infinite.exists_notMem_finset names.toFinset
  simp only [names, List.mem_toFinset, mem_cons, mem_append, not_or] at isFresh
  obtain ⟨isNamed, notPending, notWriting, notStored⟩ := isFresh
  refine ⟨domain, isNamed, ?_⟩
  have batch : (cache.writing.bind fun writing => writing.fakeIPAddress domain isIPv6) = none := by
    cases isWriting : cache.writing with
    | none => rfl
    | some writing =>
      rw [isWriting] at notWriting
      exact unknown (by simpa using notWriting)
  rw [CacheFile.FakeIPLoadDomain, unknown (by simpa using notPending), batch, misses notStored]
  rfl

/-- Between two calls, with nothing gathered that the database would refuse. -/
structure Ready (isIPv6 : Bool) (position : Addr) (system : System) : Prop where
  phase : system.phase = .idle
  free : system.cache.flushAccess = .free
  named : ∀ entry ∈ system.cache.pending.fakeIPDomain.entries, entry.2 ≠ ""
  current : system.store.currentFor isIPv6 = some position

theorem exists_writePending (named : ∀ entry ∈ entries, entry.2 ≠ "") (db : Database) (metadata : Option FakeIPMetadata) :
    ∃ next, db.writePending entries metadata = some next := by
  induction entries generalizing db with
  | nil => cases metadata <;> exact ⟨_, rfl⟩
  | cons entry entries ih =>
    obtain ⟨between, puts⟩ : ∃ between, db.putFakeIP entry.1 entry.2 = some between :=
      ⟨_, if_neg (named entry (by simp))⟩
    obtain ⟨next, writes⟩ := ih (fun other isOther => named other (by simp [isOther])) between
    exact ⟨next, by rw [Database.writePending, puts]; exact writes⟩

section Round

variable {system : System} {isIPv6 : Bool} {position address : Addr}

theorem finishes {domain : String} (isAllocating : system.phase = .allocating domain isIPv6)
    (free : system.cache.flushAccess = .free)
    (named : ∀ entry ∈ system.cache.pending.fakeIPDomain.entries, entry.2 ≠ "")
    (isNamed : domain ≠ "") (isCurrent : system.store.currentFor isIPv6 = some position)
    (isNext : position.next = some address) (goesOn : system.store.wraps isIPv6 = false) :
    ∃ next, Reaches step NoWrap system next ∧ Ready isIPv6 address next ∧ (address, domain) ∈ next.issued := by
  obtain ⟨before, after, isBefore, goesUp, -, -, isAfter⟩ := advance_of_not_wraps goesOn
  cases isCurrent.symm.trans isBefore
  cases isNext.symm.trans goesUp
  let stored : System :=
    { system with
      store := system.store.advance isIPv6
      cache := system.cache.FakeIPStoreAsync address domain
      phase := .stored address domain }
  have allocates : system.step .allocate = some stored := by
    simp [step, isAllocating, allocate, isAfter, stored]
  have noWrap : system.NoWrap .allocate := by
    simp [NoWrap, wrapsAt, isAllocating, goesOn]
  refine ⟨stored.record address domain, ?_, ⟨rfl, free, ?_, isAfter⟩, mem_cons_self⟩
  · exact .tail (.single ⟨.allocate, noWrap, allocates⟩) ⟨.record, rfl, rfl⟩
  · intro entry isEntry
    have isEntry : entry ∈ (system.cache.queueFakeIP address domain).pending.fakeIPDomain.entries := isEntry
    rw [CacheFile.fakeIPDomain_queue] at isEntry
    rcases Lib.Table.mem_put_iff.mp isEntry with ⟨-, isNew⟩ | ⟨-, isOld⟩
    · rw [isNew]
      exact isNamed
    · exact named entry isOld

theorem begins (ready : Ready isIPv6 position system) :
    ∃ domain next, domain ≠ "" ∧ Reaches System.step System.NoWrap system next ∧
      next.phase = .allocating domain isIPv6 ∧ next.cache.flushAccess = .free ∧
      (∀ entry ∈ next.cache.pending.fakeIPDomain.entries, entry.2 ≠ "") ∧
      next.store = { system.store with reservedCount := next.store.reservedCount } := by
  obtain ⟨domain, isNamed, misses⟩ := exists_fresh system.cache isIPv6
  have create : system.step (.create domain isIPv6) = some (system.create domain isIPv6) := by
    simp [System.step, ready.phase]
  have noHit : (system.store.loadDomain system.cache domain isIPv6).isSome = false := by
    rw [loadDomain, misses]
    rfl
  have hasCurrent : (system.store.currentFor isIPv6).isNone = false := by
    rw [ready.current]
    rfl
  by_cases reserved : system.store.reservedCount = 0
  · -- the reservation is saved by a flush of the call's own
    let saving : System :=
      { system with
        cache := system.cache.FakeIPSaveMetadataAsync system.store.reserved
        phase := .saving domain isIPv6 }
    have isSaving : system.create domain isIPv6 = saving := by
      simp [System.create, noHit, hasCurrent, reserved, saving]
    let batch := saving.cache.pending
    let flushing : System :=
      { saving with
        cache := { saving.cache with writing := some batch, pending := {}, flushAccess := .flush }
        phase := .flushing domain isIPv6 }
    have flushes : saving.step .flushOwn = some flushing := by
      have begins : saving.cache.beginFlush = some flushing.cache := CacheFile.beginFlush_eq_some_iff.mpr ⟨ready.free, rfl⟩
      simp only [System.step, saving] at begins ⊢
      rw [begins]
      rfl
    obtain ⟨database, writes⟩ := exists_writePending ready.named flushing.cache.database batch.fakeIPMetadata
    let committed : System :=
      { flushing with
        store := { flushing.store with reservedCount := reservedAddressCount }
        cache := { flushing.cache with database, writing := none, flushAccess := .free }
        phase := .allocating domain isIPv6 }
    have commits : flushing.step (.commit batch.fakeIPDomain.entries) = some committed := by
      have commits : flushing.cache.commitFlush batch.fakeIPDomain.entries = some committed.cache :=
        CacheFile.commitFlush_eq_some_iff.mpr ⟨batch, database, rfl, .refl _, writes, rfl⟩
      simp only [System.step]
      rw [commits]
      rfl
    refine ⟨domain, committed, isNamed, ?_, rfl, rfl, ?_, rfl⟩
    · rw [isSaving] at create
      exact .tail (.tail (.single ⟨.create domain isIPv6, rfl, create⟩) ⟨.flushOwn, rfl, flushes⟩) ⟨.commit _, rfl, commits⟩
    · intro entry isEntry
      cases isEntry
  · have isAllocating : system.create domain isIPv6 = { system with phase := .allocating domain isIPv6 } := by
      simp [System.create, noHit, hasCurrent, reserved]
    rw [isAllocating] at create
    exact ⟨domain, _, isNamed, .single ⟨.create domain isIPv6, rfl, create⟩, rfl, ready.free, ready.named, rfl⟩

theorem Leads.next (leads : Leads ranges position address) {between : Addr}
    (isNext : position.next = some between) : Leads ranges between address := by
  obtain ⟨family, step⟩ := Addr.next_eq_some isNext
  exact ⟨family.trans leads.family, fun sameFamily isAbove => leads.inside sameFamily (by omega), leads.notLast⟩

section
variable (tracks : Tracks ranges origin system) (ready : Ready address.is6 position system)
  (leads : Leads ranges position address) (below : position.toNat < address.toNat)
include tracks ready leads below

theorem Ready.round :
    ∃ between next domain, position.next = some between ∧ Reaches step NoWrap system next ∧
      Ready address.is6 between next ∧ (between, domain) ∈ next.issued := by
  obtain ⟨between, isNext⟩ := Addr.exists_next leads.family below
  obtain ⟨family, step⟩ := Addr.next_eq_some isNext
  have sameFamily : between.is6 = address.is6 := family.trans leads.family
  have isInside := leads.inside sameFamily (by omega) (by omega)
  obtain ⟨domain, allocating, isNamed, reaches, isAllocating, free, named, isStore⟩ := begins ready
  have positioned := (tracks.reaches reaches).store
  have isCurrent : allocating.store.currentFor address.is6 = some position := by
    rw [← ready.current, isStore]
    rfl
  have isLast := positioned.last _ (Prefix.isValid_of_contains isInside)
  have goesOn : allocating.store.wraps address.is6 = false := by
    have notLast := (leads.notLast sameFamily (by omega)).symm
    simp [wraps, isCurrent, isNext, positioned.located.rangeFor, isInside, isLast, notLast]
  obtain ⟨next, finishing, nextReady, isIssued⟩ := finishes isAllocating free named isNamed isCurrent isNext goesOn
  exact ⟨between, next, domain, isNext, reaches.trans finishing, nextReady, isIssued⟩

/-- Call by call the allocation comes to every address that its position leads to. -/
theorem Ready.reaches_address :
    ∃ later domain, Reaches step NoWrap system later ∧ (address, domain) ∈ later.issued := by
  obtain ⟨distance, isDistance⟩ : ∃ distance, address.toNat = position.toNat + (distance + 1) :=
    ⟨address.toNat - position.toNat - 1, by omega⟩
  induction distance generalizing system position with
  | zero =>
    obtain ⟨between, next, domain, isNext, reaches, -, isIssued⟩ := ready.round tracks leads below
    obtain ⟨family, step⟩ := Addr.next_eq_some isNext
    obtain rfl : between = address := Addr.eq_of_toNat (family.trans leads.family) (by omega)
    exact ⟨next, domain, reaches, isIssued⟩
  | succ distance ih =>
    obtain ⟨between, next, _, isNext, reaches, nextReady, -⟩ := ready.round tracks leads below
    have step := (Addr.next_eq_some isNext).2
    obtain ⟨later, domain, reachesOn, isIssued⟩ :=
      ih (tracks.reaches reaches) nextReady (leads.next isNext) (by omega) (by omega)
    exact ⟨later, domain, reaches.trans reachesOn, isIssued⟩

end

end Round

/-! ## Crashes -/

/-- No address that is given out after a crash is one whose pair the crash has lost, if and
only if the position in the database is not below any of those. -/
theorem crash_safe_iff (ranges : Ranges) (database : Database) (resetCommits resetsAgain : Bool) (system : System)
    (reaches : Reaches step NoWrap (start ranges { database } resetCommits) system) :
    (∀ later, Reaches step NoWrap (start ranges system.crash resetsAgain) later →
      ∀ gone ∈ system.lost, ∀ entry ∈ later.issued, gone.1 ≠ entry.1) ↔ system.PositionCovers := by
  have tracks := (tracks_start ranges database resetCommits).reaches reaches
  constructor
  · intro safe gone isLost metadata isSaved position isPosition
    by_contra above
    have allocated := tracks.issued gone (mem_of_mem_filter isLost)
    obtain ⟨_, isSavedToo, located⟩ := tracks.durable (.inr (ne_nil_of_mem (mem_of_mem_filter isLost)))
    cases isSaved.symm.trans isSavedToo
    have ready : Ready gone.1.is6 position (start ranges system.crash resetsAgain) := by
      obtain ⟨current, cache⟩ := start_of_located isSaved located resetsAgain
      have noPairs : (start ranges system.crash resetsAgain).cache = system.crash := cache
      refine ⟨rfl, by rw [noPairs]; rfl, ?_, (congrFun current _).trans isPosition⟩
      rw [noPairs]
      intro entry isEntry
      cases isEntry
    obtain ⟨later, domain, reachesOn, isIssued⟩ :=
      ready.reaches_address (tracks_start ranges system.cache.database resetsAgain)
        (allocated.leads located isPosition) (by omega)
    exact safe later reachesOn gone isLost _ isIssued rfl
  · intro covers later reachesOn gone isLost entry isIssued same
    obtain ⟨metadata, isSaved, located⟩ := tracks.durable (.inr (ne_nil_of_mem (mem_of_mem_filter isLost)))
    have later := (tracks_start ranges system.cache.database resetsAgain).reaches reachesOn
    obtain ⟨position, isPosition, isAbove⟩ := (later.issued entry isIssued).above
    have current : (start ranges system.crash resetsAgain).store.currentFor = metadata.currentFor :=
      (start_of_located isSaved located resetsAgain).1
    have isPosition := (congrFun current entry.1.is6).symm.trans isPosition
    rw [← same] at isPosition
    have covered := covers gone isLost metadata isSaved position isPosition
    rw [same] at covered
    omega

theorem wide_isInet4 : ∀ addr ∈ some (Addr.v4 0x0a000000), addr.is6 = false := by simp [Addr.is6]

theorem wide_isInet6 : ∀ addr ∈ (none : Option Addr), addr.is6 := by simp

/-- `10.0.0.0/8`, without IPv6. -/
def wideRange : Ranges where
  inet4 := ⟨some (.v4 0x0a000000), some 8⟩
  inet6 := ⟨none, none⟩
  isInet4 := wide_isInet4
  isInet6 := wide_isInet6

/-- A crash right after the first allocation. -/
theorem first_allocation_safe_iff : ∃ system, run step (start wideRange { database := {} } true)
        [.create "a" false, .flushOwn, .commit [], .allocate, .record] = some system ∧
      system.lost = [(.v4 0x0a000002, "a")] ∧
      ((∀ later, Reaches step NoWrap (start wideRange system.crash true) later →
        ∀ gone ∈ system.lost, ∀ entry ∈ later.issued, gone.1 ≠ entry.1) ↔ system.PositionCovers) := by
  have checked : (run step (start wideRange { database := {} } true)
      [.create "a" false, .flushOwn, .commit [], .allocate, .record]).any
        (fun system => decide (system.lost = [(.v4 0x0a000002, "a")])) := by
    decide +kernel
  obtain ⟨system, isRun, isLost⟩ := (Option.any_eq_true ..).mp checked
  have reaches : Reaches step NoWrap (start wideRange { database := {} } true) system :=
    Reaches.of_run isRun (by decide +kernel)
  exact ⟨system, isRun, of_decide_eq_true isLost, crash_safe_iff wideRange {} true true system reaches⟩

/-- The position that a flush saved after the first allocation makes the second address go
out twice, with no wrap anywhere. -/
theorem lost_address_goes_out_again :
    let labels := [Label.create "a" false, .flushOwn, .commit [], .allocate, .record, .flush,
      .commit [(.v4 0x0a000002, "a")], .create "b" false, .allocate, .record]
    let afterwards := [Label.create "c" false, .flushOwn, .commit [], .allocate, .record]
    let start := start wideRange { database := {} } true
    let restart (system : System) := System.start wideRange system.crash true
    EveryStep step NoWrap start labels ∧
      (run step start labels).map lost = some [(.v4 0x0a000003, "b")] ∧
      (run step start labels).any (fun system =>
        decide (EveryStep step NoWrap (restart system) afterwards)) ∧
      ((run step start labels).bind fun system => run step (restart system) afterwards).map issued =
        some [(.v4 0x0a000003, "c")] := by
  decide +kernel

end SingBox
