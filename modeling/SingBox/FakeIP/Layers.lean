import SingBox.FakeIP.CacheFile
import SingBox.Lib.Overlay

/-! # The cache file as layers over a partial bijection

The pairs of a cache file are addresses on the left and domains of a family on the right.
What has been gathered lies over the batch that is being written, which lies over the
database. `CacheFile.Over` ties the three together; each operation of the cache file is
described by what it does to them.
-/

namespace SingBox

open Lib Lib.Overlay Layer PendingWrites Option Prod Function

/-- A domain of one family; the flag says IPv6. -/
abbrev Name := Bool × String

def PendingWrites.layer (pending : PendingWrites) : Layer Addr Name where
  forward := fun address => (pending.fakeIPDomain.lookup address).map (address.is6, ·)
  backward := fun name => pending.fakeIPAddress name.2 name.1

/-- No batch is an empty one. -/
def CacheFile.writingLayer (cache : CacheFile) : Layer Addr Name :=
  match cache.writing with
  | some writing => writing.layer
  | none => .empty

def Database.indexes (database : Database) : Indexes Addr Name where
  forward := fun address => (database.address.lookup address).map (address.is6, ·)
  backward := fun name => (database.domain name.1).lookup name.2

/-- The database holds the pairs of a partial bijection, none with the empty domain. -/
structure Database.Holds (database : Database) (pairs : Addr ≃. Name) : Prop where
  indexes : database.indexes = ⟨pairs, pairs.symm⟩
  named : ∀ address, database.address.lookup address ≠ some ""

structure CacheFile.Over (cache : CacheFile) (pairs : Addr ≃. Name) : Prop where
  holds : cache.database.Holds pairs
  writingSound : cache.writingLayer.Sound pairs
  pendingSound : cache.pending.layer.Sound (cache.writingLayer.onto pairs writingSound)
  /-- A batch is being written exactly while a flush holds the lock. -/
  locked : cache.writing.isSome ↔ cache.flushAccess = .flush

/-! ## Small facts about the tables -/

namespace PendingWrites

variable (pending : PendingWrites)

@[simp] theorem layer_empty : ({} : PendingWrites).layer = .empty := by
  simp only [layer, Layer.empty, Layer.mk.injEq]
  refine ⟨rfl, funext fun name => ?_⟩
  obtain ⟨isIPv6, domain⟩ := name
  cases isIPv6 <;> rfl

theorem fakeIPAddress_set (isIPv6 other : Bool) (domain name : String) (address : Option Addr) :
    (pending.setFakeIPAddress isIPv6 domain address).fakeIPAddress name other =
      if other = isIPv6 ∧ name = domain then some address else pending.fakeIPAddress name other := by
  cases isIPv6 <;> cases other <;> simp [fakeIPAddress, setFakeIPAddress, Table.lookup_put]

@[simp] theorem fakeIPAddress_setDomain (addr : Addr) (domain name : String) (isIPv6 : Bool) :
    (pending.setFakeIPDomain addr domain).fakeIPAddress name isIPv6 = pending.fakeIPAddress name isIPv6 := rfl

theorem layer_pair (addr : Addr) (domain : String) :
    ((pending.setFakeIPDomain addr domain).setFakeIPAddress addr.is6 domain (some addr)).layer =
      pending.layer.pair addr (addr.is6, domain) := by
  simp only [layer, Layer.pair, Layer.mk.injEq]
  constructor
  · funext other
    rw [update_apply, fakeIPDomain_setAddress, setFakeIPDomain, Table.lookup_put]
    by_cases same : other = addr <;> simp [same]
  · funext key
    obtain ⟨isIPv6, name⟩ := key
    rw [update_apply, fakeIPAddress_set, fakeIPAddress_setDomain]
    simp

theorem layer_evict (isIPv6 : Bool) (domain : String) :
    (pending.setFakeIPAddress isIPv6 domain none).layer = pending.layer.evict (some (isIPv6, domain)) := by
  simp only [layer, Layer.evict, Layer.mk.injEq]
  constructor
  · simp
  · funext key
    obtain ⟨other, name⟩ := key
    rw [update_apply, fakeIPAddress_set]
    simp

end PendingWrites

/-! ## The database -/

namespace Database

variable (database : Database)

@[simp] theorem domain_setDomain (isIPv6 other : Bool) (table : Table String Addr) :
    (database.setDomain isIPv6 table).domain other = if other = isIPv6 then table else database.domain other := by
  cases isIPv6 <;> cases other <;> rfl

@[simp] theorem address_setDomain (isIPv6 : Bool) (table : Table String Addr) :
    (database.setDomain isIPv6 table).address = database.address := by
  cases isIPv6 <;> rfl

@[simp] theorem domain_setAddress (isIPv6 : Bool) (table : Table Addr String) :
    ({ database with address := table } : Database).domain isIPv6 = database.domain isIPv6 := by
  cases isIPv6 <;> rfl

theorem indexes_empty : ({} : Database).indexes = ⟨(⊥ : Addr ≃. Name), (⊥ : Addr ≃. Name).symm⟩ := by
  simp only [indexes, Indexes.mk.injEq]
  refine ⟨rfl, funext fun name => ?_⟩
  obtain ⟨isIPv6, domain⟩ := name
  cases isIPv6 <;> rfl

theorem lookup_dropDomain (bucket : Table String Addr) (oldDomain : Option String) (addr : Addr) (name : String) :
    (dropDomain bucket oldDomain addr).lookup name =
      if oldDomain = some name ∧ bucket.lookup name = some addr then none else bucket.lookup name := by
  cases oldDomain with
  | none => simp [dropDomain]
  | some oldDomain =>
    simp only [dropDomain, some.injEq]
    by_cases isOld : oldDomain = name
    · subst isOld
      by_cases own : bucket.lookup oldDomain = some addr <;> simp [own, Table.lookup_erase]
    · by_cases own : bucket.lookup oldDomain = some addr <;>
        simp [own, isOld, Ne.symm isOld, Table.lookup_erase]

theorem indexes_putFakeIP {database next : Database} {addr : Addr} {domain : String}
    (puts : database.putFakeIP addr domain = some next) :
    domain ≠ "" ∧ next.address = database.address.put addr domain ∧
      next.indexes = database.indexes.put (addr, (addr.is6, domain)) := by
  unfold putFakeIP at puts
  split at puts
  · cases puts
  case isFalse named =>
    cases puts
    refine ⟨named, by simp, ?_⟩
    simp only [indexes, Indexes.mk.injEq, Indexes.put, address_setDomain, Table.lookup_put, domain_setDomain,
      domain_setAddress]
    constructor
    · funext other
      by_cases same : other = addr <;> simp [same]
    · funext key
      obtain ⟨isIPv6, name⟩ := key
      by_cases family : isIPv6 = addr.is6
      · subst family
        rw [if_pos rfl, Table.lookup_put, lookup_dropDomain]
        simp
      · have otherFamily : addr.is6 ≠ isIPv6 := Ne.symm family
        simp [family, otherFamily]

theorem indexes_writePending {entries : List (Addr × String)} {metadata : Option FakeIPMetadata} {database next : Database}
    (writes : database.writePending entries metadata = some next) :
    next.indexes = database.indexes.putAll (entries.map fun entry => (entry.1, (entry.1.is6, entry.2))) ∧
      ∀ addr, next.address.lookup addr = some "" → database.address.lookup addr = some "" := by
  induction entries generalizing database with
  | nil =>
    cases metadata <;> cases writes <;> exact ⟨rfl, fun _ stored => stored⟩
  | cons entry entries ih =>
    obtain ⟨between, puts, writesRest⟩ := bind_eq_some_iff.mp writes
    obtain ⟨named, addr, indexes⟩ := indexes_putFakeIP puts
    obtain ⟨rest, named'⟩ := ih writesRest
    refine ⟨by rw [rest, indexes]; rfl, fun other stored => ?_⟩
    have stored' := named' other stored
    rw [addr, Table.lookup_put] at stored'
    split at stored'
    · exact absurd (some.inj stored') named
    · exact stored'

theorem holds_empty : ({} : Database).Holds ⊥ := ⟨indexes_empty, fun _ => by simp⟩

section Holds

variable {database : Database} {pairs : Addr ≃. Name} (holds : database.Holds pairs)
include holds

theorem Holds.address (addr : Addr) : (database.address.lookup addr).map (addr.is6, ·) = pairs addr :=
  congrFun (congrArg Indexes.forward holds.indexes) addr

theorem Holds.domain (isIPv6 : Bool) (domain : String) :
    (database.domain isIPv6).lookup domain = pairs.symm (isIPv6, domain) :=
  congrFun (congrArg Indexes.backward holds.indexes) (isIPv6, domain)

end Holds

end Database

/-! ## Reading -/

namespace CacheFile

/-- Readers of the two directions agree. -/
structure Consistent (cache : CacheFile) : Prop where
  maps_back : ∀ {domain isIPv6 address}, cache.FakeIPLoadDomain domain isIPv6 = some address →
    cache.FakeIPLoad address = some domain
  injective : ∀ {isIPv6 first second address}, cache.FakeIPLoadDomain first isIPv6 = some address →
    cache.FakeIPLoadDomain second isIPv6 = some address → first = second

theorem consistent_of_maps_back {cache : CacheFile} (maps_back : ∀ domain isIPv6 addr,
    cache.FakeIPLoadDomain domain isIPv6 = some addr → cache.FakeIPLoad addr = some domain) : cache.Consistent where
  maps_back := maps_back _ _ _
  injective := by
    intro isIPv6 first second addr isFirst isSecond
    exact some.inj ((maps_back _ _ _ isFirst).symm.trans (maps_back _ _ _ isSecond))

section Holds

variable {cache : CacheFile} {pairs : Addr ≃. Name} (holds : cache.database.Holds pairs)
include holds

theorem load_of_holds (addr : Addr) :
    (cache.FakeIPLoad addr).map (addr.is6, ·) = cache.pending.layer.load (cache.writingLayer.load pairs) addr := by
  have named : (cache.database.address.lookup addr).filter (· ≠ "") = cache.database.address.lookup addr := by
    have isNamed := holds.named addr
    cases lookup : cache.database.address.lookup addr with
    | none => rfl
    | some domain =>
      rw [lookup] at isNamed
      have : domain ≠ "" := fun empty => isNamed (by rw [empty])
      simp [this]
  have batch : (cache.writing.bind fun writing => writing.fakeIPDomain.lookup addr).map (addr.is6, ·) =
      cache.writingLayer.forward addr := by
    unfold writingLayer
    cases cache.writing <;> rfl
  rw [load, load, ← batch, ← holds.address, FakeIPLoad, named]
  cases own : cache.pending.fakeIPDomain.lookup addr with
  | some domain => simp [layer, own]
  | none =>
    cases cache.writing.bind fun writing => writing.fakeIPDomain.lookup addr <;> simp [layer, own]

theorem loadDomain_of_holds (domain : String) (isIPv6 : Bool) :
    cache.FakeIPLoadDomain domain isIPv6 =
      cache.pending.layer.find (cache.writingLayer.find pairs.symm) (isIPv6, domain) := by
  have batch : (cache.writing.bind fun writing => writing.fakeIPAddress domain isIPv6) =
      cache.writingLayer.backward (isIPv6, domain) := by
    unfold writingLayer
    cases cache.writing <;> rfl
  rw [find, find, ← batch, ← holds.domain, FakeIPLoadDomain]
  show _ = (cache.pending.fakeIPAddress domain isIPv6).getD _
  cases cache.pending.fakeIPAddress domain isIPv6 with
  | some own => simp
  | none => simp

end Holds

theorem onto_empty : ({} : CacheFile).Over ⊥ where
  holds := Database.holds_empty
  writingSound := sound_empty _
  pendingSound := by
    rw [layer_empty]
    exact sound_empty _
  locked := by simp

variable {addr : Addr} {domain : String} {writing : PendingWrites} {order : List (Addr × String)}

section Over

variable {cache : CacheFile} {pairs : Addr ≃. Name}

/-- The partial bijection that readers see. -/
def Over.view (layered : cache.Over pairs) : Addr ≃. Name :=
  cache.pending.layer.onto (cache.writingLayer.onto pairs layered.writingSound) layered.pendingSound

section
variable (layered : cache.Over pairs)
include layered

theorem Over.view_apply (addr : Addr) :
    layered.view addr = (cache.pending.layer.forward addr).or ((cache.writingLayer.forward addr).or (pairs addr)) :=
  rfl

theorem Over.load (addr : Addr) : (cache.FakeIPLoad addr).map (addr.is6, ·) = layered.view addr :=
  load_of_holds layered.holds addr

theorem Over.loadDomain (domain : String) (isIPv6 : Bool) :
    cache.FakeIPLoadDomain domain isIPv6 = layered.view.symm (isIPv6, domain) :=
  loadDomain_of_holds layered.holds domain isIPv6

theorem Over.load_eq_some_iff :
    cache.FakeIPLoad addr = some domain ↔ cache.FakeIPLoadDomain domain addr.is6 = some addr := by
  have inverse : layered.view.symm (addr.is6, domain) = some addr ↔ layered.view addr = some (addr.is6, domain) :=
    layered.view.mem_iff_mem
  rw [layered.loadDomain, inverse, ← layered.load]
  simp

end

def Knows (cache : CacheFile) (address : Addr) : Prop := cache.FakeIPLoad address ≠ none

section
variable (layered : cache.Over pairs)
include layered

theorem Over.knows_iff (addr : Addr) :
    cache.Knows addr ↔ cache.pending.layer.forward addr ≠ none ∨ cache.writingLayer.forward addr ≠ none ∨
      pairs addr ≠ none := by
  have sees : cache.Knows addr ↔ layered.view addr ≠ none := by
    rw [← layered.load]
    simp [Knows]
  rw [sees, layered.view_apply]
  simp only [ne_eq, or_eq_none_iff]
  tauto

/-- Readers tell two cache files apart by what they see only. -/
theorem Over.load_congr {other : CacheFile} {otherPairs : Addr ≃. Name}
    (otherOver : other.Over otherPairs) (same : otherOver.view = layered.view) (addr : Addr) :
    other.FakeIPLoad addr = cache.FakeIPLoad addr := by
  have images : (other.FakeIPLoad addr).map (addr.is6, ·) = (cache.FakeIPLoad addr).map (addr.is6, ·) := by
    rw [otherOver.load, layered.load, same]
  exact map_injective (fun _ _ equal => congrArg snd equal) images

theorem Over.family {isIPv6 : Bool} (found : cache.FakeIPLoadDomain domain isIPv6 = some addr) : addr.is6 = isIPv6 := by
  rw [layered.loadDomain] at found
  have loaded : layered.view addr = some (isIPv6, domain) := layered.view.mem_iff_mem.mp found
  rw [← layered.load, map_eq_some_iff] at loaded
  obtain ⟨_, -, same⟩ := loaded
  exact congrArg fst same

theorem Over.consistent : cache.Consistent := by
  refine consistent_of_maps_back fun domain isIPv6 addr found => ?_
  cases layered.family found
  exact layered.load_eq_some_iff.mpr found

end

/-! ## Gathering writes -/

theorem load_queue (addr other : Addr) (domain : String) :
    (cache.queueFakeIP addr domain).FakeIPLoad other =
      if other = addr then some domain else cache.FakeIPLoad other := by
  simp only [FakeIPLoad, fakeIPDomain_queue, Table.lookup_put]
  by_cases same : other = addr
  · simp [same]
  · simp only [if_neg same]
    rfl

theorem Over.layer_queue (layered : cache.Over pairs) (addr : Addr) (domain : String) :
    (cache.queueFakeIP addr domain).pending.layer =
      (cache.pending.layer.evict (layered.view addr)).pair addr (addr.is6, domain) := by
  have old : ((cache.FakeIPLoad addr).or (cache.pending.fakeIPDomain.lookup addr)) = cache.FakeIPLoad addr := by
    unfold FakeIPLoad
    cases cache.pending.fakeIPDomain.lookup addr <;> simp
  rw [← layered.load]
  simp only [queueFakeIP, layer_pair, old]
  cases cache.FakeIPLoad addr with
  | none => rfl
  | some oldDomain =>
    by_cases same : oldDomain = domain
    · -- the tombstone would be overwritten at once
      subst same
      simp [evict, pair]
    · simp [same, layer_evict]

theorem Over.queue (layered : cache.Over pairs)
    (free : ∀ other, cache.FakeIPLoadDomain domain addr.is6 = some other → other = addr) :
    (cache.queueFakeIP addr domain).Over pairs := by
  refine { layered with pendingSound := ?_ }
  rw [layered.layer_queue]
  refine layered.pendingSound.assign fun other found => free other ?_
  rw [layered.loadDomain]
  exact found

/-! ## Flushing -/

theorem onto_of_eq_empty {layer : Layer Addr Name} (noPairs : layer = .empty) (sound : layer.Sound pairs) :
    layer.onto pairs sound = pairs := by
  subst noPairs
  rfl

variable {next : CacheFile}

/-- The pairs of a batch in the order in which they are walked. -/
def pairsOf (order : List (Addr × String)) :
    List (Addr × Name) := order.map fun entry => (entry.1, (entry.1.is6, entry.2))

theorem writingLayer_eq (isWriting : cache.writing = some writing) : cache.writingLayer = writing.layer := by
  rw [writingLayer, isWriting]

theorem lists_pairsOf (isWriting : cache.writing = some writing) (isOrder : order.Perm writing.fakeIPDomain.entries) :
    Layer.Lists (pairsOf order) cache.writingLayer where
  mem_iff := by
    intro addr name
    rw [writingLayer_eq isWriting]
    simp only [pairsOf, List.mem_map, isOrder.mem_iff, layer, map_eq_some_iff]
    constructor
    · rintro ⟨⟨_, domain⟩, isEntry, same⟩
      cases same
      exact ⟨domain, Table.mem_entries_iff.mp isEntry, rfl⟩
    · rintro ⟨domain, found, rfl⟩
      exact ⟨(addr, domain), Table.mem_entries_iff.mpr found, rfl⟩
  lefts := by
    have lefts : (pairsOf order).map fst = order.map fst := by
      rw [pairsOf, List.map_map]
      rfl
    rw [lefts]
    exact (isOrder.map fst).nodup_iff.mpr writing.fakeIPDomain.unique

section
variable (layered : cache.Over pairs)
include layered

theorem Over.writingLayer_eq_empty (unlocked : cache.flushAccess ≠ .flush) : cache.writingLayer = .empty := by
  have noBatch : cache.writing = none := by
    rw [← not_isSome_iff_eq_none, layered.locked]
    exact unlocked
  rw [writingLayer, noBatch]

theorem Over.pendingSound_of_unlocked (unlocked : cache.flushAccess ≠ .flush) : cache.pending.layer.Sound pairs := by
  have pendingSound := layered.pendingSound
  rwa [onto_of_eq_empty (layered.writingLayer_eq_empty unlocked)] at pendingSound

theorem Over.beginFlush (begins : cache.beginFlush = some next) :
    ∃ nextOver : next.Over pairs, nextOver.view = layered.view := by
  obtain ⟨free, rfl⟩ := beginFlush_eq_some_iff.mp begins
  have unlocked : cache.flushAccess ≠ .flush := by simp [free]
  refine ⟨{ holds := layered.holds
            writingSound := layered.pendingSound_of_unlocked unlocked
            pendingSound := ?_
            locked := by simp }, ?_⟩
  · rw [layer_empty]
    exact sound_empty _
  · refine PEquiv.ext fun addr => ?_
    rw [view_apply, view_apply, layered.writingLayer_eq_empty unlocked, layer_empty]
    simp [empty, writingLayer]

theorem Over.commitFlush (commits : cache.commitFlush order = some next) :
    ∃ nextPairs, ∃ nextOver : next.Over nextPairs, nextOver.view = layered.view := by
  obtain ⟨writing, database, isWriting, isOrder, writes, rfl⟩ := commitFlush_eq_some_iff.mp commits
  obtain ⟨indexes, named⟩ := Database.indexes_writePending writes
  refine ⟨cache.writingLayer.onto pairs layered.writingSound,
    { holds := ⟨?_, fun addr stored => layered.holds.named addr (named addr stored)⟩
      writingSound := Layer.sound_empty _
      pendingSound := layered.pendingSound
      locked := by simp }, ?_⟩
  · rw [indexes, layered.holds.indexes]
    exact Layer.putAll_eq (lists_pairsOf isWriting isOrder) layered.writingSound
  · refine PEquiv.ext fun addr => ?_
    rw [view_apply, view_apply]
    simp [writingLayer, Layer.empty, Layer.onto, Layer.load]

end

variable (pending : PendingWrites)

theorem layer_restoreFakeIP (addr : Addr) (domain : String) :
    (restoreFakeIP pending (addr, domain)).layer = pending.layer.readd (addr, (addr.is6, domain)) := by
  have unknownDomain : pending.layer.forward addr = none ↔ pending.fakeIPDomain.lookup addr = none := by
    simp [layer]
  have unknownAddr : pending.layer.backward (addr.is6, domain) = none ↔
      pending.fakeIPAddress domain addr.is6 = none := Iff.rfl
  unfold restoreFakeIP readd
  simp only [unknownDomain, unknownAddr]
  cases pending.fakeIPDomain.lookup addr with
  | some known => simp
  | none =>
    cases pending.fakeIPAddress domain addr.is6 with
    | some known => simp
    | none => simp [layer_pair]

theorem layer_restorePendingLocked (order : List (Addr × String)) (metadata : Option SingBox.FakeIPMetadata) :
    (restorePendingLocked pending order metadata).layer = pending.layer.restore (pairsOf order) := by
  have folds : (order.foldl restoreFakeIP pending).layer = pending.layer.restore (pairsOf order) := by
    induction order generalizing pending with
    | nil => rfl
    | cons entry order ih =>
      rw [List.foldl_cons, ih, layer_restoreFakeIP]
      rfl
  rw [← folds]
  rfl

/-- No domain that the batch has taken an address from would find it again in the database. -/
def Harmless (cache : CacheFile) : Prop :=
  ∀ writing ∈ cache.writing, ∀ domain isIPv6, writing.fakeIPAddress domain isIPv6 = some none →
    cache.pending.fakeIPAddress domain isIPv6 = none → (cache.database.domain isIPv6).lookup domain = none

theorem Over.harmless_iff (layered : cache.Over pairs) (isWriting : cache.writing = some writing) :
    cache.Harmless ↔ cache.pending.layer.Harmless cache.writingLayer pairs := by
  rw [writingLayer_eq isWriting]
  constructor
  · intro harmless name tombstone unknown
    rw [← layered.holds.domain]
    exact harmless writing isWriting name.2 name.1 tombstone unknown
  · intro harmless other isOther domain isIPv6 tombstone unknown
    cases isWriting.symm.trans isOther
    rw [layered.holds.domain]
    exact harmless (isIPv6, domain) tombstone unknown

section Fail

variable {order : List (Addr × String)} (layered : cache.Over pairs) (fails : cache.failFlush order = some next)
include layered fails

theorem Over.failFlush (harmless : cache.Harmless) : ∃ nextOver : next.Over pairs, nextOver.view = layered.view := by
  obtain ⟨writing, isWriting, isOrder, rfl⟩ := failFlush_eq_some_iff.mp fails
  have lists := lists_pairsOf isWriting isOrder
  refine ⟨{ holds := layered.holds
            writingSound := sound_empty _
            pendingSound := ?_
            locked := by simp }, ?_⟩
  · rw [layer_restorePendingLocked]
    exact Layer.Sound.restore layered.writingSound layered.pendingSound lists ((layered.harmless_iff isWriting).mp harmless)
  · refine PEquiv.ext fun addr => ?_
    rw [view_apply, view_apply, layer_restorePendingLocked,
      restore_forward layered.writingSound layered.pendingSound lists]
    simp [writingLayer, empty, Option.or_assoc]

/-- Any other failed flush breaks the agreement of the two directions. -/
theorem Over.failFlush_broken (harmful : ¬cache.Harmless) : ¬next.Consistent := by
  obtain ⟨writing, isWriting, isOrder, isNext⟩ := failFlush_eq_some_iff.mp fails
  have lists := lists_pairsOf isWriting isOrder
  rw [layered.harmless_iff isWriting] at harmful
  obtain ⟨addr, ⟨isIPv6, domain⟩, stored, found, differs⟩ :=
    restore_broken layered.writingSound layered.pendingSound lists harmful
  have family : addr.is6 = isIPv6 := by
    have inDb : pairs addr = some (isIPv6, domain) := pairs.mem_iff_mem.mp stored
    rw [← layered.holds.address, map_eq_some_iff] at inDb
    obtain ⟨_, -, same⟩ := inDb
    exact congrArg fst same
  subst family
  have nextHolds : next.database.Holds pairs := by
    rw [isNext]
    exact layered.holds
  have nextLayer : next.pending.layer = cache.pending.layer.restore (pairsOf order) := by
    rw [isNext, layer_restorePendingLocked]
  have noBatch : next.writingLayer = .empty := by rw [isNext, writingLayer]
  have nextFound : next.FakeIPLoadDomain domain addr.is6 = some addr := by
    rw [loadDomain_of_holds nextHolds, nextLayer, noBatch]
    exact found
  intro consistent
  refine differs ?_
  have loaded := load_of_holds nextHolds addr
  rw [consistent.maps_back nextFound, nextLayer, noBatch] at loaded
  exact loaded.symm

end Fail

/-! ## Resetting -/

theorem Over.beginReset (layered : cache.Over pairs) (begins : cache.beginReset = some next) :
    next.Over pairs ∧ ∀ addr, next.Knows addr → cache.Knows addr := by
  unfold CacheFile.beginReset at begins
  split at begins
  case isFalse => cases begins
  case isTrue free =>
    cases begins
    have nextOver : CacheFile.Over { cache with pending := {}, flushAccess := .reset } pairs :=
      { layered with
        pendingSound := by
          rw [layer_empty]
          exact sound_empty _
        locked := by simpa [free] using layered.locked }
    refine ⟨nextOver, fun addr knows => ?_⟩
    rw [nextOver.knows_iff, layer_empty] at knows
    rw [layered.knows_iff]
    rcases knows with impossible | inLayers
    · exact absurd rfl impossible
    · exact .inr inLayers

theorem Over.endReset (layered : cache.Over pairs) {commits : Bool} (ends : cache.endReset commits = some next) :
    ∃ nextPairs, next.Over nextPairs ∧ ∀ addr, next.Knows addr → cache.Knows addr := by
  unfold CacheFile.endReset at ends
  split at ends
  case isFalse => cases ends
  case isTrue resetting =>
    have unlocked : cache.flushAccess ≠ .flush := by simp [resetting]
    have noBatch := layered.writingLayer_eq_empty unlocked
    have locked : cache.writing.isSome ↔ FlushLock.free = FlushLock.flush := by simpa [resetting] using layered.locked
    cases ends
    cases commits with
    | false =>
      exact ⟨pairs, { layered with locked }, fun _ knows => knows⟩
    | true =>
      have nextOver : CacheFile.Over { cache with database := {}, flushAccess := .free } ⊥ :=
        { holds := Database.holds_empty
          writingSound := layered.writingSound.bot
          pendingSound := by
            have sound := (layered.pendingSound_of_unlocked unlocked).bot
            rwa [← onto_of_eq_empty noBatch layered.writingSound.bot] at sound
          locked := locked }
      refine ⟨⊥, nextOver, fun addr knows => ?_⟩
      rw [layered.knows_iff]
      rcases (nextOver.knows_iff addr).mp knows with inPending | inBatch | impossible
      · exact .inl inPending
      · exact .inr (.inl inBatch)
      · exact absurd rfl impossible

end Over

end CacheFile

end SingBox
