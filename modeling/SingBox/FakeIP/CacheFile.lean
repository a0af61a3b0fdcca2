import SingBox.Common.Netip
import SingBox.Lib.Table

/-! # The cache file as FakeIP storage

`experimental/cachefile`: FakeIP pairs and the allocation position are gathered in memory
and written to the database by `Flush`. While a flush writes, the batch it took is kept
aside for readers; a failed flush merges it back into what has been gathered since.

A flush and a reset hold the flush lock from their first to their last step, the other
operations may come in between. The DNS and RDRC entries of a batch are not part of the
model; they may make the database transaction fail like anything else, so that a failure is
an event of its own here.
-/

namespace SingBox

open Lib List

structure FakeIPMetadata where
  inet4Range : Prefix
  inet6Range : Prefix
  inet4Current : Option Addr
  inet6Current : Option Addr
deriving DecidableEq

/-- A missing value in `fakeIPAddress4` or `fakeIPAddress6`, the zero `netip.Addr` of the
source, says that the domain has lost its address. -/
structure PendingWrites where
  fakeIPDomain : Table Addr String := .empty
  fakeIPAddress4 : Table String (Option Addr) := .empty
  fakeIPAddress6 : Table String (Option Addr) := .empty
  fakeIPMetadata : Option FakeIPMetadata := none

namespace PendingWrites

variable (pending : PendingWrites)

def fakeIPAddress (domain : String) (isIPv6 : Bool) : Option (Option Addr) :=
  if isIPv6 then pending.fakeIPAddress6.lookup domain else pending.fakeIPAddress4.lookup domain

variable (isIPv6 : Bool)

/-- The assignment that `queueFakeIP` and `restorePendingLocked` make in one table or the
other. -/
def setFakeIPAddress (domain : String) (address : Option Addr) : PendingWrites :=
  if isIPv6 then { pending with fakeIPAddress6 := pending.fakeIPAddress6.put domain address }
  else { pending with fakeIPAddress4 := pending.fakeIPAddress4.put domain address }

variable (pending : PendingWrites)

@[simp] theorem fakeIPDomain_setAddress (domain : String)
    (addr : Option Addr) : (pending.setFakeIPAddress isIPv6 domain addr).fakeIPDomain = pending.fakeIPDomain := by
  cases isIPv6 <;> rfl

@[simp] theorem fakeIPMetadata_setAddress (domain : String)
    (addr : Option Addr) : (pending.setFakeIPAddress isIPv6 domain addr).fakeIPMetadata = pending.fakeIPMetadata := by
  cases isIPv6 <;> rfl

def setFakeIPDomain (pending : PendingWrites) (address : Addr) (domain : String) : PendingWrites :=
  { pending with fakeIPDomain := pending.fakeIPDomain.put address domain }

end PendingWrites

/-- The three buckets of the database, and the record of the first one that is not a pair. -/
structure Database where
  address : Table Addr String := .empty
  domain4 : Table String Addr := .empty
  domain6 : Table String Addr := .empty
  metadata : Option FakeIPMetadata := none

namespace Database

variable (database : Database)

def domain (isIPv6 : Bool) : Table String Addr :=
  if isIPv6 then database.domain6 else database.domain4

def setDomain (isIPv6 : Bool) (table : Table String Addr) : Database :=
  if isIPv6 then { database with domain6 := table } else { database with domain4 := table }

/-- The old domain of an address leaves the bucket if its entry is still about the address. -/
def dropDomain (bucket : Table String Addr) (oldDomain : Option String) (address : Addr) : Table String Addr :=
  match oldDomain with
  | some oldDomain => if bucket.lookup oldDomain = some address then bucket.erase oldDomain else bucket
  | none => bucket

/-- `putFakeIP`. The database takes no empty key. -/
def putFakeIP (address : Addr) (domain : String) : Option Database :=
  let oldDomain := database.address.lookup address
  let database := { database with address := database.address.put address domain }
  let bucket := dropDomain (database.domain address.is6) oldDomain address
  if domain = "" then none
  else some (database.setDomain address.is6 (bucket.put domain address))

/-- The part of `writePending` that concerns FakeIP. The order in which the source's map is
walked is any order of its entries. -/
def writePending (database : Database) (entries : List (Addr × String)) (metadata : Option FakeIPMetadata) :
    Option Database :=
  match entries with
  | [] =>
    match metadata with
    | some metadata => some { database with metadata := some metadata }
    | none => some database
  | (address, domain) :: entries =>
    (database.putFakeIP address domain).bind (·.writePending entries metadata)

end Database

/-- Who holds the flush lock. -/
inductive FlushLock where
  | free
  | flush
  | reset
deriving DecidableEq

structure CacheFile where
  pending : PendingWrites := {}
  writing : Option PendingWrites := none
  database : Database := {}
  flushAccess : FlushLock := .free

namespace CacheFile

/-! ## Reading -/

variable (cache : CacheFile)

def FakeIPMetadata : Option FakeIPMetadata := cache.database.metadata

variable (address : Addr)

/-- An empty text in the database counts as no answer. -/
def FakeIPLoad : Option String :=
  let domain := cache.pending.fakeIPDomain.lookup address
  let domain := domain.or (cache.writing.bind fun writing => writing.fakeIPDomain.lookup address)
  domain.or ((cache.database.address.lookup address).filter (· ≠ ""))

variable (domain : String)

def FakeIPLoadDomain (isIPv6 : Bool) : Option Addr :=
  let address := cache.pending.fakeIPAddress domain isIPv6
  let address := address.or (cache.writing.bind fun writing => writing.fakeIPAddress domain isIPv6)
  address.getD ((cache.database.domain isIPv6).lookup domain)

/-! ## Gathering writes -/

def queueFakeIP : CacheFile :=
  let oldDomain := cache.FakeIPLoad address
  let oldDomain := oldDomain.or (cache.pending.fakeIPDomain.lookup address)
  let pending :=
    match oldDomain with
    | some oldDomain =>
      if oldDomain ≠ domain then cache.pending.setFakeIPAddress address.is6 oldDomain none else cache.pending
    | none => cache.pending
  let pending := pending.setFakeIPDomain address domain
  { cache with pending := pending.setFakeIPAddress address.is6 domain (some address) }

theorem fakeIPDomain_queue (addr : Addr) (domain : String) :
    (cache.queueFakeIP addr domain).pending.fakeIPDomain = cache.pending.fakeIPDomain.put addr domain := by
  simp only [queueFakeIP, PendingWrites.fakeIPDomain_setAddress, PendingWrites.setFakeIPDomain]
  split
  · split
    · rw [PendingWrites.fakeIPDomain_setAddress]
    · rfl
  · rfl

theorem fakeIPMetadata_queue (addr : Addr) (domain : String) :
    (cache.queueFakeIP addr domain).pending.fakeIPMetadata = cache.pending.fakeIPMetadata := by
  simp only [queueFakeIP, PendingWrites.fakeIPMetadata_setAddress, PendingWrites.setFakeIPDomain]
  split
  · split
    · rw [PendingWrites.fakeIPMetadata_setAddress]
    · rfl
  · rfl

def FakeIPStoreAsync : CacheFile := cache.queueFakeIP address domain

def FakeIPSaveMetadataAsync (metadata : SingBox.FakeIPMetadata) : CacheFile :=
  { cache with pending := { cache.pending with fakeIPMetadata := some metadata } }

/-! ## Flushing and resetting -/

/-- `Flush`, up to the transaction. A batch with no FakeIP data may still have others. -/
def beginFlush : Option CacheFile :=
  if cache.flushAccess = .free then
    some { cache with writing := some cache.pending, pending := {}, flushAccess := .flush }
  else none

variable (order : List (Addr × String))

/-- `Flush` after its transaction has been committed. -/
def commitFlush : Option CacheFile :=
  match cache.writing with
  | some writing =>
    if order.isPerm writing.fakeIPDomain.entries then
      (cache.database.writePending order writing.fakeIPMetadata).map fun database =>
        { cache with database, writing := none, flushAccess := .free }
    else none
  | none => none

variable (pending : PendingWrites)

def restoreFakeIP (entry : Addr × String) : PendingWrites :=
  let (address, domain) := entry
  if (pending.fakeIPDomain.lookup address).isSome then pending
  else if (pending.fakeIPAddress domain address.is6).isSome then pending
  else (pending.setFakeIPDomain address domain).setFakeIPAddress address.is6 domain (some address)

/-- `restorePendingLocked` for an order of the entries of the batch. -/
def restorePendingLocked (order : List (Addr × String)) (metadata : Option SingBox.FakeIPMetadata) : PendingWrites :=
  let pending := order.foldl restoreFakeIP pending
  { pending with fakeIPMetadata := pending.fakeIPMetadata.or metadata }

/-- `Flush` after its transaction has failed. -/
def failFlush : Option CacheFile :=
  match cache.writing with
  | some writing =>
    if order.isPerm writing.fakeIPDomain.entries then
      some { cache with
        pending := restorePendingLocked cache.pending order writing.fakeIPMetadata
        writing := none
        flushAccess := .free }
    else none
  | none => none

/-- `FakeIPReset`, up to its transaction. -/
def beginReset : Option CacheFile :=
  if cache.flushAccess = .free then some { cache with pending := {}, flushAccess := .reset } else none

/-- The transaction of `FakeIPReset` deletes the three buckets or nothing. -/
def endReset (commits : Bool) : Option CacheFile :=
  if cache.flushAccess = .reset then
    some { cache with database := if commits then {} else cache.database, flushAccess := .free }
  else none

/-! ## What a step of a flush does -/

section Steps

variable {cache next : CacheFile}

theorem beginFlush_eq_some_iff :
    cache.beginFlush = some next ↔ cache.flushAccess = .free ∧
      next = { cache with writing := some cache.pending, pending := {}, flushAccess := .flush } := by
  unfold beginFlush
  split <;> simp_all [eq_comm]

variable {order : List (Addr × String)}

theorem commitFlush_eq_some_iff :
    cache.commitFlush order = some next ↔ ∃ writing database, cache.writing = some writing ∧
      order.Perm writing.fakeIPDomain.entries ∧
      cache.database.writePending order writing.fakeIPMetadata = some database ∧
      next = { cache with database, writing := none, flushAccess := .free } := by
  unfold commitFlush
  cases cache.writing with
  | none => simp
  | some writing =>
    by_cases isOrder : order.Perm writing.fakeIPDomain.entries
    · simp [isPerm_iff.mpr isOrder, isOrder, eq_comm (a := next)]
    · have notOrder : order.isPerm writing.fakeIPDomain.entries = false := by
        rwa [← Bool.not_eq_true, isPerm_iff]
      simp [notOrder, isOrder]

theorem failFlush_eq_some_iff :
    cache.failFlush order = some next ↔ ∃ writing, cache.writing = some writing ∧
      order.Perm writing.fakeIPDomain.entries ∧
      next = { cache with
        pending := restorePendingLocked cache.pending order writing.fakeIPMetadata
        writing := none
        flushAccess := .free } := by
  unfold failFlush
  cases cache.writing with
  | none => simp
  | some writing =>
    by_cases isOrder : order.Perm writing.fakeIPDomain.entries
    · simp [isPerm_iff.mpr isOrder, isOrder, eq_comm]
    · have notOrder : order.isPerm writing.fakeIPDomain.entries = false := by
        rwa [← Bool.not_eq_true, isPerm_iff]
      simp [notOrder, isOrder]

end Steps

end CacheFile

end SingBox
