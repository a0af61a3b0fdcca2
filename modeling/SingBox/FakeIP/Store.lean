import SingBox.FakeIP.CacheFile
import SingBox.Lib.Machine

/-! # Allocation of FakeIP addresses

`dns/transport/fakeip/store.go` over the cache file, seen twice. In `Traffic` a call of
`Create` is one event among the flushes and resets of the cache file, which may fail. In
`System` it is taken apart: `Create` holds the address lock while it allocates, so at most
one call is past its check, and flushes happen between any two of its steps.
-/

namespace SingBox

/-! ## Addresses -/

def Addr.next : Addr → Option Addr
  | .v4 value => if value = BitVec.allOnes 32 then none else some (.v4 (value + 1))
  | .v6 value => if value = BitVec.allOnes 128 then none else some (.v6 (value + 1))

namespace FakeIP

/-- All bits behind the first `bits` ones are set, from the front to the back. -/
def setHostBits {width : Nat} (value : BitVec width) (bits : Nat) : BitVec width :=
  (List.range' bits (width - bits)).foldl (fun raw i => raw ||| BitVec.twoPow width (width - 1 - i)) value

variable (addressRange : Prefix)

def broadcastAddress : Option Addr :=
  match addressRange.addr, addressRange.bits with
  | some (.v4 value), some bits => some (.v4 (setHostBits value bits))
  | some (.v6 value), some bits => some (.v6 (setHostBits value bits))
  | _, _ => none

/-- The address that the allocation starts from again behind the end of the range. -/
def firstAddress : Option Addr := (addressRange.addr.bind Addr.next).bind Addr.next

def nextAddress (last current : Option Addr) : Option Addr :=
  let address := current.bind Addr.next
  if address = last ∨ ¬address.any addressRange.contains then firstAddress addressRange else address

end FakeIP

/-! ## The store -/

open FakeIP

def reservedAddressCount : Nat := 1024

structure Store where
  inet4Range : Prefix
  inet6Range : Prefix
  inet4Last : Option Addr
  inet6Last : Option Addr
  inet4Current : Option Addr := none
  inet6Current : Option Addr := none
  reservedCount : Nat := 0

namespace Store

def NewStore (inet4Range inet6Range : Prefix) : Store where
  inet4Range := inet4Range
  inet6Range := inet6Range
  inet4Last := if inet4Range.isValid then broadcastAddress inet4Range else none
  inet6Last := if inet6Range.isValid then broadcastAddress inet6Range else none

/-- An invalid range has no addresses: the position stays the zero address. -/
def startOf (addressRange : Prefix) : Option Addr :=
  if addressRange.isValid then addressRange.addr.bind Addr.next else none

variable (store : Store) (cache : CacheFile)

/-- `Start`, with whether the transaction of its `FakeIPReset` succeeds; its failure is only
logged. -/
def Start (resetCommits : Bool) : Store × CacheFile :=
  let fresh : Store × CacheFile :=
    ({ store with inet4Current := startOf store.inet4Range, inet6Current := startOf store.inet6Range },
     { cache with pending := {}, database := if resetCommits then {} else cache.database })
  match cache.FakeIPMetadata with
  | some metadata =>
    if metadata.inet4Range = store.inet4Range ∧ metadata.inet6Range = store.inet6Range then
      ({ store with inet4Current := metadata.inet4Current, inet6Current := metadata.inet6Current }, cache)
    else fresh
  | none => fresh

variable (isIPv6 : Bool)

def rangeFor : Prefix := if isIPv6 then store.inet6Range else store.inet4Range

def lastFor : Option Addr := if isIPv6 then store.inet6Last else store.inet4Last

def currentFor : Option Addr := if isIPv6 then store.inet6Current else store.inet4Current

def loadDomain (domain : String) (isIPv6 : Bool) : Option Addr :=
  (cache.FakeIPLoadDomain domain isIPv6).filter (store.rangeFor isIPv6).contains

def metadata : FakeIPMetadata where
  inet4Range := store.inet4Range
  inet6Range := store.inet6Range
  inet4Current := store.inet4Current
  inet6Current := store.inet6Current

/-- One round of the reservation's loop. -/
def reserveNext (metadata : FakeIPMetadata) : FakeIPMetadata :=
  let metadata :=
    if metadata.inet4Current.isSome then
      { metadata with inet4Current := nextAddress store.inet4Range store.inet4Last metadata.inet4Current }
    else metadata
  if metadata.inet6Current.isSome then
    { metadata with inet6Current := nextAddress store.inet6Range store.inet6Last metadata.inet6Current }
  else metadata

/-- The position that a reservation saves. -/
def reserved : FakeIPMetadata := store.reserveNext^[reservedAddressCount] store.metadata

/-- The position moves on by one address. -/
def advance : Store :=
  let store := { store with reservedCount := store.reservedCount - 1 }
  if isIPv6 then { store with inet6Current := nextAddress store.inet6Range store.inet6Last store.inet6Current }
  else { store with inet4Current := nextAddress store.inet4Range store.inet4Last store.inet4Current }

/-- `Create` for a domain that has no address yet: the store behind it, and what it returns.
It is refused where there is no position. -/
def createNew (store : Store) (isIPv6 : Bool) : Store × Option (Option Addr) :=
  if (store.currentFor isIPv6).isNone then (store, none)
  else (store.advance isIPv6, some ((store.advance isIPv6).currentFor isIPv6))

end Store

/-- The ranges of the configuration, each of its family. -/
structure Ranges where
  inet4 : Prefix
  inet6 : Prefix
  isInet4 : ∀ addr ∈ inet4.addr, addr.is6 = false
  isInet6 : ∀ addr ∈ inet6.addr, addr.is6

variable (ranges : Ranges)

/-- The store and its cache file after `Start`. -/
def Ranges.start (cache : CacheFile) (resetCommits : Bool) : Store × CacheFile :=
  (Store.NewStore ranges.inet4 ranges.inet6).Start cache resetCommits

/-! ## Whole calls -/

structure Traffic where
  store : Store
  cache : CacheFile

inductive Call where
  | create (domain : String) (isIPv6 : Bool)
  | flush
  | commit (order : List (Addr × String))
  | fail (order : List (Addr × String))
  | beginReset
  | endReset (commits : Bool)
deriving DecidableEq

namespace Traffic

variable (traffic : Traffic)

/-- `Create` without the reservation, whose flush is an event of its own. A call that needs
no new address changes nothing, and neither does one for a family without a range.
Nothing is modelled where the range lies at the very end of the address space and has no
address to start from again. -/
def create (domain : String) (isIPv6 : Bool) : Option Traffic :=
  if (traffic.store.loadDomain traffic.cache domain isIPv6).isSome then some traffic
  else if (traffic.store.currentFor isIPv6).isNone then some traffic
  else
    let store := traffic.store.advance isIPv6
    (store.currentFor isIPv6).map fun address =>
      { store, cache := (traffic.cache.FakeIPStoreAsync address domain).FakeIPSaveMetadataAsync store.metadata }

theorem create_eq_createNew {domain : String} {isIPv6 : Bool}
    (absent : traffic.store.loadDomain traffic.cache domain isIPv6 = none) :
    traffic.create domain isIPv6 =
      match traffic.store.createNew isIPv6 with
      | (_, none) => some traffic
      | (store, some address) => address.map fun address =>
        { store, cache := (traffic.cache.FakeIPStoreAsync address domain).FakeIPSaveMetadataAsync store.metadata } := by
  rw [create, Store.createNew, absent, if_neg (by simp)]
  split <;> rfl

def step : Call → Option Traffic
  | .create domain isIPv6 => traffic.create domain isIPv6
  | .flush => traffic.cache.beginFlush.map fun cache => { traffic with cache }
  | .commit order => (traffic.cache.commitFlush order).map fun cache => { traffic with cache }
  | .fail order => (traffic.cache.failFlush order).map fun cache => { traffic with cache }
  | .beginReset => traffic.cache.beginReset.map fun cache => { traffic with cache }
  | .endReset commits => (traffic.cache.endReset commits).map fun cache => { traffic with cache }

/-- A store that has just been started on an empty cache file. -/
def start : Traffic where
  store := (ranges.start {} true).1
  cache := (ranges.start {} true).2

end Traffic

/-! ## The steps of a call -/

/-- How far the call of `Create` that holds the address lock has come. -/
inductive Phase where
  | idle
  /-- The reserved position has been queued and is to be flushed. -/
  | saving (domain : String) (isIPv6 : Bool)
  /-- The flush that the call makes itself is under way. -/
  | flushing (domain : String) (isIPv6 : Bool)
  | allocating (domain : String) (isIPv6 : Bool)
  /-- The pair has been queued, the new position has not. -/
  | stored (address : Addr) (domain : String)
deriving DecidableEq

structure System where
  store : Store
  cache : CacheFile
  phase : Phase := .idle
  /-- The addresses that `Create` has allocated and returned. -/
  issued : List (Addr × String) := []

inductive Label where
  | create (domain : String) (isIPv6 : Bool)
  | flushOwn
  | flushNothing
  | allocate
  | record
  | flush
  | commit (order : List (Addr × String))
deriving DecidableEq

namespace System

variable (system : System) (domain : String)

def create (isIPv6 : Bool) : System :=
  if (system.store.loadDomain system.cache domain isIPv6).isSome then system
  else if (system.store.currentFor isIPv6).isNone then system
  else if system.store.reservedCount = 0 then
    { system with
      cache := system.cache.FakeIPSaveMetadataAsync system.store.reserved
      phase := .saving domain isIPv6 }
  else { system with phase := .allocating domain isIPv6 }

/-- The call goes on once its flush is over. -/
def saved : System :=
  match system.phase with
  | .flushing domain isIPv6 =>
    { system with
      store := { system.store with reservedCount := reservedAddressCount }
      phase := .allocating domain isIPv6 }
  | _ => system

def allocate (isIPv6 : Bool) : Option System :=
  let store := system.store.advance isIPv6
  (store.currentFor isIPv6).map fun address =>
    { system with store, cache := system.cache.FakeIPStoreAsync address domain, phase := .stored address domain }

def record (address : Addr) (domain : String) : System :=
  { system with
    cache := system.cache.FakeIPSaveMetadataAsync system.store.metadata
    phase := .idle
    issued := (address, domain) :: system.issued }

def step (label : Label) : Option System :=
  match label, system.phase with
  | .create domain isIPv6, .idle => some (system.create domain isIPv6)
  | .flushOwn, .saving domain isIPv6 =>
    system.cache.beginFlush.map fun cache => { system with cache, phase := .flushing domain isIPv6 }
  | .flushNothing, .saving domain isIPv6 =>
    -- another flush has taken the reserved position along, and nothing came after it
    if system.cache.flushAccess = .free ∧ system.cache.pending.fakeIPDomain.entries = [] ∧
        system.cache.pending.fakeIPMetadata = none then
      some ({ system with phase := .flushing domain isIPv6 } : System).saved
    else none
  | .allocate, .allocating domain isIPv6 => system.allocate domain isIPv6
  | .record, .stored address domain => some (system.record address domain)
  | .flush, _ => system.cache.beginFlush.map fun cache => { system with cache }
  | .commit order, _ => (system.cache.commitFlush order).map fun cache => ({ system with cache } : System).saved
  | _, _ => none

/-- The system after `Start`. -/
def start (cache : CacheFile) (resetCommits : Bool) : System where
  store := (ranges.start cache resetCommits).1
  cache := (ranges.start cache resetCommits).2

/-- What a crash leaves: the database as it was last committed. -/
def crash : CacheFile := { database := system.cache.database }

def traffic : Traffic where
  store := system.store
  cache := system.cache

/-- A call that is past its check and is not interrupted does what `Traffic.create` does. -/
theorem run_allocate {isIPv6 : Bool} (isPhase : system.phase = .allocating domain isIPv6)
    (absent : system.store.loadDomain system.cache domain isIPv6 = none)
    (positioned : (system.store.currentFor isIPv6).isSome) :
    (Lib.Machine.run step system [.allocate, .record]).map traffic = system.traffic.create domain isIPv6 := by
  rw [Traffic.create_eq_createNew _ absent, Store.createNew]
  simp only [traffic, Option.isNone_eq_false_iff.mpr positioned, Bool.false_eq_true, if_false]
  simp only [Lib.Machine.run, step, isPhase, allocate]
  cases (system.store.advance isIPv6).currentFor isIPv6 <;> rfl

end System

end SingBox
