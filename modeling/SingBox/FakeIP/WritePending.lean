import Mathlib.Data.List.Induction
import SingBox.Common.Netip
import SingBox.Lib.Guard
import SingBox.Lib.Table

/-! # One transaction for everything that is pending

`experimental/cachefile/pending.go`: DNS answers, rejected responses and FakeIP pairs are
gathered by `queueDNSCache`, `queueRDRC` and `queueFakeIP` and written in one transaction.
A key that the database refuses fails the whole of it, and `Flush` puts the batch back.
-/

namespace SingBox.Pending

open Lib Lib.Guard List

abbrev Bytes := List UInt8

/-! ## The database -/

inductive BoltError where
  | bucketNameRequired
  | keyRequired
  | keyTooLarge
deriving DecidableEq, Repr

def maxKeySize : Nat := 32768

/-- What the buckets hold, each by the names on its path. -/
@[ext] structure Bolt where
  value : List Bytes → Bytes → Option Bytes := fun _ _ => none

abbrev Tx := StateT Bolt (Except BoltError)

variable (path : List Bytes)

def createBucketIfNotExists (name : Bytes) : Tx (List Bytes) := do
  StateT.lift (ensure (name ≠ []) .bucketNameRequired)
  return path ++ [name]

def get (key : Bytes) : Tx (Option Bytes) := return (← StateT.get).value path key

/-- The entry of a key, or none at all. -/
def Bolt.set (bolt : Bolt) (key : Bytes) (value : Option Bytes) : Bolt :=
  ⟨fun other otherKey => if other = path ∧ otherKey = key then value else bolt.value other otherKey⟩

def set (key : Bytes) (value : Option Bytes) : Tx Unit := modify (Bolt.set path · key value)

def put (key value : Bytes) : Tx Unit := do
  StateT.lift (ensure (key ≠ []) .keyRequired)
  StateT.lift (ensure (key.length ≤ maxKeySize) .keyTooLarge)
  set path key (some value)

/-! ## What is queued -/

/-- `saveCacheKey`. The transport manager takes no empty tag, which begins the transport's
name. The name of a question that was never packed may have any length. -/
structure SaveCacheKey where
  transportName : Bytes
  questionName : Bytes
  qType : UInt16
  tagged : transportName ≠ []
deriving DecidableEq

def SaveCacheKey.keyBytes (key : SaveCacheKey) : Bytes :=
  [UInt8.ofNat (key.qType.toNat / 256), UInt8.ofNat key.qType.toNat] ++ key.questionName

/-- A domain that `Transport.Exchange` admits. -/
structure Domain where
  text : Bytes
  short : text.length ≤ 255

/-- A call of the asynchronous interface. Address `none` is the zero `netip.Addr`. -/
inductive Call where
  | saveDNSCacheAsync (key : SaveCacheKey) (value : Bytes)
  | saveRDRCAsync (key : SaveCacheKey)
  | fakeIPStoreAsync (address : Option Addr) (domain : Domain)
  | fakeIPSaveMetadataAsync (metadata : Bytes)

/-- `pendingWrites`, as far as the transaction looks at it. -/
structure PendingWrites where
  dnsCache : Table SaveCacheKey Bytes := .empty
  rdrc : Table SaveCacheKey Unit := .empty
  fakeIPDomain : Table (Option Addr) Domain := .empty
  fakeIPMetadata : Option Bytes := none

def queue (pending : PendingWrites) : Call → PendingWrites
  | .saveDNSCacheAsync key value => { pending with dnsCache := pending.dnsCache.put key value }
  | .saveRDRCAsync key => { pending with rdrc := pending.rdrc.put key () }
  | .fakeIPStoreAsync address domain => { pending with fakeIPDomain := pending.fakeIPDomain.put address domain }
  | .fakeIPSaveMetadataAsync metadata => { pending with fakeIPMetadata := some metadata }

variable (calls : List Call)

/-- The pending batch behind the calls. -/
def gather : PendingWrites := calls.foldl queue {}

/-! ## The transaction -/

/-- An order in which the maps of a batch are walked. -/
structure Order (pending : PendingWrites) where
  dnsCache : List (SaveCacheKey × Bytes)
  rdrc : List (SaveCacheKey × Unit)
  fakeIPDomain : List (Option Addr × Domain)
  dnsCachePerm : dnsCache.Perm pending.dnsCache.entries
  rdrcPerm : rdrc.Perm pending.rdrc.entries
  fakeIPDomainPerm : fakeIPDomain.Perm pending.fakeIPDomain.entries

def text (chars : List Char) : Bytes := chars.map fun char => UInt8.ofNat char.toNat

def bucketDNSCache : Bytes := text ['d', 'n', 's', '_', 'c', 'a', 'c', 'h', 'e']
def bucketRDRC : Bytes := text ['r', 'd', 'r', 'c', '2']
def fakeipBucket (rest : List Char) : Bytes := text (['f', 'a', 'k', 'e', 'i', 'p', '_'] ++ rest)
def bucketFakeIP : Bytes := fakeipBucket ['a', 'd', 'd', 'r', 'e', 's', 's']
def bucketFakeIPDomain4 : Bytes := fakeipBucket ['d', 'o', 'm', 'a', 'i', 'n', '4']
def bucketFakeIPDomain6 : Bytes := fakeipBucket ['d', 'o', 'm', 'a', 'i', 'n', '6']
def keyMetadata : Bytes := fakeipBucket ['m', 'e', 't', 'a', 'd', 'a', 't', 'a']

variable (cacheID : Option Bytes)

/-- With a cache identifier, the buckets are inside one of its own. -/
def createBucket (name : Bytes) : Tx (List Bytes) :=
  match cacheID with
  | none => createBucketIfNotExists [] name
  | some cacheID => do createBucketIfNotExists (← createBucketIfNotExists [] (0 :: cacheID)) name

variable (bucket : List Bytes)

def putCacheEntry (key : SaveCacheKey) (value : Bytes) : Tx Unit := do
  put (← createBucketIfNotExists bucket key.transportName) key.keyBytes value

variable (address : Option Addr)

def addressBytes : Bytes := (address.map Addr.asSlice).getD []

/-- The old domain of an address leaves the bucket if its entry is still about the address. -/
def dropDomain (address : Bytes) : Option Bytes → Tx Unit
  | some oldDomain => do if (← get bucket oldDomain) = some address then set bucket oldDomain none
  | none => pure ()

def domainBucket (isIPv4 : Bool) : Bytes := if isIPv4 then bucketFakeIPDomain4 else bucketFakeIPDomain6

def putFakeIP (domain : Bytes) : Tx Unit := do
  let bucket ← createBucketIfNotExists [] bucketFakeIP
  let oldDomain ← get bucket (addressBytes address)
  put bucket (addressBytes address) domain
  let bucket ← createBucketIfNotExists [] (domainBucket (address.any Addr.is4))
  dropDomain bucket (addressBytes address) oldDomain
  put bucket domain (addressBytes address)

def putFakeIPMetadata (metadata : Bytes) : Tx Unit := do
  put (← createBucketIfNotExists [] bucketFakeIP) keyMetadata metadata

/-- The two maps of the domain name system create their bucket only for an entry. -/
def putCacheEntries (name : Bytes) (entries : List (SaveCacheKey × Bytes)) : Tx Unit :=
  if entries.isEmpty then pure ()
  else do
    let bucket ← createBucket cacheID name
    entries.forM fun entry => putCacheEntry bucket entry.1 entry.2

def writePending (expiresAt : Bytes) {pending : PendingWrites} (order : Order pending) :
    Tx Unit := do
  putCacheEntries cacheID bucketDNSCache order.dnsCache
  putCacheEntries cacheID bucketRDRC (order.rdrc.map fun entry => (entry.1, expiresAt))
  order.fakeIPDomain.forM fun entry => putFakeIP entry.1 entry.2.text
  pending.fakeIPMetadata.forM putFakeIPMetadata

/-! ## What an action does -/

section Actions

variable {path : List Bytes} {key value : Bytes} {bolt : Bolt}

theorem put_eq_ok {result : Unit × Bolt} :
    (put path key value).run bolt = .ok result ↔
      (key ≠ [] ∧ key.length ≤ maxKeySize) ∧ bolt.set path key (some value) = result.2 := by
  have isSet : (set path key (some value)).run bolt = .ok ((), bolt.set path key (some value)) := rfl
  simp [put, bind_eq_ok, isSet, Prod.ext_iff, and_assoc]

theorem create_eq_ok {name : Bytes} {result : List Bytes × Bolt} :
    (createBucketIfNotExists path name).run bolt = .ok result ↔ name ≠ [] ∧ (path ++ [name], bolt) = result := by
  by_cases named : name = [] <;> simp [createBucketIfNotExists, ensure, named]

def Bolt.dropDomain (bolt : Bolt) (path : List Bytes) (address : Bytes) (oldDomain : Option Bytes) : Bolt :=
  ⟨fun other key =>
    if other = path ∧ oldDomain = some key ∧ bolt.value path key = some address then none else bolt.value other key⟩

theorem dropDomain_run (address : Bytes) (oldDomain : Option Bytes) :
    (Pending.dropDomain path address oldDomain).run bolt = .ok ((), bolt.dropDomain path address oldDomain) := by
  cases oldDomain with
  | none => simp [Pending.dropDomain, Bolt.dropDomain]
  | some oldDomain =>
    have isDropped : (if bolt.value path oldDomain = some address then bolt.set path oldDomain none else bolt) =
        bolt.dropDomain path address (some oldDomain) := by
      refine Bolt.ext (funext₂ fun other key => ?_)
      grind [Bolt.set, Bolt.dropDomain]
    rw [← isDropped]
    change StateT.run (if bolt.value path oldDomain = some address then set path oldDomain none else pure ()) bolt = _
    split <;> rfl

theorem putFakeIP_eq_ok {address : Option Addr} {domain : Bytes} {result : Unit × Bolt} :
    (putFakeIP address domain).run bolt = .ok result ↔
      ((addressBytes address ≠ [] ∧ (addressBytes address).length ≤ maxKeySize) ∧
        domain ≠ [] ∧ domain.length ≤ maxKeySize) ∧
      ((bolt.set [bucketFakeIP] (addressBytes address) (some domain)).dropDomain [domainBucket (address.any Addr.is4)]
        (addressBytes address) (bolt.value [bucketFakeIP] (addressBytes address))).set
          [domainBucket (address.any Addr.is4)] domain (some (addressBytes address)) = result.2 := by
  have named (isIPv4 : Bool) : domainBucket isIPv4 ≠ [] := by cases isIPv4 <;> decide
  have isGet : (get [bucketFakeIP] (addressBytes address)).run bolt =
    .ok (bolt.value [bucketFakeIP] (addressBytes address), bolt) := rfl
  simp [putFakeIP, bind_eq_ok, create_eq_ok, isGet, put_eq_ok, dropDomain_run, named, (by decide : bucketFakeIP ≠ []),
    and_assoc]

end Actions

/-! ## When it succeeds -/

/-- In every state the action succeeds under the one condition. -/
def Succeeds {α : Type} (action : Tx α) (condition : Prop) : Prop :=
  ∀ bolt, (∃ result, action.run bolt = .ok result) ↔ condition

section Succeeds

variable {α β : Type} {condition later : Prop}

theorem Succeeds.pure (value : α) : Succeeds (pure value : Tx α) True := fun _ => ⟨fun _ => trivial, fun _ => ⟨_, rfl⟩⟩

theorem Succeeds.bind {action : Tx α} {next : α → Tx β} (first : Succeeds action condition)
    (second : ∀ value, Succeeds (next value) later) : Succeeds (action >>= next) (condition ∧ later) := by
  intro bolt
  simp only [StateT.run_bind, bind_eq_ok]
  constructor
  · rintro ⟨result, ⟨value, bolt'⟩, isFirst, isSecond⟩
    exact ⟨(first bolt).mp ⟨_, isFirst⟩, (second value bolt').mp ⟨result, isSecond⟩⟩
  · rintro ⟨holds, later⟩
    obtain ⟨⟨value, bolt'⟩, isFirst⟩ := (first bolt).mpr holds
    obtain ⟨result, isSecond⟩ := (second value bolt').mpr later
    exact ⟨result, _, isFirst, isSecond⟩

theorem Succeeds.congr {action : Tx α} (succeeds : Succeeds action condition) (same : condition ↔ later) :
    Succeeds action later := fun bolt => (succeeds bolt).trans same

theorem succeeds_forM {entries : List α} {action : α → Tx Unit} {check : α → Prop}
    (each : ∀ entry, Succeeds (action entry) (check entry)) :
    Succeeds (entries.forM action) (∀ entry ∈ entries, check entry) := by
  induction entries with
  | nil => exact (Succeeds.pure ()).congr (by simp)
  | cons entry entries ih => exact ((each entry).bind fun _ => ih).congr (by simp)

variable (cacheID : Option Bytes)

theorem succeeds_createBucket {name : Bytes} (named : name ≠ []) : Succeeds (createBucket cacheID name) True := by
  intro bolt
  cases cacheID <;> simp [createBucket, bind_eq_ok, create_eq_ok, named]

theorem succeeds_putCacheEntries {name : Bytes} (named : name ≠ []) (entries : List (SaveCacheKey × Bytes)) :
    Succeeds (putCacheEntries cacheID name entries) (∀ entry ∈ entries, entry.1.keyBytes.length ≤ maxKeySize) := by
  have entry (bucket : List Bytes) (key : SaveCacheKey) (value : Bytes) :
      Succeeds (putCacheEntry bucket key value) (key.keyBytes.length ≤ maxKeySize) := by
    intro bolt
    simp [putCacheEntry, bind_eq_ok, create_eq_ok, put_eq_ok, key.tagged, SaveCacheKey.keyBytes]
  unfold putCacheEntries
  split
  next isEmpty => exact (Succeeds.pure ()).congr (by simp [isEmpty_iff.mp isEmpty])
  next =>
    refine ((succeeds_createBucket cacheID named).bind fun bucket => ?_).congr (iff_of_eq (true_and _))
    exact succeeds_forM fun pair => entry bucket pair.1 pair.2

variable (address : Option Addr)

theorem addressBytes_eq :
    (addressBytes address ≠ [] ∧ (addressBytes address).length ≤ maxKeySize) ↔ address ≠ none := by
  cases address with
  | none => simp [addressBytes]
  | some address => cases address <;> simp [addressBytes, Addr.asSlice, maxKeySize, ← length_pos_iff]

theorem succeeds_putFakeIP (domain : Domain) :
    Succeeds (putFakeIP address domain.text) (address ≠ none ∧ domain.text ≠ []) := by
  have short : domain.text.length ≤ maxKeySize := Nat.le_trans domain.short (by decide)
  intro bolt
  simp [putFakeIP_eq_ok, addressBytes_eq, short]

theorem succeeds_putFakeIPMetadata (metadata : Option Bytes) : Succeeds (metadata.forM putFakeIPMetadata) True := by
  cases metadata with
  | none => exact Succeeds.pure PUnit.unit
  | some metadata =>
    intro bolt
    simp [putFakeIPMetadata, create_eq_ok, put_eq_ok, bucketFakeIP, keyMetadata, fakeipBucket, text, maxKeySize]

theorem succeeds_writePending (expiresAt : Bytes) {pending : PendingWrites} (order : Order pending) :
    Succeeds (writePending cacheID expiresAt order)
      ((∀ entry ∈ pending.dnsCache.entries, entry.1.keyBytes.length ≤ maxKeySize) ∧
        (∀ entry ∈ pending.rdrc.entries, entry.1.keyBytes.length ≤ maxKeySize) ∧
        ∀ entry ∈ pending.fakeIPDomain.entries, entry.1 ≠ none ∧ entry.2.text ≠ []) := by
  have dnsCache := succeeds_putCacheEntries cacheID (by decide : bucketDNSCache ≠ []) order.dnsCache
  have rdrc := succeeds_putCacheEntries cacheID (by decide : bucketRDRC ≠ [])
    (order.rdrc.map fun entry => (entry.1, expiresAt))
  have fakeIP := @succeeds_forM _ order.fakeIPDomain _ _ fun entry => succeeds_putFakeIP entry.1 entry.2
  refine (dnsCache.bind fun _ => rdrc.bind fun _ => fakeIP.bind fun _ => succeeds_putFakeIPMetadata _).congr ?_
  rw [forall_mem_map]
  simp [order.dnsCachePerm.mem_iff, order.rdrcPerm.mem_iff, order.fakeIPDomainPerm.mem_iff]

end Succeeds

/-! ## Batches -/

/-- The domain that was last stored for an address. -/
def lastDomain (address : Option Addr) (calls : List Call) : Option Domain :=
  calls.foldl (fun last call => match call with
    | .fakeIPStoreAsync other domain => if other = address then some domain else last
    | _ => last) none

theorem lookup_gather (addr : Option Addr) : (gather calls).fakeIPDomain.lookup addr = lastDomain addr calls := by
  unfold gather lastDomain
  induction calls using reverseRecOn with
  | nil => rfl
  | append_singleton calls call ih =>
    rw [foldl_concat, foldl_concat, ← ih]
    cases call with
    | fakeIPStoreAsync other domain =>
      simp [queue, Table.lookup_put, eq_comm]
    | _ => rfl

/-- The key of an entry of the domain name system. -/
def Call.cacheKey : Call → Option SaveCacheKey
  | .saveDNSCacheAsync key _ | .saveRDRCAsync key => some key
  | .fakeIPStoreAsync .. | .fakeIPSaveMetadataAsync _ => none

/-- A key that has been queued stays in the batch. -/
theorem mem_cacheKeys_iff (key : SaveCacheKey) :
    key ∈ calls.filterMap Call.cacheKey ↔
      key ∈ (gather calls).dnsCache.entries.map Prod.fst ∨ key ∈ (gather calls).rdrc.entries.map Prod.fst := by
  simp only [Table.mem_keys_iff, gather]
  induction calls using reverseRecOn with
  | nil => simp [Table.lookup_empty]
  | append_singleton calls call ih =>
    rw [filterMap_append, mem_append, ih, foldl_concat]
    cases call with
    | saveDNSCacheAsync other value =>
      by_cases same : key = other <;> simp [queue, Call.cacheKey, Table.lookup_put, same]
    | saveRDRCAsync other =>
      by_cases same : key = other <;> simp [queue, Call.cacheKey, Table.lookup_put, same]
    | fakeIPStoreAsync address domain => simp [queue, Call.cacheKey]
    | fakeIPSaveMetadataAsync metadata => simp [queue, Call.cacheKey]

/-- `writePending` succeeds if and only if no key of the domain name system is too long, no address
ends with the empty domain, and the zero address has not been stored at all. -/
theorem writePending_succeeds_iff (calls : List Call) (cacheID : Option Bytes) (expiresAt : Bytes)
    (order : Order (gather calls)) (bolt : Bolt) :
    (∃ after, (writePending cacheID expiresAt order).run bolt = .ok ((), after)) ↔
      (∀ key ∈ calls.filterMap Call.cacheKey, key.keyBytes.length ≤ maxKeySize) ∧
        ∀ address domain, lastDomain address calls = some domain → address ≠ none ∧ domain.text ≠ [] := by
  have succeeds := succeeds_writePending cacheID expiresAt order bolt
  simp only [← lookup_gather, ← Table.mem_entries_iff, mem_cacheKeys_iff]
  refine Iff.trans ?_ (succeeds.trans ?_)
  · constructor
    · rintro ⟨after, isAfter⟩
      exact ⟨_, isAfter⟩
    · rintro ⟨⟨_, after⟩, isAfter⟩
      exact ⟨after, isAfter⟩
  · rw [← and_assoc]
    refine and_congr ?_ ?_
    · simp only [or_imp, forall_and, forall_mem_map]
    · exact ⟨fun all address domain isEntry => all (address, domain) isEntry,
        fun all entry isEntry => all entry.1 entry.2 isEntry⟩

/-- A query for the root reaches the store as the empty domain. -/
theorem root_domain_refused :
    (writePending none [] (⟨[], [], _, .nil, .nil, .refl _⟩ :
      Order (gather [.fakeIPStoreAsync (some (.v4 0x0a000002#32)) ⟨[], by decide⟩]))).run {} = .error .keyRequired := by
  rfl

end SingBox.Pending
