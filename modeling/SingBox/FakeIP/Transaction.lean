import SingBox.FakeIP.Layers
import SingBox.FakeIP.WritePending

/-! # The tables and the buckets of the cache file

The cache file has its database as tables in `SingBox.FakeIP.CacheFile` and as buckets of bytes
in `SingBox.FakeIP.WritePending`. A transaction that succeeds on the buckets is one on the tables.
-/

namespace SingBox.Pending

open Lib Lib.Guard List

/-- How a domain and a position are written. -/
structure Encoding where
  domain : String → Bytes
  metadata : FakeIPMetadata → Bytes
  injective : Function.Injective domain
  empty : domain "" = []

/-- The buckets of FakeIP hold what the tables hold. -/
structure Represents (encoding : Encoding) (database : Database) (bolt : Bolt) : Prop where
  address : ∀ address : Addr,
    bolt.value [bucketFakeIP] address.asSlice = (database.address.lookup address).map encoding.domain
  domain : ∀ isIPv6 domain,
    bolt.value [domainBucket !isIPv6] (encoding.domain domain) = ((database.domain isIPv6).lookup domain).map Addr.asSlice
  metadata : bolt.value [bucketFakeIP] keyMetadata = database.metadata.map encoding.metadata

/-- An action that succeeds has done the same to the buckets as the function to the tables. -/
def Refines (encoding : Encoding) (action : Tx Unit) (write : Database → Option Database) : Prop :=
  ∀ database bolt after, Represents encoding database bolt → action.run bolt = .ok ((), after) →
    ∃ next, write database = some next ∧ Represents encoding next after

variable {encoding : Encoding} {database : Database} {bolt after : Bolt} {path : List Bytes} {key value : Bytes}

theorem Refines.bind {first second : Tx Unit} {write later : Database → Option Database}
    (refines : Refines encoding first write) (refinesLater : Refines encoding second later) :
    Refines encoding (first >>= fun _ => second) (fun database => (write database).bind later) := by
  intro database bolt after represents succeeds
  rw [StateT.run_bind, bind_eq_ok] at succeeds
  obtain ⟨⟨⟨⟩, middle⟩, succeedsFirst, succeedsLater⟩ := succeeds
  obtain ⟨between, isBetween, represents⟩ := refines database bolt middle represents succeedsFirst
  dsimp only
  rw [isBetween]
  exact refinesLater between middle after represents succeedsLater

/-! ## Refinement -/

theorem asSlice_injective : Function.Injective Addr.asSlice := by
  intro first second same
  have read := Addr.ofSlice_asSlice first
  rw [same, Addr.ofSlice_asSlice] at read
  exact (Option.some.inj read).symm

theorem keyMetadata_ne (address : Addr) : keyMetadata ≠ address.asSlice := by
  intro same
  have length := congrArg List.length same
  cases address <;> simp [Addr.asSlice, keyMetadata, fakeipBucket, text] at length

theorem domainBucket_ne (isIPv4 : Bool) : [domainBucket isIPv4] ≠ [bucketFakeIP] := by
  cases isIPv4 <;> decide

theorem refines_putFakeIP (address : Addr) (domain : String) :
    Refines encoding (putFakeIP (some address) (encoding.domain domain)) (·.putFakeIP address domain) := by
  intro database bolt after represents succeeds
  obtain ⟨⟨-, nonempty, -⟩, rfl⟩ := putFakeIP_eq_ok.mp succeeds
  have named : domain ≠ "" := by
    rintro rfl
    exact nonempty encoding.empty
  have isFamily : (some address).any Addr.is4 = !address.is6 := by
    cases address <;> rfl
  have isBytes : addressBytes (some address) = address.asSlice := rfl
  rw [isFamily, isBytes]
  refine ⟨_, if_neg named, ?_⟩
  constructor
  · intro other
    simp only [Bolt.set, Bolt.dropDomain, (domainBucket_ne _).symm, false_and, if_false, true_and, asSlice_injective.eq_iff,
      Database.address_setDomain, Table.lookup_put, represents.address other]
    split <;> rfl
  · intro isIPv6 other
    have sameBucket : [domainBucket !isIPv6] = [domainBucket !address.is6] ↔ isIPv6 = address.is6 := by
      cases isIPv6 <;> cases address.is6 <;> decide
    simp only [Bolt.set, Bolt.dropDomain, domainBucket_ne, false_and, if_false, sameBucket, encoding.injective.eq_iff,
      Database.domain_setDomain, Database.domain_setAddress, represents.address address, represents.domain]
    by_cases family : isIPv6 = address.is6
    · subst family
      simp only [true_and, if_true, Table.lookup_put, Database.lookup_dropDomain]
      by_cases same : other = domain
      · simp [same]
      · cases isOld : database.address.lookup address <;> cases isOther : (database.domain address.is6).lookup other <;>
          simp [same, asSlice_injective.eq_iff, encoding.injective.eq_iff]
        grind
    · simp [family]
  · simp only [Bolt.set, Bolt.dropDomain, (domainBucket_ne _).symm, keyMetadata_ne, false_and, and_false, if_false,
      represents.metadata]
    cases address <;> rfl

theorem refines_putFakeIPMetadata (metadata : Option FakeIPMetadata) :
    Refines encoding ((metadata.map encoding.metadata).forM putFakeIPMetadata) (·.writePending [] metadata) := by
  intro database bolt after represents succeeds
  cases metadata with
  | none =>
    cases succeeds
    exact ⟨database, rfl, represents⟩
  | some metadata =>
    simp [putFakeIPMetadata, create_eq_ok, put_eq_ok] at succeeds
    obtain ⟨-, -, rfl⟩ := succeeds
    refine ⟨_, rfl, fun address => ?_, fun isIPv6 domain => ?_, ?_⟩
    · simp [Bolt.set, (keyMetadata_ne address).symm, represents.address]
    · simp only [Bolt.set, domainBucket_ne, false_and, if_false, represents.domain]
      rfl
    · simp [Bolt.set]

theorem refines_entries (entries : List (Addr × String)) (metadata : Option FakeIPMetadata) :
    Refines encoding (do
      entries.forM fun entry => putFakeIP (some entry.1) (encoding.domain entry.2)
      (metadata.map encoding.metadata).forM putFakeIPMetadata) (·.writePending entries metadata) := by
  induction entries with
  | nil => simpa using refines_putFakeIPMetadata metadata
  | cons entry entries ih =>
    obtain ⟨address, domain⟩ := entry
    simpa [bind_assoc, Database.writePending] using (refines_putFakeIP address domain).bind ih

/-- An entry of the domain name system is in a bucket inside of another. -/
theorem refines_putCacheEntry {bucket : List Bytes} (nested : bucket ≠ []) (key : SaveCacheKey) (value : Bytes) :
    Refines encoding (putCacheEntry bucket key value) some := by
  intro database bolt after represents succeeds
  simp [putCacheEntry, create_eq_ok, put_eq_ok] at succeeds
  obtain ⟨-, -, rfl⟩ := succeeds
  have apart (name : Bytes) : [name] ≠ bucket ++ [key.transportName] := by
    cases bucket with
    | nil => exact absurd rfl nested
    | cons => simp
  refine ⟨database, rfl, fun address => ?_, fun isIPv6 domain => ?_, ?_⟩
  · simp [Bolt.set, apart, represents.address]
  · simp [Bolt.set, apart, represents.domain]
  · simp [Bolt.set, apart, represents.metadata]

theorem refines_putCacheEntries (cacheID : Option Bytes) (name : Bytes) (entries : List (SaveCacheKey × Bytes)) :
    Refines encoding (putCacheEntries cacheID name entries) some := by
  have each {bucket : List Bytes} (nested : bucket ≠ []) :
      Refines encoding (entries.forM fun entry => putCacheEntry bucket entry.1 entry.2) some := by
    induction entries with
    | nil =>
      rintro database bolt _ represents ⟨⟩
      exact ⟨database, rfl, represents⟩
    | cons entry entries ih => exact (refines_putCacheEntry nested entry.1 entry.2).bind ih
  intro database bolt after represents succeeds
  unfold putCacheEntries at succeeds
  split at succeeds
  · cases succeeds
    exact ⟨database, rfl, represents⟩
  · rw [StateT.run_bind, bind_eq_ok] at succeeds
    obtain ⟨⟨bucket, middle⟩, creates, writes⟩ := succeeds
    have ⟨nested, unchanged⟩ : bucket ≠ [] ∧ bolt = middle := by
      cases cacheID <;> simp [createBucket, create_eq_ok] at creates <;> exact ⟨by simp [← creates.2.1], creates.2.2⟩
    subst unchanged
    exact each nested database bolt after represents writes

/-- A transaction that succeeds writes the batch as `Database.writePending` does. -/
theorem writePending_refines (cacheID : Option Bytes) (expiresAt : Bytes) {pending : PendingWrites} (order : Order pending)
    (entries : List (Addr × String)) (metadata : Option FakeIPMetadata)
    (isOrder : (order.fakeIPDomain.map fun entry => (entry.1, entry.2.text)) =
      entries.map fun entry => (some entry.1, encoding.domain entry.2))
    (isMetadata : pending.fakeIPMetadata = metadata.map encoding.metadata) :
    Refines encoding (writePending cacheID expiresAt order) (·.writePending entries metadata) := by
  have sameEntries := congrArg (List.forM · fun entry => putFakeIP entry.1 entry.2) isOrder
  simp only [List.forM_eq_forM, List.forM_map] at sameEntries
  have refines := (refines_putCacheEntries cacheID bucketDNSCache order.dnsCache).bind
    ((refines_putCacheEntries cacheID bucketRDRC (order.rdrc.map fun entry => (entry.1, expiresAt))).bind
      (@refines_entries encoding entries metadata))
  simp only [writePending, isMetadata, List.forM_eq_forM, sameEntries]
  exact refines

end SingBox.Pending
