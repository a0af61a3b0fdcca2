import SingBox.FakeIP.Addresses
import SingBox.FakeIP.Layers

/-! # FakeIP pairs agree in both directions

Along every run of calls, flushes and resets, a domain that finds an address is the domain
that the address finds, as long as each flush that fails is harmless. A failed flush puts
the pairs of its batch back, but not the record that a domain has lost its address: a domain
that is still in the database is then found there again, although its address is someone
else's by now.
-/

open List Option

namespace SingBox

open FakeIP Lib.Machine

namespace Store

/-- The ranges are of their families, and where a range does not reach to its own first
address, the position has nowhere to go but there. -/
structure Placed (store : Store) : Prop where
  family : ∀ {isIPv6 addr}, (store.rangeFor isIPv6).addr = some addr → addr.is6 = isIPv6
  above : ∀ {isIPv6 first}, firstAddress (store.rangeFor isIPv6) = some first →
    (store.rangeFor isIPv6).contains first = false →
    ∀ position ∈ store.currentFor isIPv6, first.toNat ≤ position.toNat + 1

/-- An address that the store can have allocated. -/
def Allocates (store : Store) (address : Addr) : Prop :=
  (store.rangeFor address.is6).contains address ∨ firstAddress (store.rangeFor address.is6) = some address

section Placed

variable {store : Store} (placed : store.Placed) {isIPv6 : Bool} {address : Addr}
  (isNext : (store.advance isIPv6).currentFor isIPv6 = some address)
include placed

theorem Placed.advance (isIPv6 : Bool) : (store.advance isIPv6).Placed where
  family := by
    intro other addr isAddr
    rw [rangeFor_advance] at isAddr
    exact placed.family isAddr
  above := by
    intro other first isFirst outside position isPosition
    rw [rangeFor_advance] at isFirst outside
    rw [currentFor_advance] at isPosition
    split at isPosition
    case isFalse => exact placed.above isFirst outside position isPosition
    case isTrue same =>
      subst same
      rcases nextAddress_cases isPosition with ⟨goesUp, -, -⟩ | startsAgain
      · obtain ⟨before, isBefore, goesUp⟩ := bind_eq_some_iff.mp goesUp
        have reaches := placed.above isFirst outside before isBefore
        have step := (Addr.next_eq_some goesUp).2
        omega
      · cases isFirst.symm.trans startsAgain
        omega
include isNext

theorem Placed.allocates : address.is6 = isIPv6 ∧ store.Allocates address := by
  rw [currentFor_advance, if_pos rfl] at isNext
  rcases nextAddress_cases isNext with ⟨-, isInside, -⟩ | startsAgain
  · obtain ⟨addr, bits, isAddr, -⟩ := Prefix.exists_of_contains isInside
    have family : address.is6 = isIPv6 := (Prefix.is6_of_contains isInside isAddr).trans (placed.family isAddr)
    subst family
    exact ⟨rfl, .inl isInside⟩
  · obtain ⟨addr, isAddr, isFamily, -⟩ := firstAddress_eq_some startsAgain
    have family : address.is6 = isIPv6 := isFamily.trans (placed.family isAddr)
    subst family
    exact ⟨rfl, .inr startsAgain⟩

/-- An address outside the range can only be given out again. -/
theorem Placed.next_eq_of_outside {other : Addr} (allocates : store.Allocates other) (family : other.is6 = isIPv6)
    (outside : (store.rangeFor isIPv6).contains other = false) : other = address := by
  subst family
  rcases allocates with isInside | isFirst
  · rw [outside] at isInside
    cases isInside
  · rw [currentFor_advance, if_pos rfl, nextAddress_of_outside isFirst outside (placed.above isFirst outside)] at isNext
    exact Option.some.inj isNext

end Placed

end Store

namespace Traffic

structure Sound (traffic : Traffic) : Prop where
  layered : ∃ pairs, traffic.cache.Over pairs
  placed : traffic.store.Placed
  known : ∀ address, traffic.cache.Knows address → traffic.store.Allocates address

theorem sound_start (ranges : Ranges) : (start ranges).Sound where
  layered := ⟨⊥, CacheFile.onto_empty⟩
  placed := by
    refine ⟨?_, ?_⟩
    · intro isIPv6 addr isAddr
      cases isIPv6 with
      | false => exact ranges.isInet4 addr isAddr
      | true => exact ranges.isInet6 addr isAddr
    · intro isIPv6 first isFirst outside position isPosition
      have isStart : (start ranges).store.currentFor isIPv6 = Store.startOf ((start ranges).store.rangeFor isIPv6) := by
        cases isIPv6 <;> rfl
      rw [isStart, Store.startOf, mem_def] at isPosition
      split at isPosition
      · obtain ⟨addr, isAddr, isSecond⟩ := bind_eq_some_iff.mp isPosition
        obtain ⟨_, isAddrToo, -, isThird⟩ := firstAddress_eq_some isFirst
        cases isAddr.symm.trans isAddrToo
        have step := (Addr.next_eq_some isSecond).2
        omega
      · cases isPosition
  known := by
    intro address knows
    exact absurd rfl knows

variable {traffic next : Traffic}

theorem Sound.create (sound : traffic.Sound) {domain : String} {isIPv6 : Bool}
    (creates : traffic.create domain isIPv6 = some next) : next.Sound := by
  unfold Traffic.create at creates
  split at creates
  case isTrue =>
    cases creates
    exact sound
  case isFalse misses =>
    split at creates
    case isTrue =>
      cases creates
      exact sound
    case isFalse =>
      obtain ⟨address, isNext, rfl⟩ := map_eq_some_iff.mp creates
      obtain ⟨family, allocates⟩ := sound.placed.allocates isNext
      obtain ⟨pairs, layered⟩ := sound.layered
      subst family
      have free (other : Addr) (found : traffic.cache.FakeIPLoadDomain domain address.is6 = some other) :
          other = address := by
        have otherFamily := layered.family found
        have knows : traffic.cache.Knows other := by
          rw [CacheFile.Knows, layered.load_eq_some_iff.mpr (otherFamily ▸ found)]
          exact some_ne_none _
        refine sound.placed.next_eq_of_outside isNext (sound.known other knows) otherFamily ?_
        rw [Store.loadDomain, found] at misses
        simpa using misses
      refine ⟨⟨pairs, { layered.queue free with }⟩, sound.placed.advance _, fun other knows => ?_⟩
      have queued : (traffic.cache.queueFakeIP address domain).FakeIPLoad other ≠ none := knows
      rw [Store.Allocates, Store.rangeFor_advance]
      rw [CacheFile.load_queue] at queued
      split at queued
      case isTrue same =>
        rw [same]
        exact allocates
      case isFalse => exact sound.known other queued

/-- A step of the cache file that readers do not notice, or that only takes addresses away. -/
theorem Sound.cache (sound : traffic.Sound) {cache : CacheFile} (layered : ∃ pairs, cache.Over pairs)
    (known : ∀ address, cache.Knows address → traffic.cache.Knows address) :
    ({ traffic with cache } : Traffic).Sound where
  layered := layered
  placed := sound.placed
  known := fun address knows => sound.known address (known address knows)

/-- A failed flush of the run misses no domain that has lost its address. -/
def FailsHarmlessly (traffic : Traffic) (call : Call) : Prop := ∀ order, call = .fail order → traffic.cache.Harmless

theorem Sound.step {call : Call} (sound : traffic.Sound) (steps : traffic.step call = some next)
    (harmless : traffic.FailsHarmlessly call) : next.Sound := by
  obtain ⟨pairs, layered⟩ := sound.layered
  cases call with
  | create domain isIPv6 => exact sound.create steps
  | flush =>
    obtain ⟨cache, begins, rfl⟩ := map_eq_some_iff.mp steps
    obtain ⟨nextOver, same⟩ := layered.beginFlush begins
    refine sound.cache ⟨pairs, nextOver⟩ fun address knows => ?_
    rwa [CacheFile.Knows, layered.load_congr nextOver same] at knows
  | commit order =>
    obtain ⟨cache, commits, rfl⟩ := map_eq_some_iff.mp steps
    obtain ⟨nextPairs, nextOver, same⟩ := layered.commitFlush commits
    refine sound.cache ⟨nextPairs, nextOver⟩ fun address knows => ?_
    rwa [CacheFile.Knows, layered.load_congr nextOver same] at knows
  | fail order =>
    obtain ⟨cache, fails, rfl⟩ := map_eq_some_iff.mp steps
    obtain ⟨nextOver, same⟩ := layered.failFlush fails (harmless order rfl)
    refine sound.cache ⟨pairs, nextOver⟩ fun address knows => ?_
    rwa [CacheFile.Knows, layered.load_congr nextOver same] at knows
  | beginReset =>
    obtain ⟨cache, begins, rfl⟩ := map_eq_some_iff.mp steps
    obtain ⟨nextOver, known⟩ := layered.beginReset begins
    exact sound.cache ⟨pairs, nextOver⟩ known
  | endReset commits =>
    obtain ⟨cache, ends, rfl⟩ := map_eq_some_iff.mp steps
    obtain ⟨nextPairs, nextOver, known⟩ := layered.endReset ends
    exact sound.cache ⟨nextPairs, nextOver⟩ known

theorem Sound.broken {call : Call} (sound : traffic.Sound) (steps : traffic.step call = some next)
    (harmful : ¬traffic.FailsHarmlessly call) : ¬next.cache.Consistent := by
  simp only [FailsHarmlessly, not_forall] at harmful
  obtain ⟨order, rfl, harmful⟩ := harmful
  obtain ⟨pairs, layered⟩ := sound.layered
  obtain ⟨cache, fails, rfl⟩ := map_eq_some_iff.mp steps
  exact layered.failFlush_broken fails harmful

end Traffic

/-- From an empty cache file on, the two directions agree in every state that a run comes
to, if and only if every flush that fails on the way is harmless. -/
theorem fakeIP_consistent_iff (ranges : Ranges) (calls : List Call) :
    EveryState Traffic.step (fun traffic => traffic.cache.Consistent) (Traffic.start ranges) calls ↔
      EveryStep Traffic.step Traffic.FailsHarmlessly (Traffic.start ranges) calls :=
  everyState_iff_everyStep
    (fun _ sound => sound.layered.elim fun _ layered => layered.consistent)
    (fun _ _ _ sound steps harmless => sound.step steps harmless)
    (fun _ _ _ sound steps harmful => sound.broken steps harmful)
    (Traffic.sound_start ranges) calls

/-- A range with one address to give. -/
def narrowRange : Ranges where
  inet4 := ⟨some (.v4 0x0a000000), some 30⟩
  inet6 := ⟨none, none⟩
  isInet4 := by simp [Addr.is6]
  isInet6 := by simp

/-- The address of a stored domain goes to a new one; after a failed flush both find it. -/
theorem evicted_domain_comes_back :
    let address := Addr.v4 0x0a000002
    let calls := [Call.create "old" false, .flush, .commit [(address, "old")],
      .create "new" false, .flush, .fail [(address, "new")]]
    (run Traffic.step (Traffic.start narrowRange) calls).map (fun traffic =>
      (traffic.cache.FakeIPLoadDomain "old" false, traffic.cache.FakeIPLoadDomain "new" false,
        traffic.cache.FakeIPLoad address)) =
      some (some address, some address, some "new") := by
  decide +kernel

end SingBox
