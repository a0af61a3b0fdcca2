import SingBox.FakeIP.Addresses

/-! # Addresses of the pool

Which ranges make `Create` issue only addresses of the range, without the network's own and
the broadcast address: those with an address between the first two and the last one.
-/

namespace SingBox

open FakeIP List Option

variable {addressRange : Prefix} {last addr : Addr} {calls : List Bool}

namespace FakeIP

theorem leading_setHostBits {width : Nat} (value : BitVec width) (bits : Nat) :
    (setHostBits value bits).toNat >>> (width - bits) = value.toNat >>> (width - bits) := by
  refine Nat.eq_of_testBit_eq fun index => ?_
  simp only [Nat.testBit_shiftRight, BitVec.testBit_toNat]
  by_cases inWidth : width - bits + index < width
  · rw [getLsbD_setHostBits value bits _ inWidth]
    simp
  · rw [BitVec.getLsbD_of_ge _ _ (by omega), BitVec.getLsbD_of_ge _ _ (by omega)]

theorem contains_broadcastAddress (isLast : broadcastAddress addressRange = some last) :
    addressRange.contains last := by
  unfold broadcastAddress at isLast
  split at isLast
  case h_1 value bits isAddr isBits =>
    cases isLast
    exact (Prefix.contains_iff isAddr isBits).mpr ⟨rfl, (leading_setHostBits value bits).symm⟩
  case h_2 value bits isAddr isBits =>
    cases isLast
    exact (Prefix.contains_iff isAddr isBits).mpr ⟨rfl, (leading_setHostBits value bits).symm⟩
  case h_3 => cases isLast

theorem toNat_masked_le {base : Addr} (isAddr : addressRange.addr = some addr)
    (isBase : addressRange.masked.addr = some base) : base.toNat ≤ addr.toNat := by
  have cleared {width : Nat} (value : BitVec width) (count : Nat) : (value >>> count <<< count).toNat ≤ value.toNat := by
    simp only [BitVec.toNat_shiftLeft, BitVec.toNat_ushiftRight, Nat.shiftRight_eq_div_pow, Nat.shiftLeft_eq]
    exact Nat.le_trans (Nat.mod_le _ _) (Nat.div_mul_le_self _ _)
  unfold Prefix.masked at isBase
  cases addr <;> cases isBits : addressRange.bits <;> simp [isBits] at isBase <;> grind [Addr.toNat]

/-- An address of the pool: in the range, and neither its network's nor its broadcast
address. The zero address is `none`. -/
def InPool (addressRange : Prefix) (address : Option Addr) : Prop :=
  address.any addressRange.contains ∧ address ≠ addressRange.masked.addr ∧ address ≠ broadcastAddress addressRange

/-- Behind the configured address and the one after it, the range has another address before
its broadcast address. Nothing is issued if the configured one is the last of all. -/
def Roomy (addressRange : Prefix) : Prop :=
  ∀ addr last, addressRange.addr = some addr → broadcastAddress addressRange = some last →
    addr.next = none ∨ addr.toNat + 2 < last.toNat

/-- A position that the allocation can be at: behind the configured address and before the
last one of a range that has room. -/
def Inside (addressRange : Prefix) (position : Addr) : Prop :=
  ∃ addr last, addressRange.addr = some addr ∧ broadcastAddress addressRange = some last ∧ position.is6 = addr.is6 ∧
    addr.toNat < position.toNat ∧ position.toNat < last.toNat ∧ addr.toNat + 2 < last.toNat

section Allocation

variable {addressRange : Prefix} {position : Addr}

theorem Inside.family (isAddr : addressRange.addr = some addr)
    (isLast : broadcastAddress addressRange = some last) : last.is6 = addr.is6 :=
  Prefix.is6_of_contains (contains_broadcastAddress isLast) isAddr

theorem Inside.next (inside : Inside addressRange position) :
    ∃ address, nextAddress addressRange (broadcastAddress addressRange) (some position) = some address ∧
      Inside addressRange address := by
  obtain ⟨addr, last, isAddr, isLast, family, above, -, roomy⟩ := inside
  have lastFamily := Inside.family isAddr isLast
  obtain ⟨second, isSecond⟩ := Addr.exists_next lastFamily.symm (by omega : addr.toNat < last.toNat)
  obtain ⟨secondFamily, secondValue⟩ := Addr.next_eq_some isSecond
  obtain ⟨first, isNext⟩ := Addr.exists_next (secondFamily.trans lastFamily.symm) (by omega : second.toNat < last.toNat)
  have isFirst : firstAddress addressRange = some first := by simp [firstAddress, isAddr, isSecond, isNext]
  obtain ⟨address, isAddress⟩ :
      ∃ address, nextAddress addressRange (broadcastAddress addressRange) (some position) = some address := by
    unfold nextAddress
    grind [Option.any_eq_true]
  refine ⟨address, isAddress, addr, last, isAddr, isLast, ?_⟩
  rcases nextAddress_cases isAddress with ⟨goesUp, isInside, notLast⟩ | restarts
  · obtain ⟨upFamily, upValue⟩ := Addr.next_eq_some goesUp
    obtain ⟨_, isBroadcast, bound⟩ := toNat_le_broadcastAddress isInside
    cases isLast.symm.trans isBroadcast
    have different : address.toNat ≠ last.toNat := fun same =>
      notLast (isLast.trans (congrArg some (Addr.eq_of_toNat bound.1 same.symm)))
    exact ⟨upFamily.trans family, by omega, by omega, roomy⟩
  · obtain ⟨_, isFound, firstFamily, firstValue⟩ := firstAddress_eq_some restarts
    cases isAddr.symm.trans isFound
    exact ⟨firstFamily, by omega, by omega, roomy⟩

theorem Inside.inPool (inside : Inside addressRange position) : InPool addressRange (some position) := by
  obtain ⟨addr, last, isAddr, isLast, family, above, below, -⟩ := inside
  have lastInside := contains_broadcastAddress isLast
  refine ⟨?_, fun isBase => ?_, fun isBroadcast => ?_⟩
  · exact Prefix.contains_between (Prefix.contains_addr lastInside isAddr) lastInside family (by omega) (by omega)
  · have bound := toNat_masked_le isAddr isBase.symm
    omega
  · cases isBroadcast.trans isLast
    omega

/-- Without room, the address after the one the allocation starts at is not of the pool. -/
theorem not_inPool_of_not_roomy {second : Addr} (isAddr : addressRange.addr = some addr)
    (isLast : broadcastAddress addressRange = some last) (isSecond : addr.next = some second)
    (narrow : last.toNat ≤ addr.toNat + 2) :
    ¬InPool addressRange (nextAddress addressRange (broadcastAddress addressRange) (some second)) := by
  rintro ⟨isInside, -, notLast⟩
  obtain ⟨address, isAddress, isInside⟩ := (Option.any_eq_true ..).mp isInside
  obtain ⟨_, isBroadcast, family, bound⟩ := toNat_le_broadcastAddress isInside
  cases isLast.symm.trans isBroadcast
  have two : address.toNat = addr.toNat + 2 := by
    rcases nextAddress_cases isAddress with ⟨goesUp, -, -⟩ | restarts
    · have upValue := (Addr.next_eq_some goesUp).2
      have secondValue := (Addr.next_eq_some isSecond).2
      omega
    · obtain ⟨_, isFound, -, firstValue⟩ := firstAddress_eq_some restarts
      cases isAddr.symm.trans isFound
      exact firstValue
  refine notLast ?_
  rw [isAddress, isLast, Addr.eq_of_toNat family (by omega : last.toNat = address.toNat)]

end Allocation

end FakeIP

namespace Store

/-- What a sequence of such calls issues. -/
def issued (store : Store) : List Bool → List (Bool × Option Addr)
  | [] => []
  | isIPv6 :: calls =>
    ((store.createNew isIPv6).2.map (isIPv6, ·)).toList ++ (store.createNew isIPv6).1.issued calls

variable (ranges : Bool → Prefix)

/-- The store behind `Start` on an empty cache file, for the ranges of both families. -/
def started : Store := ((NewStore (ranges false) (ranges true)).Start {} true).1

/-- A store between its calls: `lastFor` is the broadcast address, and a position is the one
it started at or inside the pool. -/
structure Serves (store : Store) (isIPv6 : Bool) : Prop where
  last : store.lastFor isIPv6 = broadcastAddress (store.rangeFor isIPv6)
  position : ∀ position ∈ store.currentFor isIPv6, Inside (store.rangeFor isIPv6) position

section Issued

variable {store : Store} {isIPv6 : Bool}

theorem Serves.createNew (serves : store.Serves isIPv6) (other : Bool) : (store.createNew other).1.Serves isIPv6 := by
  unfold Store.createNew
  split
  · exact serves
  case isFalse positioned =>
    refine ⟨by simpa using serves.last, fun position isPosition => ?_⟩
    rw [currentFor_advance] at isPosition
    rw [rangeFor_advance]
    split at isPosition
    case isTrue same =>
      subst same
      obtain ⟨current, isCurrent⟩ := ne_none_iff_exists'.mp (by simpa using positioned)
      obtain ⟨addr, isAddr, inside⟩ := (serves.position current isCurrent).next
      rw [serves.last, isCurrent, isAddr] at isPosition
      cases isPosition
      exact inside
    case isFalse => exact serves.position position isPosition

@[simp] theorem rangeFor_createNew (other : Bool) :
    (store.createNew other).1.rangeFor isIPv6 = store.rangeFor isIPv6 := by
  unfold createNew
  split
  · rfl
  · exact rangeFor_advance store other isIPv6

theorem Serves.issued (serves : ∀ isIPv6 ∈ calls, store.Serves isIPv6) :
    ∀ call ∈ store.issued calls, InPool (store.rangeFor call.1) call.2 := by
  induction calls generalizing store with
  | nil => nofun
  | cons isIPv6 calls ih =>
    intro call isCall
    rw [Store.issued, mem_append] at isCall
    rcases isCall with isHere | isLater
    · have here := serves isIPv6 mem_cons_self
      unfold Store.createNew at isHere
      split at isHere
      · simp at isHere
      case isFalse positioned =>
        obtain ⟨current, isCurrent⟩ := ne_none_iff_exists'.mp (by simpa using positioned)
        obtain ⟨addr, isAddr, inside⟩ := (here.position current isCurrent).next
        rw [currentFor_advance, if_pos rfl, here.last, isCurrent, isAddr] at isHere
        obtain rfl : call = (isIPv6, some addr) := by simpa using isHere
        exact inside.inPool
    · have later := ih (fun other isOther => (serves other (mem_cons_of_mem _ isOther)).createNew isIPv6) call isLater
      rwa [rangeFor_createNew] at later

theorem mem_issued (isCall : isIPv6 ∈ calls) (positioned : (store.currentFor isIPv6).isSome) :
    (isIPv6, nextAddress (store.rangeFor isIPv6) (store.lastFor isIPv6) (store.currentFor isIPv6)) ∈
      store.issued calls := by
  induction calls generalizing store with
  | nil => cases isCall
  | cons call calls ih =>
    rw [Store.issued, mem_append]
    by_cases same : isIPv6 = call
    · subst same
      left
      simp [createNew, isNone_eq_false_iff.mpr positioned, currentFor_advance]
    · right
      have kept : (store.createNew call).1.currentFor isIPv6 = store.currentFor isIPv6 ∧
          (store.createNew call).1.lastFor isIPv6 = store.lastFor isIPv6 := by
        unfold createNew
        split
        · exact ⟨rfl, rfl⟩
        · rw [currentFor_advance, if_neg same, lastFor_advance]
          exact ⟨rfl, rfl⟩
      have later := ih ((mem_cons.mp isCall).resolve_left same)
        (by rwa [kept.1] : ((store.createNew call).1.currentFor isIPv6).isSome)
      rwa [kept.1, kept.2, rangeFor_createNew] at later

end Issued

/-! ## The store behind `Start` -/

theorem started_eq (isIPv6 : Bool) :
    (started ranges).rangeFor isIPv6 = ranges isIPv6 ∧
      (started ranges).lastFor isIPv6 = broadcastAddress (ranges isIPv6) ∧
      (started ranges).currentFor isIPv6 = startOf (ranges isIPv6) := by
  have invalid (network : Prefix) :
      (if network.isValid then broadcastAddress network else none) = broadcastAddress network := by
    cases isBits : network.bits <;> simp [Prefix.isValid, broadcastAddress, isBits]
  cases isIPv6
  · exact ⟨rfl, invalid (ranges false), rfl⟩
  · exact ⟨rfl, invalid (ranges true), rfl⟩

/-- Every address issued lies in the pool if and only if the ranges asked for have room. -/
theorem issued_inPool_iff (ranges : Bool → Prefix) (calls : List Bool) :
    (∀ call ∈ (started ranges).issued calls, InPool (ranges call.1) call.2) ↔
      ∀ isIPv6 ∈ calls, Roomy (ranges isIPv6) := by
  constructor
  · intro inPool isIPv6 isCall addr last isAddr isLast
    obtain ⟨isRange, lastEq, isCurrent⟩ := started_eq ranges isIPv6
    by_contra narrow
    rw [not_or, Nat.not_lt] at narrow
    obtain ⟨second, isSecond⟩ := ne_none_iff_exists'.mp narrow.1
    have isValid : (ranges isIPv6).isValid := by
      unfold broadcastAddress at isLast
      grind [Prefix.isValid]
    have isStart : startOf (ranges isIPv6) = some second := by
      simp [startOf, isValid, isAddr, isSecond]
    rw [isStart] at isCurrent
    have first := inPool _ (mem_issued isCall (by rw [isCurrent]; rfl))
    rw [isRange, lastEq, isCurrent] at first
    exact not_inPool_of_not_roomy isAddr isLast isSecond narrow.2 first
  · intro roomy call isCall
    have isRange := (started_eq ranges call.1).1
    rw [← isRange]
    refine Serves.issued (fun isIPv6 isCalled => ?_) call isCall
    obtain ⟨isRange, lastEq, isCurrent⟩ := started_eq ranges isIPv6
    refine ⟨lastEq.trans (congrArg broadcastAddress isRange.symm), fun position isPosition => ?_⟩
    rw [isCurrent] at isPosition
    rw [isRange]
    unfold startOf at isPosition
    split at isPosition
    case isFalse => cases isPosition
    case isTrue isValid =>
      obtain ⟨addr, isAddr, isNext⟩ := bind_eq_some_iff.mp isPosition
      obtain ⟨family, value⟩ := Addr.next_eq_some isNext
      have isInside : (ranges isIPv6).contains addr := by
        obtain ⟨bits, isBits⟩ := isSome_iff_exists.mp isValid
        exact (Prefix.contains_iff isAddr isBits).mpr ⟨rfl, rfl⟩
      obtain ⟨last, isLast, -⟩ := toNat_le_broadcastAddress isInside
      have room := (roomy isIPv6 isCalled addr last isAddr isLast).resolve_left (by simp [isNext])
      exact ⟨addr, last, isAddr, isLast, family, by omega, by omega, room⟩

/-- The pool 10.0.0.4/31: the first address issued is 10.0.0.6. -/
theorem short_pool_left :
    (started fun _ => ⟨some (.v4 0x0a000004#32), some 31⟩).issued [false] = [(false, some (.v4 0x0a000006#32))] ∧
      ¬InPool ⟨some (.v4 0x0a000004#32), some 31⟩ (some (.v4 0x0a000006#32)) := by
  refine ⟨by decide, ?_⟩
  rintro ⟨isInside, -⟩
  exact absurd isInside (by decide)

end Store

end SingBox
