import SingBox.FakeIP.Store

/-! # Ranges of addresses

A range holds consecutive addresses of one family, the broadcast address being the last of
them. `nextAddress` goes up by one, or starts again behind the first two addresses.
-/

namespace SingBox

namespace Addr

def toNat : Addr → Nat
  | .v4 value => value.toNat
  | .v6 value => value.toNat

theorem eq_of_toNat {first second : Addr} (family : first.is6 = second.is6) (same : first.toNat = second.toNat) :
    first = second := by
  cases first with
  | v4 value =>
    cases second with
    | v4 other => exact congrArg v4 (BitVec.eq_of_toNat_eq same)
    | v6 other => cases family
  | v6 value =>
    cases second with
    | v4 other => cases family
    | v6 other => exact congrArg v6 (BitVec.eq_of_toNat_eq same)

theorem toNat_succ {width : Nat} (positive : 0 < width) {value : BitVec width}
    (notLast : value ≠ BitVec.allOnes width) : (value + 1).toNat = value.toNat + 1 := by
  have below : value.toNat ≠ 2 ^ width - 1 := fun last =>
    notLast (BitVec.eq_of_toNat_eq (by rw [last, BitVec.toNat_allOnes]))
  have one : 1 % 2 ^ width = 1 := Nat.mod_eq_of_lt (Nat.one_lt_two_pow (Nat.pos_iff_ne_zero.mp positive))
  simp only [BitVec.toNat_add, BitVec.ofNat_eq_ofNat, BitVec.toNat_ofNat, one]
  exact Nat.mod_eq_of_lt (by omega)

theorem next_eq_some {address after : Addr} (isNext : address.next = some after) :
    after.is6 = address.is6 ∧ after.toNat = address.toNat + 1 := by
  cases address with
  | v4 value =>
    simp only [next] at isNext
    split at isNext
    · cases isNext
    · cases isNext
      exact ⟨rfl, toNat_succ (by decide) ‹_›⟩
  | v6 value =>
    simp only [next] at isNext
    split at isNext
    · cases isNext
    · cases isNext
      exact ⟨rfl, toNat_succ (by decide) ‹_›⟩

theorem exists_next {address above : Addr} (family : address.is6 = above.is6) (below : address.toNat < above.toNat) :
    ∃ after, address.next = some after := by
  cases address with
  | v4 value =>
    cases above with
    | v6 other => cases family
    | v4 other =>
      have notLast : value ≠ BitVec.allOnes 32 := by
        rintro rfl
        simp only [toNat, BitVec.toNat_allOnes] at below
        omega
      exact ⟨_, if_neg notLast⟩
  | v6 value =>
    cases above with
    | v4 other => cases family
    | v6 other =>
      have notLast : value ≠ BitVec.allOnes 128 := by
        rintro rfl
        simp only [toNat, BitVec.toNat_allOnes] at below
        omega
      exact ⟨_, if_neg notLast⟩

end Addr

namespace Prefix

variable {network : Prefix} {addr ip : Addr}

theorem contains_iff {bits : Nat} (isAddr : network.addr = some addr) (isBits : network.bits = some bits) :
    network.contains ip ↔
      addr.is6 = ip.is6 ∧ addr.toNat >>> (ip.bitLen - bits) = ip.toNat >>> (ip.bitLen - bits) := by
  rw [contains, isAddr, isBits]
  cases addr <;> cases ip <;> simp [Addr.is4, Addr.is6, leading, Addr.toNat, Addr.bitLen]

section
variable (isInside : network.contains ip)
include isInside

theorem exists_of_contains : ∃ addr bits, network.addr = some addr ∧ network.bits = some bits := by
  unfold contains at isInside
  split at isInside
  case h_1 addr bits isAddr isBits => exact ⟨addr, bits, isAddr, isBits⟩
  case h_2 => cases isInside

theorem is6_of_contains (isAddr : network.addr = some addr) : ip.is6 = addr.is6 := by
  obtain ⟨_, bits, -, isBits⟩ := exists_of_contains isInside
  exact ((contains_iff isAddr isBits).mp isInside).1.symm

theorem contains_addr (isAddr : network.addr = some addr) : network.contains addr := by
  obtain ⟨_, bits, -, isBits⟩ := exists_of_contains isInside
  exact (contains_iff isAddr isBits).mpr ⟨rfl, rfl⟩

end

theorem contains_between {low middle high : Addr} (lowInside : network.contains low)
    (highInside : network.contains high) (family : middle.is6 = low.is6) (above : low.toNat ≤ middle.toNat)
    (below : middle.toNat ≤ high.toNat) : network.contains middle := by
  obtain ⟨addr, bits, isAddr, isBits⟩ := exists_of_contains lowInside
  rw [contains_iff isAddr isBits] at lowInside highInside ⊢
  have widths {first second : Addr} (same : first.is6 = second.is6) : first.bitLen = second.bitLen := by
    cases first <;> cases second <;> first | rfl | cases same
  rw [widths (highInside.1.symm.trans (lowInside.1.trans family.symm))] at highInside
  rw [widths family.symm] at lowInside
  simp only [Nat.shiftRight_eq_div_pow] at lowInside highInside ⊢
  refine ⟨lowInside.1.trans family.symm, Nat.le_antisymm ?_ ?_⟩
  · rw [lowInside.2]
    exact Nat.div_le_div_right above
  · rw [highInside.2]
    exact Nat.div_le_div_right below

end Prefix

namespace FakeIP

/-! ## The broadcast address -/

variable {width : Nat}

theorem getLsbD_setBits (positions : List Nat) (value : BitVec width) (j : Nat) :
    (positions.foldl (fun raw i => raw ||| BitVec.twoPow width (width - 1 - i)) value).getLsbD j =
      (value.getLsbD j || positions.any fun i => decide (j < width ∧ width - 1 - i = j)) := by
  induction positions generalizing value with
  | nil => simp
  | cons position positions ih =>
    rw [List.foldl_cons, ih, BitVec.getLsbD_or, BitVec.getLsbD_twoPow, List.any_cons, Bool.or_assoc]
    congr 1
    congr 1
    rw [← Bool.decide_and, decide_eq_decide]
    constructor
    · rintro ⟨inWidth, rfl⟩
      exact ⟨inWidth, rfl⟩
    · rintro ⟨inWidth, rfl⟩
      exact ⟨inWidth, rfl⟩

theorem getLsbD_setHostBits (value : BitVec width) (bits j : Nat) (inWidth : j < width) :
    (setHostBits value bits).getLsbD j = (value.getLsbD j || decide (j < width - bits)) := by
  rw [setHostBits, getLsbD_setBits]
  congr 1
  rw [Bool.eq_iff_iff, List.any_eq_true]
  simp only [List.mem_range'_1, decide_eq_true_eq]
  constructor
  · rintro ⟨i, ⟨low, high⟩, -, same⟩
    omega
  · intro isHost
    exact ⟨width - 1 - j, by omega, inWidth, by omega⟩

theorem toNat_le_setHostBits {value other : BitVec width} {bits : Nat}
    (network : value.toNat >>> (width - bits) = other.toNat >>> (width - bits)) :
    other.toNat ≤ (setHostBits value bits).toNat := by
  have covers : other ||| setHostBits value bits = setHostBits value bits := by
    refine BitVec.eq_of_getLsbD_eq fun j inWidth => ?_
    rw [BitVec.getLsbD_or, getLsbD_setHostBits value bits j inWidth]
    by_cases isHost : j < width - bits
    · simp [isHost]
    · have bit := congrArg (fun shifted => shifted.testBit (j - (width - bits))) network
      have position : width - bits + (j - (width - bits)) = j := by omega
      simp only [Nat.testBit_shiftRight, position] at bit
      have same : value.getLsbD j = other.getLsbD j := bit
      simp [same]
  rw [← covers, BitVec.toNat_or]
  exact Nat.left_le_or

theorem toNat_le_broadcastAddress {addrRange : Prefix} {address : Addr} (isInside : addrRange.contains address) :
    ∃ last, broadcastAddress addrRange = some last ∧ last.is6 = address.is6 ∧ address.toNat ≤ last.toNat := by
  obtain ⟨addr, bits, isAddr, isBits⟩ := Prefix.exists_of_contains isInside
  obtain ⟨family, network⟩ := (Prefix.contains_iff isAddr isBits).mp isInside
  unfold broadcastAddress
  rw [isAddr, isBits]
  cases addr with
  | v4 value =>
    cases address with
    | v6 other => cases family
    | v4 other => exact ⟨_, rfl, rfl, toNat_le_setHostBits network⟩
  | v6 value =>
    cases address with
    | v4 other => cases family
    | v6 other => exact ⟨_, rfl, rfl, toNat_le_setHostBits network⟩

/-! ## The next address -/

section Next

variable {addrRange : Prefix} {last current : Option Addr} {address : Addr}

/-- The next address is one up, inside the range and not its last one, or it is the first. -/
theorem nextAddress_cases (isNext : nextAddress addrRange last current = some address) :
    (current.bind Addr.next = some address ∧ addrRange.contains address ∧ last ≠ some address) ∨
      firstAddress addrRange = some address := by
  unfold nextAddress at isNext
  simp only at isNext
  split at isNext
  case isTrue => exact .inr isNext
  case isFalse goesUp =>
    rw [not_or, not_not, isNext] at goesUp
    exact .inl ⟨isNext, goesUp.2, fun same => goesUp.1 same.symm⟩

theorem firstAddress_eq_some {first : Addr} (isFirst : firstAddress addrRange = some first) :
    ∃ addr, addrRange.addr = some addr ∧ first.is6 = addr.is6 ∧ first.toNat = addr.toNat + 2 := by
  obtain ⟨second, isSecond, isFirst⟩ := Option.bind_eq_some_iff.mp isFirst
  obtain ⟨addr, isAddr, isSecond⟩ := Option.bind_eq_some_iff.mp isSecond
  obtain ⟨secondFamily, secondValue⟩ := Addr.next_eq_some isSecond
  obtain ⟨firstFamily, firstValue⟩ := Addr.next_eq_some isFirst
  exact ⟨addr, isAddr, firstFamily.trans secondFamily, by omega⟩

/-- With a first address outside the range there is only that one. -/
theorem nextAddress_of_outside {first : Addr} (isFirst : firstAddress addrRange = some first)
    (outside : addrRange.contains first = false) (above : ∀ position ∈ current, first.toNat ≤ position.toNat + 1) :
    nextAddress addrRange last current = some first := by
  unfold nextAddress
  simp only
  split
  case isTrue => exact isFirst
  case isFalse goesUp =>
    rw [not_or, not_not, Option.any_eq_true] at goesUp
    obtain ⟨-, address, isNext, isInside⟩ := goesUp
    obtain ⟨position, isPosition, isNext⟩ := Option.bind_eq_some_iff.mp isNext
    obtain ⟨addr, isAddr, family, isSecond⟩ := firstAddress_eq_some isFirst
    have step := (Addr.next_eq_some isNext).2
    have reaches := above position isPosition
    -- the first address lies between the range's own and this one
    have inside := Prefix.contains_between (Prefix.contains_addr isInside isAddr) isInside family (by omega) (by omega)
    rw [outside] at inside
    cases inside

end Next

end FakeIP

open FakeIP

namespace Store

variable (store : Store) (isIPv6 other : Bool)

@[simp] theorem rangeFor_advance : (store.advance isIPv6).rangeFor other = store.rangeFor other := by
  cases isIPv6 <;> cases other <;> rfl

@[simp] theorem lastFor_advance : (store.advance isIPv6).lastFor other = store.lastFor other := by
  cases isIPv6 <;> cases other <;> rfl

theorem currentFor_advance :
    (store.advance isIPv6).currentFor other =
      if other = isIPv6 then nextAddress (store.rangeFor isIPv6) (store.lastFor isIPv6) (store.currentFor isIPv6)
      else store.currentFor other := by
  cases isIPv6 <;> cases other <;> rfl

end Store

end SingBox
