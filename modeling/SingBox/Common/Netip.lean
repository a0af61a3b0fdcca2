import SingBox.Lib.Bytes

/-! # IP addresses, prefixes and socket addresses

The parts of `netip` and of sing's `M.Socksaddr` that the rules, the router and
the rule-set format look at. The zero `netip.Addr`, which is not valid, is
`none` wherever the source may hold one.
-/

namespace SingBox

open Lib.Bytes

inductive Addr where
  | v4 (value : BitVec 32)
  | v6 (value : BitVec 128)
deriving DecidableEq, Repr

namespace Addr

def is4 : Addr → Bool
  | .v4 _ => true
  | .v6 _ => false

def is6 : Addr → Bool
  | .v4 _ => false
  | .v6 _ => true

def bitLen : Addr → Nat
  | .v4 _ => 32
  | .v6 _ => 128

/-- An IPv4 address embedded in `::ffff:0:0/96` becomes the IPv4 address. -/
def unmap : Addr → Addr
  | .v4 value => .v4 value
  | .v6 value => if value.toNat / 2 ^ 32 = 0xffff then .v4 (BitVec.ofNat 32 value.toNat) else .v6 value

/-- An IPv6 address of `::ffff:0:0/96`. -/
def is4In6 : Addr → Bool
  | .v4 _ => false
  | .v6 value => value.toNat / 2 ^ 32 == 0xffff

def asSlice : Addr → List UInt8
  | .v4 value => toBigEndian 4 value.toNat
  | .v6 value => toBigEndian 16 value.toNat

/-- `netip.AddrFromSlice`, which is what sing's `M.AddrFromIP` calls. -/
def ofSlice (bytes : List UInt8) : Option Addr :=
  if bytes.length = 4 then some (.v4 (BitVec.ofNat 32 (ofBigEndian bytes)))
  else if bytes.length = 16 then some (.v6 (BitVec.ofNat 128 (ofBigEndian bytes)))
  else none

theorem unmap_of_not_is4In6 {addr : Addr} (plain : addr.is4In6 = false) : addr.unmap = addr := by
  cases addr with
  | v4 value => rfl
  | v6 value =>
    rw [is4In6, beq_eq_false_iff_ne] at plain
    exact if_neg plain

theorem ofSlice_asSlice (addr : Addr) : ofSlice addr.asSlice = some addr := by
  cases addr with
  | v4 value =>
    have bound : value.toNat < 256 ^ 4 := value.isLt
    simp [ofSlice, asSlice, ofBigEndian_toBigEndian 4 _ bound]
  | v6 value =>
    have bound : value.toNat < 256 ^ 16 := value.isLt
    simp [ofSlice, asSlice, ofBigEndian_toBigEndian 16 _ bound]

end Addr

/-- `netip.Prefix`: `bits` is `none` for an invalid prefix, whose `Bits` is -1. -/
structure Prefix where
  addr : Option Addr
  bits : Option Nat
deriving DecidableEq, Repr

namespace Prefix

/-- `netip.PrefixFrom`. -/
def ofAddr (addr : Option Addr) (bits : Nat) : Prefix :=
  match addr with
  | some ip => ⟨some ip, if bits ≤ ip.bitLen then some bits else none⟩
  | none => ⟨none, none⟩

variable (network : Prefix)

def isValid : Bool := network.bits.isSome

/-- The network part of an address: its leading `bits` bits. -/
def leading (bits : Nat) : Addr → Nat
  | .v4 value => value.toNat >>> (32 - bits)
  | .v6 value => value.toNat >>> (128 - bits)

def contains (ip : Addr) : Bool :=
  match network.addr, network.bits with
  | some addr, some bits => addr.is4 == ip.is4 && leading bits addr == leading bits ip
  | _, _ => false

/-- The prefix with the host part cleared; the zero prefix if there is none. -/
def masked : Prefix :=
  match network.addr, network.bits with
  | some (.v4 value), some bits =>
    if bits ≤ 32 then ⟨some (.v4 (value >>> (32 - bits) <<< (32 - bits))), some bits⟩ else ⟨none, none⟩
  | some (.v6 value), some bits =>
    if bits ≤ 128 then ⟨some (.v6 (value >>> (128 - bits) <<< (128 - bits))), some bits⟩ else ⟨none, none⟩
  | _, _ => ⟨none, none⟩

/-- The values that `netip` builds: a prefix is valid only with an address that has the bits. -/
def Proper : Prop :=
  ∀ bits, network.bits = some bits → ∃ ip, network.addr = some ip ∧ bits ≤ ip.bitLen

def overlaps (network other : Prefix) : Bool :=
  match network.addr, network.bits, other.addr, other.bits with
  | some addr, some bits, some otherAddr, some otherBits =>
    addr.is4 == otherAddr.is4 &&
      leading (min bits otherBits) addr == leading (min bits otherBits) otherAddr
  | _, _, _, _ => false

end Prefix

theorem Socksaddr.exclusive_none : (none : Option Addr) = none ∨ "" = "" := .inl rfl

theorem Socksaddr.exclusive_some (addr : Addr) : some addr = none ∨ "" = "" := .inr rfl

/-- `M.Socksaddr`. The constructors of sing and of the router fill in an IP or a
domain name, never both. -/
structure Socksaddr where
  addr : Option Addr := none
  fqdn : String := ""
  port : UInt16 := 0
  exclusive : addr = none ∨ fqdn = "" := by
    first | exact SingBox.Socksaddr.exclusive_none | exact SingBox.Socksaddr.exclusive_some _ | simp

namespace Socksaddr

@[ext] theorem ext' {a b : Socksaddr} (addr : a.addr = b.addr) (fqdn : a.fqdn = b.fqdn)
    (port : a.port = b.port) : a = b := by
  cases a; cases b; simp_all

instance : DecidableEq Socksaddr := fun a b =>
  decidable_of_iff (a.addr = b.addr ∧ a.fqdn = b.fqdn ∧ a.port = b.port)
    ⟨fun ⟨addr, fqdn, port⟩ => ext' addr fqdn port, fun equal => by simp [equal]⟩

def ofAddr (addr : Addr) (port : UInt16) : Socksaddr := { addr := some addr, port }

def ofFqdn (fqdn : String) (port : UInt16) : Socksaddr := { fqdn, port }

variable (address : Socksaddr)

def isIP : Bool := address.addr.isSome

def isIPv4 : Bool := address.addr.any Addr.is4

def isIPv6 : Bool := address.addr.any Addr.is6

/-- The same host at another port. -/
def withPort (port : UInt16) : Socksaddr := { address with port }

end Socksaddr

end SingBox
