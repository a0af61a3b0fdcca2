import Mathlib.Algebra.Group.Nat.Defs
import Mathlib.Data.List.Basic

/-! # Big-endian byte strings

`toBigEndian` writes a natural number on a fixed number of bytes and
`ofBigEndian` reads one back.
-/

namespace Lib.Bytes

/-- The `width` low bytes of a number, most significant first. -/
def toBigEndian : Nat → Nat → List UInt8
  | 0, _ => []
  | width + 1, value => toBigEndian width (value / 256) ++ [UInt8.ofNat value]

variable (bytes : List UInt8)

def ofBigEndian : Nat :=
  bytes.foldl (fun value byte => value * 256 + byte.toNat) 0

variable (width value : Nat)

@[simp] theorem toBigEndian_length : (toBigEndian width value).length = width := by
  induction width generalizing value with
  | zero => rfl
  | succ width ih => simp [toBigEndian, ih]

@[simp] theorem ofBigEndian_append_singleton (byte : UInt8) :
    ofBigEndian (bytes ++ [byte]) = ofBigEndian bytes * 256 + byte.toNat := by
  simp [ofBigEndian]

theorem ofBigEndian_toBigEndian (bound : value < 256 ^ width) : ofBigEndian (toBigEndian width value) = value := by
  induction width generalizing value with
  | zero =>
    have : value = 0 := by simpa using bound
    subst this
    rfl
  | succ width ih =>
    have quotient : value / 256 < 256 ^ width := by
      apply Nat.div_lt_of_lt_mul
      rwa [Nat.pow_succ, Nat.mul_comm] at bound
    rw [toBigEndian, ofBigEndian_append_singleton, ih _ quotient, UInt8.toNat_ofNat']
    omega

end Lib.Bytes
