import Mathlib.Tactic

/-! # Longest-prefix-match tries

A trie maps keys of `width` bits, of which the first `prefixLength` count. A lookup
answers with the longest key whose leading bits are those of the value. What the
programs ask is only whether there is an answer, so the order of the keys and keys
that repeat do not matter.
-/

namespace Lib.Lpm

structure Key (width : Nat) where
  prefixLength : Nat
  data : BitVec width
deriving DecidableEq, Repr

variable {width : Nat}

def leading (length : Nat) (value : BitVec width) : Nat := value.toNat >>> (width - length)

def Key.covers (key : Key width) (value : BitVec width) : Bool :=
  leading key.prefixLength key.data == leading key.prefixLength value

variable (trie : List (Key width)) (value : BitVec width)

def lookup : Option (Key width) :=
  (trie.filter fun key => key.covers value).argmax Key.prefixLength

/-- `map_lookup(trie, key) != 0`. -/
def found : Bool := (lookup trie value).isSome

theorem found_iff {trie : List (Key width)} {value : BitVec width} :
    found trie value ↔ ∃ key ∈ trie, key.covers value := by
  rw [found, Option.isSome_iff_ne_none, lookup, Ne, List.argmax_eq_none, List.filter_eq_nil_iff]
  push Not
  rfl

theorem found_filterMap {α : Type*} (key : α → Option (Key width)) (items : List α) :
    found (items.filterMap key) value = items.any fun item => (key item).any (·.covers value) := by
  rw [Bool.eq_iff_iff, found_iff]
  simp only [List.mem_filterMap, List.any_eq_true, Option.any_eq_true]
  grind

/-- An aligned block of `2 ^ shift` values is one key. -/
theorem covers_block {shift : Nat} {start value : BitVec width} (fits : shift ≤ width)
    (aligned : 2 ^ shift ∣ start.toNat) :
    Key.covers ⟨width - shift, start⟩ value ↔
      start.toNat ≤ value.toNat ∧ value.toNat < start.toNat + 2 ^ shift := by
  obtain ⟨quotient, isMultiple⟩ := aligned
  have positive : 0 < 2 ^ shift := Nat.two_pow_pos shift
  simp only [Key.covers, leading, beq_iff_eq, Nat.sub_sub_self fits, Nat.shiftRight_eq_div_pow, isMultiple,
    Nat.mul_div_cancel_left _ positive]
  rw [eq_comm, Nat.div_eq_iff positive]
  constructor
  · rintro ⟨lower, upper⟩
    rw [Nat.mul_comm] at lower upper
    omega
  · rintro ⟨lower, upper⟩
    rw [Nat.mul_comm quotient]
    omega

end Lib.Lpm
