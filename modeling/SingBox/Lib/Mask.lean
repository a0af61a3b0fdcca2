import Mathlib.Tactic

/-! # Byte masks as sets of bits

A mask held in one byte is read bit by bit: `has` turns the bitwise operations
into Boolean ones, and `eq_zero_iff` turns the usual test against zero into
"no bit is set". A word of flags is built flag by flag and read the same way.
-/

open BitVec

namespace Lib.Mask

def has (mask : UInt8) (index : Fin 8) : Bool := mask.toBitVec.getLsbD index

/-- The mask of one bit. -/
def bit (index : Fin 8) : UInt8 := 1 <<< UInt8.ofNat index

theorem ext {first second : UInt8} (same : ∀ index, has first index = has second index) : first = second := by
  apply UInt8.toBitVec_inj.mp
  apply eq_of_getLsbD_eq
  intro index bound
  exact same ⟨index, bound⟩

variable (index : Fin 8)

@[simp] theorem has_zero : has 0 index = false := by
  simp [has]

variable (first second : UInt8)

@[simp] theorem has_or (index : Fin 8) : has (first ||| second) index = (has first index || has second index) := by
  simp [has]

@[simp] theorem has_and (index : Fin 8) : has (first &&& second) index = (has first index && has second index) := by
  simp [has]

variable (mask : UInt8)

@[simp] theorem has_not : has (~~~mask) index = !has mask index := by
  simp [has]

@[simp] theorem has_bit (first second : Fin 8) : has (bit first) second = decide (first = second) := by
  revert first second
  decide

theorem eq_zero_iff : mask = 0 ↔ ∀ index, has mask index = false := by
  constructor
  · rintro rfl index
    exact has_zero index
  · intro unset
    exact ext fun index => by rw [unset, has_zero]

theorem and_bit_eq_zero_iff : mask &&& bit index = 0 ↔ has mask index = false := by
  rw [eq_zero_iff]
  constructor
  · intro unset
    simpa using unset index
  · intro unset other
    rw [has_and, has_bit, Bool.and_eq_false_iff, decide_eq_false_iff_not]
    by_cases same : index = other
    · exact .inl (same ▸ unset)
    · exact .inr same

/-! ## Words of flags -/

variable (flags : BitVec 32)

/-- The flags, with one of them set if `on`. -/
def withFlag (on : Bool) (bit : Nat) : BitVec 32 :=
  if on then flags ||| (1#32 <<< bit) else flags

def withoutFlag (bit : Nat) : BitVec 32 := flags &&& ~~~(1#32 <<< bit)

/-- `(flags & (1 << bit)) != 0`. -/
def hasFlag (bit : Nat) : Bool := flags &&& (1#32 <<< bit) != 0

variable {bit index : Nat} {flags : BitVec 32}

theorem getLsbD_flag (bound : index < 32) : (1#32 <<< bit).getLsbD index = decide (bit = index) := by
  grind

theorem hasFlag_eq_getLsbD (bound : bit < 32) : hasFlag flags bit = flags.getLsbD bit := by
  rw [hasFlag, Bool.eq_iff_iff, bne_iff_ne]
  constructor
  · contrapose
    intro unset
    apply eq_of_getLsbD_eq
    intro index indexBound
    rw [getLsbD_and, getLsbD_flag indexBound]
    by_cases same : bit = index
    · simp [← same, unset]
    · simp [same]
  · intro isSet isZero
    have := congrArg (getLsbD · bit) isZero
    simp [getLsbD_flag bound, isSet] at this

@[simp] theorem hasFlag_zero (bit : Nat) : hasFlag 0#32 bit = false := by
  simp [hasFlag]

@[simp] theorem hasFlag_withFlag {on : Bool} (bound : index < 32) :
    hasFlag (withFlag flags on bit) index = (hasFlag flags index || (on && decide (bit = index))) := by
  rw [hasFlag_eq_getLsbD bound, hasFlag_eq_getLsbD bound, withFlag]
  cases on <;> simp [getLsbD_flag bound]

@[simp] theorem hasFlag_withoutFlag (bound : index < 32) :
    hasFlag (withoutFlag flags bit) index = (hasFlag flags index && !decide (bit = index)) := by
  rw [hasFlag_eq_getLsbD bound, hasFlag_eq_getLsbD bound, withoutFlag, getLsbD_and, getLsbD_not,
    getLsbD_flag bound, decide_eq_true bound, Bool.true_and]

end Lib.Mask
