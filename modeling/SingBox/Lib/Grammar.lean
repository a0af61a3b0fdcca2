import Mathlib.Data.List.Forall2
import SingBox.Lib.Codec

/-! # What a reader accepts

A grammar is a set of byte strings, each with the value it stands for. `Accepts reader
grammar` says that the reader succeeds on exactly the inputs that start with a string of the
grammar, returns the string's value and stops behind it. Together with `Reads` of
`Lib.Codec`, which only looks at what a writer produces, it also covers the strings that no
writer would produce, such as numbers with leading zero digits.
-/

open List Nat

namespace Lib.Codec

open Lib.Bytes

abbrev Grammar (α : Type) := Bytes → α → Prop

def Accepts {α : Type} (reader : Reader α) (grammar : Grammar α) : Prop :=
  ∀ input value rest, reader.run input = .ok (value, rest) ↔ ∃ bytes, input = bytes ++ rest ∧ grammar bytes value

section Rules

variable {α β : Type} {next : α → Reader β}

theorem run_bind_eq_ok {reader : Reader α} {input rest : Bytes} {result : β} :
    (reader >>= next).run input = .ok (result, rest) ↔
      ∃ value middle, reader.run input = .ok (value, middle) ∧ (next value).run middle = .ok (result, rest) := by
  rw [StateT.run_bind]
  generalize reader.run input = answer
  cases answer with
  | error err => simp [bind, Except.bind]
  | ok answer =>
    obtain ⟨value, middle⟩ := answer
    simp [bind, Except.bind]

namespace Accepts

variable {reader : Reader α} {grammar : Grammar α}

/-- A string of the first grammar, then one of the grammar that its value selects. -/
theorem bind {nextGrammar : α → Grammar β}
    (accepts : Accepts reader grammar) (nextAccepts : ∀ value, Accepts (next value) (nextGrammar value)) :
    Accepts (reader >>= next) fun bytes result =>
      ∃ first second value, bytes = first ++ second ∧ grammar first value ∧ nextGrammar value second result := by
  intro input result rest
  rw [run_bind_eq_ok]
  constructor
  · rintro ⟨value, middle, first, second⟩
    obtain ⟨firstBytes, rfl, isFirst⟩ := (accepts _ _ _).mp first
    obtain ⟨secondBytes, rfl, isSecond⟩ := (nextAccepts _ _ _ _).mp second
    exact ⟨firstBytes ++ secondBytes, by rw [append_assoc], firstBytes, secondBytes, value, rfl, isFirst, isSecond⟩
  · rintro ⟨_, rfl, first, second, value, rfl, isFirst, isSecond⟩
    refine ⟨value, second ++ rest, (accepts _ _ _).mpr ⟨first, by rw [append_assoc], isFirst⟩, ?_⟩
    exact (nextAccepts _ _ _ _).mpr ⟨second, rfl, isSecond⟩

theorem pure (value : α) : Accepts (Pure.pure value) fun bytes result => bytes = [] ∧ result = value := by
  intro input result rest
  constructor
  · intro answer
    cases answer
    exact ⟨[], rfl, rfl, rfl⟩
  · rintro ⟨_, rfl, rfl, rfl⟩
    rfl

theorem fail (err : ReadError) : @Accepts α (fun _ => .error err) fun _ _ => False := by
  intro input result rest
  simp [StateT.run]

theorem congr {other : Grammar α} (accepts : Accepts reader grammar)
    (same : ∀ bytes value, grammar bytes value ↔ other bytes value) : Accepts reader other := by
  intro input value rest
  simp [accepts input value rest, same]

theorem ite {condition : Prop} [Decidable condition] {other : Reader α} {otherGrammar : Grammar α}
    (accepts : condition → Accepts reader grammar) (otherAccepts : ¬condition → Accepts other otherGrammar) :
    Accepts (if condition then reader else other) fun bytes value =>
      if condition then grammar bytes value else otherGrammar bytes value := by
  split
  next holds => exact accepts holds
  next fails => exact otherAccepts fails

end Accepts

end Rules

/-! ## Bytes and numbers -/

theorem accepts_byte : Accepts readByte fun bytes byte => bytes = [byte] := by
  intro input byte rest
  constructor
  · intro answer
    cases input with
    | nil => cases answer
    | cons first input =>
      cases answer
      exact ⟨[byte], rfl, rfl⟩
  · rintro ⟨_, rfl, rfl⟩
    rfl

theorem accepts_full (count : Nat) :
    Accepts (readFull count) fun bytes value => bytes = value ∧ value.length = count := by
  intro input value rest
  constructor
  · intro answer
    simp only [readFull, StateT.run] at answer
    split at answer
    next enough =>
      cases answer
      exact ⟨input.take count, (take_append_drop count input).symm, rfl, length_take_of_le enough⟩
    · cases answer
  · rintro ⟨_, rfl, rfl, length⟩
    exact reads_full length rest

theorem accepts_bigEndian (width : Nat) :
    Accepts (readBigEndian width) fun bytes value => bytes.length = width ∧ value = ofBigEndian bytes := by
  refine ((accepts_full width).bind fun bytes => Accepts.pure (ofBigEndian bytes)).congr ?_
  intro bytes value
  constructor
  · rintro ⟨first, _, _, rfl, ⟨rfl, length⟩, rfl, rfl⟩
    rw [append_nil]
    exact ⟨length, rfl⟩
  · rintro ⟨length, rfl⟩
    exact ⟨bytes, [], bytes, by rw [append_nil], ⟨rfl, length⟩, rfl, rfl⟩

/-- Digits of base 128, the low ones first; all bytes but the last have the high bit. -/
inductive Digits : Grammar Nat where
  | last {byte : UInt8} : byte.toNat < 128 → Digits [byte] byte.toNat
  | more {byte : UInt8} {bytes : Bytes} {number : Nat} :
      128 ≤ byte.toNat → Digits bytes number → Digits (byte :: bytes) (byte.toNat - 128 + 128 * number)

/-- A number of 64 bits on at most ten bytes; leading zeros are allowed. -/
structure IsUvarint (bytes : Bytes) (number : Nat) : Prop where
  digits : Digits bytes number
  short : bytes.length ≤ maxVarintLen64
  fits : number < 2 ^ 64

theorem accepts_uvarintFrom (left value scale : Nat) :
    Accepts (readUvarintFrom (left + 1) value scale) fun bytes result =>
      ∃ number, Digits bytes number ∧ bytes.length ≤ left + 1 ∧ number < 2 * 128 ^ left ∧ result = value + number * scale := by
  induction left generalizing value scale with
  | zero =>
    intro input result rest
    constructor
    · intro answer
      cases input with
      | nil => cases answer
      | cons byte input =>
        rw [StateT.run, readUvarintFrom_cons] at answer
        split at answer
        next isLast =>
          split at answer
          · cases answer
          next small =>
            cases answer
            exact ⟨[byte], rfl, byte.toNat, .last isLast, by simp, by simp at small ⊢; omega, rfl⟩
        · cases answer
    · rintro ⟨_, rfl, number, digits, short, small, rfl⟩
      cases digits with
      | @last byte isLast =>
        rw [StateT.run, singleton_append, readUvarintFrom_cons, if_pos isLast, if_neg (by omega)]
      | @more byte bytes number _ digits => cases digits <;> simp at short
  | succ left ih =>
    intro input result rest
    constructor
    · intro answer
      cases input with
      | nil => cases answer
      | cons byte input =>
        rw [StateT.run, readUvarintFrom_cons] at answer
        split at answer
        next isLast =>
          cases answer
          have positive : 0 < 128 ^ left := Nat.pow_pos (by decide)
          refine ⟨[byte], rfl, byte.toNat, .last isLast, by simp, ?_, rfl⟩
          omega
        next isMore =>
          obtain ⟨bytes, rfl, number, digits, short, small, rfl⟩ := (ih _ _ _ _ _).mp answer
          have byteBound := byte.toNat_lt
          refine ⟨byte :: bytes, rfl, _, .more (by omega) digits, by simp; omega, ?_, ?_⟩
          · omega
          · ring
    · rintro ⟨_, rfl, number, digits, short, small, rfl⟩
      cases digits with
      | @last byte isLast =>
        rw [StateT.run, singleton_append, readUvarintFrom_cons, if_pos isLast, if_neg (by omega)]
      | @more byte bytes number isMore digits =>
        rw [StateT.run, cons_append, readUvarintFrom_cons, if_neg (by omega)]
        refine (ih _ _ _ _ _).mpr ⟨bytes, rfl, number, digits, by simpa using short, ?_, by ring⟩
        omega

theorem accepts_uvarint : Accepts readUvarint IsUvarint := by
  refine (accepts_uvarintFrom 9 0 1).congr ?_
  intro bytes value
  constructor
  · rintro ⟨number, digits, short, small, rfl⟩
    rw [zero_add, mul_one]
    exact ⟨digits, short, small⟩
  · rintro ⟨digits, short, small⟩
    exact ⟨value, digits, short, small, by rw [zero_add, mul_one]⟩

/-! ## Repetition -/

/-- One string of the grammar for each value, one after the other. -/
def Sequence {α : Type} (grammar : Grammar α) : Grammar (List α) := fun bytes values =>
  ∃ parts : List Bytes, bytes = parts.flatten ∧ List.Forall₂ grammar parts values

theorem accepts_manyFrom {α : Type} {reader : Nat → Reader α} {grammar : Grammar α}
    (accepts : ∀ index, Accepts (reader index) grammar) (index count : Nat) :
    Accepts (readManyFrom reader index count) fun bytes values => values.length = count ∧ Sequence grammar bytes values := by
  induction count generalizing index with
  | zero =>
    refine (Accepts.pure []).congr ?_
    intro bytes values
    constructor
    · rintro ⟨rfl, rfl⟩
      exact ⟨rfl, [], rfl, .nil⟩
    · rintro ⟨isEmpty, parts, rfl, each⟩
      rw [length_eq_zero_iff] at isEmpty
      subst isEmpty
      cases each
      exact ⟨rfl, rfl⟩
  | succ count ih =>
    refine ((accepts index).bind fun item => (ih (index + 1)).bind fun items =>
      Accepts.pure (item :: items)).congr ?_
    intro bytes values
    constructor
    · rintro ⟨first, _, item, rfl, isItem, second, _, items, rfl, ⟨length, parts, rfl, each⟩, rfl, rfl⟩
      refine ⟨by rw [length_cons, length], first :: parts, ?_, .cons isItem each⟩
      rw [append_nil, flatten_cons]
    · rintro ⟨length, parts, rfl, each⟩
      cases each with
      | nil => cases length
      | @cons first item parts items isItem each =>
        refine ⟨first, parts.flatten, item, flatten_cons, isItem, parts.flatten, [], items,
          by rw [append_nil], ⟨?_, parts, rfl, each⟩, rfl, rfl⟩
        rwa [length_cons, add_right_cancel_iff] at length

end Lib.Codec
